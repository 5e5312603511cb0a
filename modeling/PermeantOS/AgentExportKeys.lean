import PermeantOS.AgentExported

namespace PermeantOS

variable {P : Type} {host : AgentHost P}

section Clean

variable {session : LocalSession} {record : ArtifactRecord} {prompt : String}

theorem noSecrets_sortKeys {value : Json P} (h : NoSecrets value) : NoSecrets (sortKeys value) := by
  induction value using Json.deepInduction with
  | null => exact h
  | bool _ => exact h
  | int _ => exact h
  | float _ => exact h
  | str _ => exact h
  | list items ih =>
    rw [sortKeys_list]
    rw [noSecrets_list_iff] at h ⊢
    intro item hitem
    obtain ⟨child, hchild, rfl⟩ := List.mem_map.mp hitem
    exact ih child hchild (h child hchild)
  | dict fields ih =>
    rw [sortKeys_dict]
    rw [noSecrets_dict_iff] at h ⊢
    intro field hfield
    obtain ⟨child, hchild, heq⟩ := mem_sortedFields_iff.mp hfield
    rw [heq]
    exact ⟨(h _ hchild).1, ih _ hchild (h _ hchild).2⟩

mutual

/-- The keys of all dicts in a value. -/
def allKeys : Json P → List String
  | .dict fields => fieldKeys fields
  | .list items => itemKeys items
  | _ => []

def fieldKeys : Fields P → List String
  | [] => []
  | (key, value) :: fields => key :: (allKeys value ++ fieldKeys fields)

def itemKeys : List (Json P) → List String
  | [] => []
  | item :: items => allKeys item ++ itemKeys items

end

def keyCodes (key : String) : List Nat := (asBytes key).map UInt8.toNat

/-- The bytes of something that is not forbidden and has no capital letters. -/
def allowedCodes (codes : List Nat) : Bool :=
  (codes.all fun code => code < 65 || (90 < code && code < 128)) &&
    !(forbiddenSecretKeys.map keyCodes).contains codes

/-- No key of some names is forbidden, as their bytes show. -/
def allowedKeys (keys : List String) : Bool := keys.all fun key => allowedCodes (keyCodes key)

theorem lowerChar_of_ascii {c : Char} (h : ∀ byte ∈ String.utf8EncodeChar c,
    byte.toNat < 65 ∨ 90 < byte.toNat ∧ byte.toNat < 128) : lowerChar c = c := by
  obtain ⟨byte, hbyte⟩ : ∃ byte, (String.utf8EncodeChar c).head? = some byte := by
    cases hhead : (String.utf8EncodeChar c).head? with
    | some byte => exact ⟨byte, rfl⟩
    | none => exact absurd (List.head?_eq_none_iff.mp hhead) String.utf8EncodeChar_ne_nil
  have hcode := h byte (List.mem_of_mem_head? hbyte)
  have hnat := toNat_of_utf8EncodeChar (by omega) hbyte
  have hupper : ¬('A' ≤ c ∧ c ≤ 'Z') := by
    rw [Char.le_def, Char.le_def, UInt32.le_iff_toNat_le, UInt32.le_iff_toNat_le]
    have hfirst : 'A'.val.toNat = 65 := rfl
    have hlast : 'Z'.val.toNat = 90 := rfl
    have hvalue : c.val.toNat = c.toNat := rfl
    omega
  have hkelvin : c ≠ '\u212a' := by
    rintro rfl
    have hvalue : '\u212a'.toNat = 8490 := rfl
    omega
  rw [lowerChar, if_neg hupper, if_neg hkelvin]

theorem isForbiddenKey_of_allowed {keys : List String} (h : allowedKeys keys = true) {key : String}
    (hkey : key ∈ keys) : isForbiddenKey key = false := by
  rw [allowedKeys, List.all_eq_true] at h
  obtain ⟨hcodes, hother⟩ := Bool.and_eq_true_iff.mp (h key hkey)
  have hlower : key.toList.map lowerChar = key.toList := by
    rw [List.map_congr_left (g := id), List.map_id]
    intro c hc
    apply lowerChar_of_ascii
    intro byte hbyte
    have hmem : byte ∈ asBytes key := by
      rw [asBytes_eq_flatMap]
      exact List.mem_flatMap.mpr ⟨c, hc, hbyte⟩
    have hcode := List.all_eq_true.mp hcodes byte.toNat (List.mem_map_of_mem hmem)
    simpa using hcode
  rw [isForbiddenKey, hlower, String.ofList_toList, decide_eq_false_iff_not]
  intro hmem
  rw [Bool.not_eq_true', List.contains_eq_mem, decide_eq_false_iff_not] at hother
  exact hother (List.mem_map_of_mem hmem)

theorem fieldKeys_append (fields fields' : Fields P) :
    fieldKeys (fields ++ fields') = fieldKeys fields ++ fieldKeys fields' := by
  induction fields with
  | nil => rfl
  | cons field fields ih => rw [List.cons_append, fieldKeys, fieldKeys, ih, List.cons_append, List.append_assoc]

theorem mem_fieldKeys {fields : Fields P} {field : String × Json P} (h : field ∈ fields) :
    field.1 ∈ fieldKeys fields ∧ allKeys field.2 ⊆ fieldKeys fields := by
  obtain ⟨front, back, rfl⟩ := List.append_of_mem h
  rw [fieldKeys_append, fieldKeys]
  exact ⟨by simp, fun key hkey => by simp [hkey]⟩

theorem mem_itemKeys {items : List (Json P)} {item : Json P} (h : item ∈ items) :
    allKeys item ⊆ itemKeys items := by
  induction items with
  | nil => cases h
  | cons first items ih =>
    rw [itemKeys]
    obtain rfl | hmem := List.mem_cons.mp h
    · exact List.subset_append_left _ _
    · exact List.Subset.trans (ih hmem) (List.subset_append_right _ _)

theorem noSecrets_of_allKeys {value : Json P} (h : allowedKeys (allKeys value) = true) : NoSecrets value := by
  have hkeys : ∀ key ∈ allKeys value, isForbiddenKey key = false := fun key hkey => isForbiddenKey_of_allowed h hkey
  clear h
  induction value using Json.deepInduction with
  | null => rfl
  | bool _ => rfl
  | int _ => rfl
  | float _ => rfl
  | str _ => rfl
  | list items ih =>
    rw [noSecrets_list_iff]
    intro item hitem
    exact ih item hitem fun key hkey => hkeys key (mem_itemKeys hitem hkey)
  | dict fields ih =>
    rw [noSecrets_dict_iff]
    intro field hfield
    obtain ⟨hkey, hvalue⟩ := mem_fieldKeys hfield
    exact ⟨hkeys field.1 hkey, ih field hfield fun key hmem => hkeys key (hvalue hmem)⟩

/-- A node has no secrets where the entries of its own have none. -/
theorem noSecrets_baseNode {nodeId nodeType actorId scope tier sensitivity retention redaction : String}
    {own : Fields P} (hkeys : allowedKeys (fieldKeys own) = true) :
    NoSecrets (baseNode host ⟨nodeId, nodeType,
      payloadHead actorId scope tier sensitivity retention redaction ++ own⟩) := by
  have hcommon : allowedKeys ["id", "type", "created_at", "content_hash", "provenance", "runtime", "captured_at",
    "adapter", "actor_id", "memory_scope", "memory_tier", "sensitivity", "retention", "redaction_state"] =
      true := by decide +kernel
  apply noSecrets_of_allKeys
  rw [baseNode, GraphNode.fields, ← List.append_assoc, allKeys, fieldKeys_append, allowedKeys, List.all_append]
  exact Bool.and_eq_true_iff.mpr ⟨hcommon, hkeys⟩

theorem noSecrets_exportNodes : ∀ node ∈ exportNodes host session record prompt,
    NoSecrets (baseNode host node) := by
  intro node hnode
  rw [exportNodes, List.mem_cons, List.mem_append, List.mem_map] at hnode
  obtain rfl | ⟨entry, _, rfl⟩ | hnode := hnode
  · apply noSecrets_baseNode
    simp only [fieldKeys, allKeys, List.nil_append]
    decide +kernel
  · apply noSecrets_baseNode
    simp only [fieldKeys, allKeys, List.nil_append]
    decide +kernel
  · simp only [List.mem_cons, List.not_mem_nil, or_false] at hnode
    obtain rfl | rfl | rfl | rfl | rfl | rfl | rfl | rfl := hnode
    · apply noSecrets_baseNode
      simp only [fieldKeys, allKeys, itemKeys, List.nil_append]
      decide +kernel
    · apply noSecrets_baseNode
      simp only [fieldKeys, allKeys, itemKeys, List.nil_append]
      decide +kernel
    · rw [artifactNode, artifactNodePayload, List.append_assoc]
      apply noSecrets_baseNode
      by_cases hpackaged : record.disposition = .packaged
      · simp only [hpackaged, if_true, List.append_nil, fieldKeys, allKeys, List.nil_append]
        decide +kernel
      · simp only [hpackaged, if_false, List.cons_append, fieldKeys, allKeys, List.nil_append]
        decide +kernel
    · apply noSecrets_baseNode
      simp only [fieldKeys, allKeys, itemKeys, decimal, List.nil_append, List.append_nil, List.cons_append]
      decide +kernel
    · apply noSecrets_baseNode
      simp only [fieldKeys, allKeys, List.nil_append]
      decide +kernel
    · apply noSecrets_baseNode
      simp only [fieldKeys, allKeys, itemKeys, decimal, List.nil_append, List.append_nil, List.cons_append]
      decide +kernel
    · apply noSecrets_baseNode
      simp only [promptSpan, fieldKeys, allKeys, itemKeys, List.nil_append]
      decide +kernel
    · apply noSecrets_baseNode
      simp only [fieldKeys, allKeys, List.nil_append]
      decide +kernel

theorem noSecrets_exportEdges : ∀ item ∈ (exportEdges session : List (Json P)), NoSecrets item := by
  have hedge (source target kind : String) : NoSecrets (edge source target kind : Json P) := by
    apply noSecrets_of_allKeys
    simp only [edge, allKeys, fieldKeys, List.nil_append]
    decide +kernel
  have hmessages : ∀ (nodeIds : List String) (previous : String),
      ∀ item ∈ (messageEdges previous nodeIds : List (Json P)), NoSecrets item := by
    intro nodeIds
    induction nodeIds with
    | nil => simp [messageEdges]
    | cons nodeId nodeIds ih =>
      intro previous
      rw [messageEdges, List.forall_mem_cons]
      exact ⟨hedge _ _ _, ih nodeId⟩
  intro item hitem
  rw [exportEdges, List.mem_append] at hitem
  obtain hitem | hitem := hitem
  · exact hmessages _ _ item hitem
  · simp only [List.mem_cons, List.not_mem_nil, or_false] at hitem
    obtain rfl | rfl | rfl | rfl | rfl | rfl | rfl | rfl := hitem
    all_goals exact hedge _ _ _

theorem noSecrets_of_fields {fields : Fields P} (hkeys : allowedKeys (fields.map (·.1)) = true)
    (hvalues : ∀ value ∈ fields.map (·.2), NoSecrets value) : NoSecrets (.dict fields) := by
  rw [noSecrets_dict_iff]
  intro field hfield
  exact ⟨isForbiddenKey_of_allowed hkeys (List.mem_map_of_mem hfield),
    hvalues field.2 (List.mem_map_of_mem hfield)⟩

theorem noSecrets_exportedGraph : NoSecrets (exportedGraph host session record prompt) := by
  apply noSecrets_of_fields
  · simp only [graphFields, graphBody, List.cons_append, List.nil_append, List.map_cons, List.map_nil]
    decide +kernel
  · have hnodes : NoSecrets (.list ((exportNodes host session record prompt).map (baseNode host))) := by
      rw [noSecrets_list_iff]
      intro item hitem
      obtain ⟨node, hnode, rfl⟩ := List.mem_map.mp hitem
      exact noSecrets_exportNodes node hnode
    have hedges : NoSecrets (.list (exportEdges session) : Json P) := noSecrets_list_iff.mpr noSecrets_exportEdges
    simp only [graphFields, graphBody, List.cons_append, List.nil_append, List.map_cons, List.map_nil,
      List.forall_mem_cons, hnodes, hedges, true_and]
    refine ⟨rfl, rfl, rfl, ?_, ?_, ?_, ?_, ?_, rfl, by simp⟩
    all_goals
      apply noSecrets_of_allKeys
      simp only [exportPolicies, promptSpan, allKeys, fieldKeys, itemKeys, List.nil_append, List.append_nil,
        List.cons_append]
      decide +kernel

theorem itemKeys_floats (values : List P) : itemKeys (values.map Json.float) = [] := by
  induction values with
  | nil => rfl
  | cons value values ih => rw [List.map_cons, itemKeys, ih]; rfl

theorem noSecrets_manifestArtifact : NoSecrets (manifestArtifact record : Json P) := by
  apply noSecrets_of_allKeys
  rw [manifestArtifact, manifestArtifactFields]
  cases record.blobPath with
  | none =>
    cases record.rebindRequired
    all_goals
      simp only [Option.toList_none, List.map_nil, List.append_nil, Bool.false_eq_true, if_false, if_true,
        List.cons_append, List.nil_append, allKeys, fieldKeys]
      decide +kernel
  | some blobPath =>
    cases record.rebindRequired
    all_goals
      simp only [Option.toList_some, List.map_cons, List.map_nil, List.append_nil, Bool.false_eq_true, if_false,
        if_true, List.cons_append, List.nil_append, allKeys, fieldKeys]
      decide +kernel

theorem noSecrets_artifactPolicyEntries (disposition : Disposition) :
    NoSecrets (artifactPolicyEntries record disposition : Json P) := by
  rw [artifactPolicyEntries]
  split
  next => rfl
  next =>
    apply noSecrets_of_allKeys
    simp only [allKeys, fieldKeys, itemKeys, List.nil_append, List.append_nil]
    decide +kernel

theorem noSecrets_exportedManifest : NoSecrets (exportedManifest host session record prompt) := by
  have hartifacts : NoSecrets (.list [manifestArtifact record] : Json P) :=
    noSecrets_list_iff.mpr (by simpa using noSecrets_manifestArtifact)
  have hpolicy : NoSecrets (.dict [("version", .str "artifact-export-policy-v0"),
      ("excluded_artifacts", artifactPolicyEntries record .excluded),
      ("redacted_artifacts", artifactPolicyEntries record .redacted)] : Json P) := by
    apply noSecrets_of_fields
    · simp only [List.map_cons, List.map_nil]
      decide +kernel
    · simp only [List.map_cons, List.map_nil, List.forall_mem_cons, noSecrets_artifactPolicyEntries, true_and]
      exact ⟨rfl, by simp⟩
  apply noSecrets_of_fields
  · simp only [exportedManifestFields, manifestFields, List.map_cons, List.map_nil]
    decide +kernel
  · simp only [exportedManifestFields, manifestFields, List.map_cons, List.map_nil, List.forall_mem_cons,
      hartifacts, hpolicy, true_and]
    refine ⟨rfl, rfl, rfl, rfl, ?_, ?_, ?_, ?_, ?_, ?_, ?_, ?_, rfl, by simp⟩
    all_goals
      apply noSecrets_of_allKeys
      simp only [promptFields, kvFields, promptSpan, reportSnapshot, VectorSnapshot.json, VectorSnapshot.fields,
        VectorRecord.json, VectorRecord.fields, reportRecord, reportResult, AuditEntry.json, writeCallAudit,
        exportedSecurity, securityFields, exportEvent, policyHooks, exportedHash, itemKeys_floats,
        allowedArtifactPathPrefixes, allKeys, fieldKeys, itemKeys, List.map_cons, List.map_nil, List.nil_append,
        List.append_nil, List.cons_append]
      decide +kernel

end Clean

section Printed

variable {session : LocalSession} {record : ArtifactRecord} {prompt : String}

theorem printable_exportEdges : ∀ item ∈ (exportEdges session : List (Json P)),
    Printable host.floatRepr host.parseFloat item := by
  have hedge (source target kind : String) : Printable host.floatRepr host.parseFloat (edge source target kind) := by
    simp [edge, Printable, PrintableFields]
  have hmessages : ∀ (nodeIds : List String) (previous : String),
      ∀ item ∈ (messageEdges previous nodeIds : List (Json P)), Printable host.floatRepr host.parseFloat item := by
    intro nodeIds
    induction nodeIds with
    | nil => simp [messageEdges]
    | cons nodeId nodeIds ih =>
      intro previous
      rw [messageEdges, List.forall_mem_cons]
      exact ⟨hedge _ _ _, ih nodeId⟩
  intro item hitem
  rw [exportEdges, List.mem_append] at hitem
  obtain hitem | hitem := hitem
  · exact hmessages _ _ item hitem
  · simp only [List.mem_cons, List.not_mem_nil, or_false] at hitem
    obtain rfl | rfl | rfl | rfl | rfl | rfl | rfl | rfl := hitem
    all_goals exact hedge _ _ _

theorem printable_exportedGraph (h : ExportFloats host) :
    Printable host.floatRepr host.parseFloat (exportedGraph host session record prompt) := by
  have hnodes : PrintableItems host.floatRepr host.parseFloat
      ((exportNodes host session record prompt).map (baseNode host)) := by
    rw [printableItems_iff]
    intro item hitem
    obtain ⟨node, hnode, rfl⟩ := List.mem_map.mp hitem
    exact printable_exportNodes h node hnode
  have hedges : PrintableItems host.floatRepr host.parseFloat (exportEdges session) :=
    printableItems_iff.mpr printable_exportEdges
  refine ⟨uniqueKeys_graphFields, ?_⟩
  simp [graphFields, graphBody, PrintableFields, PrintableItems, Printable, hnodes, hedges, exportPolicies,
    promptSpan]

theorem printable_exportedManifest (h : ExportFloats host) :
    Printable host.floatRepr host.parseFloat (exportedManifest host session record prompt) := by
  have hembedding : PrintableItems host.floatRepr host.parseFloat
      ((deterministicEmbedding host reportText).map .float) := by
    rw [printableItems_iff]
    intro item hitem
    obtain ⟨x, hx, rfl⟩ := List.mem_map.mp hitem
    exact h.embedding x hx
  have hartifact : Printable host.floatRepr host.parseFloat (manifestArtifact record) := by
    rw [manifestArtifact, manifestArtifactFields]
    cases record.blobPath with
    | none => cases record.rebindRequired <;> simp [Printable, PrintableFields]
    | some blobPath => cases record.rebindRequired <;> simp [Printable, PrintableFields]
  have hentries (disposition : Disposition) :
      Printable host.floatRepr host.parseFloat (artifactPolicyEntries record disposition) := by
    rw [artifactPolicyEntries]
    split
    next => simp [Printable, PrintableItems]
    next => simp [Printable, PrintableItems, PrintableFields]
  refine ⟨uniqueKeys_manifest, ?_⟩
  simp [exportedManifestFields, manifestFields, PrintableFields, PrintableItems, Printable, hembedding, hartifact,
    hentries, promptFields, kvFields, promptSpan, reportSnapshot, VectorSnapshot.json, VectorSnapshot.fields,
    VectorRecord.json, VectorRecord.fields, reportRecord, reportResult, AuditEntry.json, writeCallAudit,
    exportedSecurity, securityFields, exportEvent, policyHooks, exportedHash, h.score, allowedArtifactPathPrefixes]

end Printed

end PermeantOS
