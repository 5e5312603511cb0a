import PermeantOS.AgentTrust

namespace PermeantOS

variable {P : Type} (host : AgentHost P)

section Dicts

theorem mem_of_lookup {fields : Fields P} {key : String} {value : Json P}
    (h : fields.lookup key = some value) : (key, value) ∈ fields := by
  obtain ⟨before, after, rfl, _⟩ := List.lookup_eq_some_iff.mp h
  simp

theorem mem_dictInsert {fields : Fields P} {key : String} {value : Json P} {field : String × Json P}
    (h : field ∈ dictInsert fields key value) : field ∈ fields ∨ field = (key, value) := by
  unfold dictInsert at h
  split at h
  next =>
    obtain ⟨old, hold, rfl⟩ := List.mem_map.mp h
    split
    · exact Or.inr rfl
    · exact Or.inl hold
  next => simpa using h

/-- A field that is filtered away can be set to anything. -/
theorem filter_dictInsert (fields : Fields P) (key : String) (value : Json P) :
    (dictInsert fields key value).filter (fun field => field.1 ≠ key) =
      fields.filter fun field => field.1 ≠ key := by
  have hreplace : ∀ fields : Fields P,
      (fields.map fun field => if field.1 = key then (key, value) else field).filter
        (fun field => field.1 ≠ key) = fields.filter fun field => field.1 ≠ key := by
    intro fields
    induction fields with
    | nil => rfl
    | cons field fields ih =>
      rw [List.map_cons]
      by_cases hname : field.1 = key
      · rw [if_pos hname, List.filter_cons_of_neg (by simp), List.filter_cons_of_neg (by simp [hname]), ih]
      · rw [if_neg hname, List.filter_cons_of_pos (by simp [hname]),
          List.filter_cons_of_pos (by simp [hname]), ih]
  unfold dictInsert
  split
  next => exact hreplace fields
  next => simp

/-- `value`, with another entry for the key. -/
def Json.withItem (value : Json P) (key : String) (new : Json P) : Json P :=
  match value with
  | .dict fields => .dict (dictInsert fields key new)
  | other => other

/-- Two dicts that differ in the entries of some keys only. -/
def SameBut (keys : List String) (value value' : Json P) : Prop :=
  ∃ fields fields', value = .dict fields ∧ value' = .dict fields' ∧
    ∀ key ∉ keys, fields'.lookup key = fields.lookup key

variable {keys : List String} {value value' : Json P}

theorem SameBut.item (h : SameBut keys value value') {key : String} (hkey : key ∉ keys) :
    value'.item key = value.item key := by
  obtain ⟨fields, fields', rfl, rfl, hsame⟩ := h
  simp only [Json.item, hsame key hkey]

theorem SameBut.get (h : SameBut keys value value') {key : String} (hkey : key ∉ keys) :
    value'.get key = value.get key := by
  obtain ⟨fields, fields', rfl, rfl, hsame⟩ := h
  simp only [Json.get, hsame key hkey]

theorem SameBut.getOr (h : SameBut keys value value') {key : String} (hkey : key ∉ keys)
    (default : Json P) : value'.getOr key default = value.getOr key default := by
  obtain ⟨fields, fields', rfl, rfl, hsame⟩ := h
  simp only [Json.getOr, hsame key hkey]

theorem SameBut.withItem (h : SameBut keys value value') {key : String} (hkey : key ∈ keys) (new : Json P) :
    SameBut keys value (value'.withItem key new) := by
  obtain ⟨fields, fields', rfl, rfl, hsame⟩ := h
  refine ⟨fields, dictInsert fields' key new, rfl, rfl, ?_⟩
  intro other hother
  have hne : other ≠ key := fun heq => hother (heq ▸ hkey)
  rw [lookup_dictInsert, if_neg hne, hsame other hother]

theorem sameBut_refl (keys : List String) (fields : Fields P) : SameBut keys (.dict fields) (.dict fields) :=
  ⟨fields, fields, rfl, rfl, fun _ _ => rfl⟩

/-- `value.get(key)`, where it is known to be a dict. -/
def Json.entry (key : String) : Json P → Json P
  | .dict fields => (fields.lookup key).getD .null
  | _ => .null

theorem Json.get_withItem (fields : Fields P) (key : String) (new : Json P) :
    ((Json.dict fields).withItem key new).get key = .ok new := by
  simp [Json.withItem, Json.get, lookup_dictInsert]

theorem Json.item_withItem (fields : Fields P) (key : String) (new : Json P) :
    ((Json.dict fields).withItem key new).item key = .ok new := by
  simp [Json.withItem, Json.item, lookup_dictInsert]

end Dicts

section Secrets

/-- No forbidden key in a value, at any depth. -/
def NoSecrets (value : Json P) : Prop := findForbiddenSecretMaterial "$" value = []

mutual

theorem findForbidden_path {path path' : String} :
    ∀ {value : Json P}, findForbiddenSecretMaterial path value = [] → findForbiddenSecretMaterial path' value = []
  | .dict _, h => by
    rw [findForbiddenSecretMaterial] at h ⊢
    exact findForbiddenFields_path h
  | .list _, h => by
    rw [findForbiddenSecretMaterial] at h ⊢
    exact findForbiddenItems_path h
  | .null, _ => rfl
  | .bool _, _ => rfl
  | .int _, _ => rfl
  | .float _, _ => rfl
  | .str _, _ => rfl

theorem findForbiddenFields_path {path path' : String} :
    ∀ {fields : Fields P}, findForbiddenFields path fields = [] → findForbiddenFields path' fields = []
  | [], _ => rfl
  | (key, child) :: fields, h => by
    obtain ⟨hkey, h⟩ := List.append_eq_nil_iff.mp h
    obtain ⟨hchild, hfields⟩ := List.append_eq_nil_iff.mp h
    have hallowed : ¬isForbiddenKey key = true := by
      intro hforbidden
      rw [if_pos hforbidden] at hkey
      cases hkey
    rw [findForbiddenFields, if_neg hallowed, findForbidden_path hchild, findForbiddenFields_path hfields]
    rfl

theorem findForbiddenItems_path {path path' : String} {index index' : Nat} :
    ∀ {items : List (Json P)}, findForbiddenItems path index items = [] →
      findForbiddenItems path' index' items = []
  | [], _ => rfl
  | child :: items, h => by
    obtain ⟨hchild, hitems⟩ := List.append_eq_nil_iff.mp h
    rw [findForbiddenItems, findForbidden_path hchild, findForbiddenItems_path hitems]
    rfl

end

theorem noSecrets_dict_iff {fields : Fields P} :
    NoSecrets (.dict fields) ↔ ∀ field ∈ fields, isForbiddenKey field.1 = false ∧ NoSecrets field.2 := by
  rw [NoSecrets, findForbiddenSecretMaterial]
  induction fields with
  | nil => simp [findForbiddenFields]
  | cons field fields ih =>
    obtain ⟨key, child⟩ := field
    rw [findForbiddenFields, List.append_eq_nil_iff, List.append_eq_nil_iff, ih, List.forall_mem_cons]
    have hchild (path : String) : findForbiddenSecretMaterial path child = [] ↔ NoSecrets child :=
      ⟨findForbidden_path, findForbidden_path⟩
    rw [hchild]
    cases isForbiddenKey key <;> simp

theorem noSecrets_list_iff {items : List (Json P)} :
    NoSecrets (.list items) ↔ ∀ item ∈ items, NoSecrets item := by
  rw [NoSecrets, findForbiddenSecretMaterial]
  induction items with
  | nil => simp [findForbiddenItems]
  | cons child items ih =>
    rw [findForbiddenItems, List.append_eq_nil_iff, List.forall_mem_cons, ← ih]
    exact and_congr ⟨findForbidden_path, findForbidden_path⟩
      ⟨findForbiddenItems_path, findForbiddenItems_path⟩

theorem NoSecrets.withItem {value new : Json P} {key : String} (h : NoSecrets value) (hnew : NoSecrets new)
    (hkey : isForbiddenKey key = false) : NoSecrets (value.withItem key new) := by
  cases value with
  | dict fields =>
    rw [noSecrets_dict_iff] at h
    refine noSecrets_dict_iff.mpr ?_
    intro field hfield
    obtain hold | rfl := mem_dictInsert hfield
    · exact h field hold
    · exact ⟨hkey, hnew⟩
  | null | bool _ | int _ | float _ | str _ | list _ => exact h

theorem NoSecrets.entry {value : Json P} (h : NoSecrets value) (key : String) : NoSecrets (value.entry key) := by
  cases value with
  | dict fields =>
    rw [Json.entry]
    cases hlookup : fields.lookup key with
    | none => rfl
    | some child => exact (noSecrets_dict_iff.mp h (key, child) (mem_of_lookup hlookup)).2
  | null | bool _ | int _ | float _ | str _ | list _ => rfl

end Secrets

section Unread

/-- The entries of a graph that only its hash depends on. -/
def linkKeys : List String := ["edges", "kv_spans", "graph_hash"]

def attestationKeys : List String := ["graph_hash", "security"]

variable {host} {graph graph' manifest manifest' : Json P}

theorem nodesOfType_unread (h : SameBut linkKeys graph graph') (kind : String) :
    nodesOfType host kind graph' = nodesOfType host kind graph := by
  have hnodes : graph'.getOr "nodes" (.list []) = graph.getOr "nodes" (.list []) := h.getOr (by decide) _
  rw [nodesOfType, nodesOfType, hnodes]

theorem auditToolReplaySafety_unread (h : SameBut linkKeys graph graph') :
    auditToolReplaySafety host graph' = auditToolReplaySafety host graph := by
  have hpolicies : graph'.getOr "policies" (.dict []) = graph.getOr "policies" (.dict []) :=
    h.getOr (by decide) _
  have hnode (node : Json P) : auditNode host graph' node = auditNode host graph node := by
    rw [auditNode, auditNode, hpolicies]
  rw [auditToolReplaySafety, auditToolReplaySafety, toolCallNodes, toolCallNodes, nodesOfType_unread h,
    funext hnode]

theorem validateVectorMemory_unread (h : SameBut linkKeys graph graph')
    (hmanifest : SameBut attestationKeys manifest manifest') :
    validateVectorMemory host graph' manifest' = validateVectorMemory host graph manifest := by
  have hsnapshot (vectorMemory : Json P) :
      checkVectorSnapshot host graph' vectorMemory = checkVectorSnapshot host graph vectorMemory := by
    simp only [checkVectorSnapshot, buildVectorSnapshot, memoryNodes, retrievalNodes, nodesOfType_unread h]
  have hget : manifest'.get "vector_memory" = manifest.get "vector_memory" := hmanifest.get (by decide)
  simp only [validateVectorMemory, hsnapshot, hget]

theorem checkContinuation_unread (h : SameBut linkKeys graph graph')
    (hmanifest : SameBut attestationKeys manifest manifest') :
    checkContinuation host manifest' graph' = checkContinuation host manifest graph := by
  have hprompt : reconstructPrompt host graph' = reconstructPrompt host graph := by
    have hnodes : graph'.item "nodes" = graph.item "nodes" := h.item (by decide)
    rw [reconstructPrompt, reconstructPrompt, hnodes]
  have hpromptEntry : manifest'.item "prompt" = manifest.item "prompt" := hmanifest.item (by decide)
  have hkv : manifest'.item "kv" = manifest.item "kv" := hmanifest.item (by decide)
  have hartifacts : manifest'.item "artifacts" = manifest.item "artifacts" := hmanifest.item (by decide)
  have hnext : manifest'.item "deterministic_next_response" = manifest.item "deterministic_next_response" :=
    hmanifest.item (by decide)
  simp only [checkContinuation, hprompt, hpromptEntry, hkv, hartifacts, hnext]

theorem manifestArtifacts_unread (hmanifest : SameBut attestationKeys manifest manifest') :
    manifestArtifacts manifest' = manifestArtifacts manifest := by
  have hartifacts : manifest'.item "artifacts" = manifest.item "artifacts" := hmanifest.item (by decide)
  rw [manifestArtifacts, manifestArtifacts, hartifacts]

theorem finishImport_unread (h : SameBut linkKeys graph graph')
    (hmanifest : SameBut attestationKeys manifest manifest') {graphHash : Json P}
    (hhash : graph'.item "graph_hash" = .ok graphHash) {security : SecurityReport P}
    (security' : SecurityReport P)
    {audit : List (AuditEntry P)} {vectorMemory : VectorReport P} {verified : List (VerifiedArtifact P)}
    {workspace : Directory} {report : List (RestoreEntry P)} {result : ImportResult P}
    (hfinish : finishImport host ⟨manifest, graph, security, audit, vectorMemory, verified⟩ workspace report =
      .ok result) :
    finishImport host ⟨manifest', graph', security', audit, vectorMemory, verified⟩ workspace report =
      .ok { result with graphHash := graphHash, security := security' } := by
  obtain ⟨evidence, hevidence, hfinish⟩ := except_bind_ok_iff.mp hfinish
  obtain ⟨_, _, hfinish⟩ := except_bind_ok_iff.mp hfinish
  obtain ⟨artifacts, hartifacts, hfinish⟩ := except_bind_ok_iff.mp hfinish
  obtain ⟨hashes, hhashes, hfinish⟩ := except_bind_ok_iff.mp hfinish
  obtain ⟨store, hstore, hfinish⟩ := except_bind_ok_iff.mp hfinish
  cases hfinish
  have hevidence' := (checkContinuation_unread h hmanifest).trans hevidence
  have hartifacts' := (manifestArtifacts_unread hmanifest).trans hartifacts
  have hstore' : manifest'.item "artifact_store" = .ok store := (hmanifest.item (by decide)).trans hstore
  rw [finishImport, except_bind_of_ok hevidence', except_bind_of_ok hhash, except_bind_of_ok hartifacts',
    except_bind_of_ok hhashes, except_bind_of_ok hstore']
  rfl

end Unread

section Relink

/-- A graph with other edges and spans. -/
def linked (graph : Json P) (edges spans : List (Json P)) : Json P :=
  (graph.withItem "edges" (.list edges)).withItem "kv_spans" (.list spans)

def linkedHash (graph : Json P) (edges spans : List (Json P)) : String :=
  match linked graph edges spans with
  | .dict fields => sha256Json host (.dict (fields.filter fun field => field.1 ≠ "graph_hash"))
  | _ => ""

/-- A graph with other edges and spans, hashed again. -/
def relink (graph : Json P) (edges spans : List (Json P)) : Json P :=
  (linked graph edges spans).withItem "graph_hash" (.str (linkedHash host graph edges spans))

/-- The chain, whose last event is about another hash. -/
def reattestChain (hash : String) : Json P → Json P
  | .list events =>
    .list (events.dropLast ++ events.getLast?.toList.map fun event => event.withItem "graph_hash" (.str hash))
  | chain => chain

/-- The attestation of the same signer for another hash. -/
def reattestSecurity (hash : String) (security : Json P) : Json P :=
  (security.withItem "graph_root_signature"
    (.str (graphRootSignature host (.str hash) (security.entry "signer_id")))).withItem "provenance_chain"
      (reattestChain hash (security.entry "provenance_chain"))

def reattest (hash : String) (manifest : Json P) : Json P :=
  (manifest.withItem "graph_hash" (.str hash)).withItem "security"
    (reattestSecurity host hash (manifest.entry "security"))

variable {host} {graph manifest security : Json P} {edges spans : List (Json P)}

theorem sameBut_relink (host : AgentHost P) (fields : Fields P) (edges spans : List (Json P)) :
    SameBut linkKeys (.dict fields) (relink host (.dict fields) edges spans) := by
  refine SameBut.withItem (SameBut.withItem (SameBut.withItem (sameBut_refl _ fields) ?_ _) ?_ _) ?_ _
  all_goals decide

theorem sameBut_reattest (host : AgentHost P) (fields : Fields P) (hash : String) :
    SameBut attestationKeys (.dict fields) (reattest host hash (.dict fields)) := by
  refine SameBut.withItem (SameBut.withItem (sameBut_refl _ fields) ?_ _) ?_ _
  all_goals decide

theorem sameBut_reattestSecurity (host : AgentHost P) (fields : Fields P) (hash : String) :
    SameBut ["graph_root_signature", "provenance_chain"] (.dict fields)
      (reattestSecurity host hash (.dict fields)) := by
  refine SameBut.withItem (SameBut.withItem (sameBut_refl _ fields) ?_ _) ?_ _
  all_goals decide

theorem relink_hash (host : AgentHost P) (fields : Fields P) (edges spans : List (Json P)) :
    (relink host (.dict fields) edges spans).item "graph_hash" =
      .ok (.str (linkedHash host (.dict fields) edges spans)) ∧
    (relink host (.dict fields) edges spans).get "graph_hash" =
      .ok (.str (linkedHash host (.dict fields) edges spans)) :=
  ⟨Json.item_withItem _ _ _, Json.get_withItem _ _ _⟩

theorem verifyGraph_relink {fields : Fields P} :
    verifyGraph host (relink host (.dict fields) edges spans)
      (.str (linkedHash host (.dict fields) edges spans)) = .ok () := by
  have hcanonical : canonicalGraphHash host (relink host (.dict fields) edges spans) =
      .ok (linkedHash host (.dict fields) edges spans) := by
    simp only [relink, linked, linkedHash, Json.withItem, canonicalGraphHash]
    rw [filter_dictInsert]
  have hsame := pyEq_str_self host (linkedHash host (.dict fields) edges spans)
  rw [verifyGraph, except_bind_of_ok hcanonical]
  simp only [(relink_hash host fields edges spans).2, hsame, refuseIf, bind, Except.bind]
  rfl

theorem dict_of_canonicalGraphHash {hash : String} (h : canonicalGraphHash host graph = .ok hash) :
    ∃ fields, graph = .dict fields := by
  cases graph with
  | dict fields => exact ⟨fields, rfl⟩
  | null | bool _ | int _ | float _ | str _ | list _ => cases h

theorem truthy_withItem (host : AgentHost P) (fields : Fields P) (key : String) (new : Json P) :
    ((Json.dict fields).withItem key new).truthy host.toAdapterHost = true := by
  have hne : dictInsert fields key new ≠ [] := by
    intro hnil
    have hlookup := lookup_dictInsert fields key new key
    rw [hnil] at hlookup
    simp at hlookup
  simp [Json.withItem, Json.truthy, hne]

theorem checkSignature_reattest {fields : Fields P} {hash : String} {graph graph' signerId : Json P}
    (hhash : graph'.item "graph_hash" = .ok (.str hash))
    (h : checkSignature host graph (.dict fields) = .ok signerId) :
    checkSignature host graph' (reattestSecurity host hash (.dict fields)) = .ok signerId := by
  obtain ⟨version, hversion, h⟩ := except_bind_ok_iff.mp h
  obtain ⟨hversionOk, h⟩ := except_bind_unit_ok_iff.mp h
  obtain ⟨algorithm, halgorithm, h⟩ := except_bind_ok_iff.mp h
  obtain ⟨halgorithmOk, h⟩ := except_bind_unit_ok_iff.mp h
  obtain ⟨signer, hsigner, h⟩ := except_bind_ok_iff.mp h
  obtain ⟨signers, hsigners, h⟩ := except_bind_ok_iff.mp h
  obtain ⟨trusted, htrusted, h⟩ := except_bind_ok_iff.mp h
  obtain ⟨htrustedOk, h⟩ := except_bind_unit_ok_iff.mp h
  obtain ⟨_, _, h⟩ := except_bind_ok_iff.mp h
  obtain ⟨_, _, h⟩ := except_bind_ok_iff.mp h
  obtain ⟨_, h⟩ := except_bind_unit_ok_iff.mp h
  cases h
  have hsame := sameBut_reattestSecurity host fields hash
  have hversion' := (hsame.get (by decide)).trans hversion
  have halgorithm' := (hsame.get (by decide)).trans halgorithm
  have hsigner' := (hsame.get (by decide)).trans hsigner
  have hsigners' := (hsame.getOr (by decide) _).trans hsigners
  have hentry : (Json.dict fields).entry "signer_id" = signerId := Except.ok.inj hsigner
  have hsignature : (reattestSecurity host hash (.dict fields)).get "graph_root_signature" =
      .ok (.str (graphRootSignature host (.str hash) signerId)) := by
    rw [reattestSecurity, hentry]
    simp [Json.withItem, Json.get, lookup_dictInsert]
  have hsignatureOk : refuseIf (!pyEq host (.str (graphRootSignature host (.str hash) signerId))
      (.str (graphRootSignature host (.str hash) signerId))) "graph root signature mismatch" = .ok () := by
    rw [pyEq_str_self]
    rfl
  rw [checkSignature, except_bind_of_ok hversion', except_bind_of_ok hversionOk,
    except_bind_of_ok halgorithm', except_bind_of_ok halgorithmOk, except_bind_of_ok hsigner',
    except_bind_of_ok hsigners', except_bind_of_ok htrusted, except_bind_of_ok htrustedOk,
    except_bind_of_ok hhash, except_bind_of_ok hsignature, except_bind_of_ok hsignatureOk]
  rfl

/-- A chain whose last event can be asked for its graph. -/
theorem latestEvent_dict {chain latest found : Json P} {events : Nat} {key : String}
    (h : latestEvent chain = .ok (latest, events)) (hget : latest.get key = .ok found) :
    ∃ items fields, chain = .list (items ++ [.dict fields]) ∧ latest = .dict fields := by
  obtain ⟨fields, rfl, _⟩ := Json.get_ok_iff.mp hget
  cases chain with
  | list items =>
    rw [latestEvent] at h
    split at h
    next last hlast =>
      cases h
      obtain ⟨front, rfl⟩ := List.getLast?_eq_some_iff.mp hlast
      exact ⟨front, fields, rfl, rfl⟩
    next => cases h
  | str text =>
    rw [latestEvent] at h
    split at h
    next => cases h
    next => cases h
  | null | bool _ | int _ | float _ | dict _ => cases h

theorem checkProvenance_reattest {fields : Fields P} {hash : String} {graph graph' : Json P} {events : Nat}
    (hsame : SameBut linkKeys graph graph') (hhash : graph'.get "graph_hash" = .ok (.str hash))
    (h : checkProvenance host graph (.dict fields) = .ok events) :
    ∃ events', checkProvenance host graph' (reattestSecurity host hash (.dict fields)) = .ok events' := by
  obtain ⟨chain, hchain, h⟩ := except_bind_ok_iff.mp h
  obtain ⟨htruthy, h⟩ := except_bind_unit_ok_iff.mp h
  obtain ⟨⟨latest, count⟩, hlatest, h⟩ := except_bind_ok_iff.mp h
  obtain ⟨latestId, hlatestId, h⟩ := except_bind_ok_iff.mp h
  obtain ⟨graphId, hgraphId, h⟩ := except_bind_ok_iff.mp h
  obtain ⟨latestHash, _, h⟩ := except_bind_ok_iff.mp h
  obtain ⟨graphHash, _, h⟩ := except_bind_ok_iff.mp h
  obtain ⟨hids, _⟩ := except_bind_unit_ok_iff.mp h
  rw [refuseIf_ok_iff, Bool.not_eq_false', Bool.and_eq_true] at hids
  obtain ⟨items, last, rfl, rfl⟩ := latestEvent_dict hlatest hlatestId
  have hlookup : fields.lookup "provenance_chain" = some (.list (items ++ [.dict last])) := by
    obtain ⟨_, heq, hfound⟩ := Json.getOr_ok_iff.mp hchain
    cases heq
    cases hentry : fields.lookup "provenance_chain" with
    | none =>
      rw [hentry] at hfound
      simp at hfound
    | some found =>
      rw [hentry, Option.getD_some] at hfound
      rw [hfound]
  have hentry : (Json.dict fields).entry "provenance_chain" = .list (items ++ [.dict last]) := by
    rw [Json.entry, hlookup, Option.getD_some]
  have hchain' : (reattestSecurity host hash (.dict fields)).getOr "provenance_chain" (.list []) =
      .ok (.list (items ++ [(Json.dict last).withItem "graph_hash" (.str hash)])) := by
    rw [reattestSecurity, hentry]
    simp [Json.withItem, Json.getOr, lookup_dictInsert, reattestChain]
  have htruthy' : refuseIf (!(Json.list (items ++ [(Json.dict last).withItem "graph_hash" (.str hash)])).truthy
      host.toAdapterHost) "missing provenance chain" = .ok () := by
    simp [Json.truthy]
  have hlatest' : latestEvent (.list (items ++ [(Json.dict last).withItem "graph_hash" (.str hash)])) =
      .ok ((Json.dict last).withItem "graph_hash" (.str hash), items.length + 1) := by
    simp [latestEvent]
  have hevent : SameBut ["graph_hash"] (.dict last) ((Json.dict last).withItem "graph_hash" (.str hash)) :=
    SameBut.withItem (sameBut_refl _ last) (by decide) _
  have hlatestId' := (hevent.get (by decide)).trans hlatestId
  have hgraphId' := (hsame.get (by decide)).trans hgraphId
  have hids' : refuseIf (!(pyEq host latestId graphId && pyEq host (.str hash) (.str hash)))
      "provenance chain does not match graph root" = .ok () := by
    rw [hids.1, pyEq_str_self]
    rfl
  rw [checkProvenance, except_bind_of_ok hchain', except_bind_of_ok htruthy', except_bind_of_ok hlatest']
  dsimp only
  rw [except_bind_of_ok hlatestId', except_bind_of_ok hgraphId', except_bind_of_ok (Json.get_withItem _ _ _),
    except_bind_of_ok hhash, except_bind_of_ok hids']
  exact ⟨_, rfl⟩

theorem NoSecrets.relink (h : NoSecrets graph) (hedges : NoSecrets (.list edges))
    (hspans : NoSecrets (.list spans)) : NoSecrets (relink host graph edges spans) := by
  have hlinked := NoSecrets.withItem (NoSecrets.withItem h hedges (by decide : isForbiddenKey "edges" = false))
    hspans (by decide : isForbiddenKey "kv_spans" = false)
  exact NoSecrets.withItem hlinked rfl (by decide)

theorem NoSecrets.reattestChain {chain : Json P} (h : NoSecrets chain) (hash : String) :
    NoSecrets (reattestChain hash chain) := by
  cases chain with
  | list events =>
    rw [noSecrets_list_iff] at h
    refine noSecrets_list_iff.mpr ?_
    intro event hevent
    obtain hfront | hlast := List.mem_append.mp hevent
    · exact h event (List.mem_of_mem_dropLast hfront)
    · obtain ⟨last, hmem, rfl⟩ := List.mem_map.mp hlast
      have hin : last ∈ events := List.mem_of_getLast? (Option.mem_toList.mp hmem)
      exact (h last hin).withItem rfl (by decide)
  | null | bool _ | int _ | float _ | str _ | dict _ => exact h

theorem NoSecrets.reattest (h : NoSecrets manifest) (hash : String) : NoSecrets (reattest host hash manifest) := by
  have hsecurity : NoSecrets (reattestSecurity host hash (manifest.entry "security")) :=
    NoSecrets.withItem (NoSecrets.withItem (h.entry "security") rfl (by decide))
      ((h.entry "security").entry "provenance_chain" |>.reattestChain hash) (by decide)
  exact NoSecrets.withItem (NoSecrets.withItem h rfl (by decide)) hsecurity (by decide)

theorem checkContents_relink {graph' manifest' security' : Json P} {targetRuntime : String}
    (hgraph : SameBut linkKeys graph graph') (hmanifest : SameBut attestationKeys manifest manifest')
    (hsecurity : SameBut ["graph_root_signature", "provenance_chain"] security security')
    (hclean : NoSecrets graph → NoSecrets graph') (hclean' : NoSecrets manifest → NoSecrets manifest')
    (h : checkContents host graph manifest security targetRuntime = .ok ()) :
    checkContents host graph' manifest' security' targetRuntime = .ok () := by
  obtain ⟨hhooks, h⟩ := except_bind_unit_ok_iff.mp h
  obtain ⟨artifacts, hartifacts, h⟩ := except_bind_ok_iff.mp h
  obtain ⟨items, hitems, h⟩ := except_bind_ok_iff.mp h
  obtain ⟨hpaths, h⟩ := except_bind_unit_ok_iff.mp h
  obtain ⟨nodes, hnodes, h⟩ := except_bind_ok_iff.mp h
  obtain ⟨hnodePaths, h⟩ := except_bind_unit_ok_iff.mp h
  obtain ⟨hfindings, h⟩ := except_bind_unit_ok_iff.mp h
  obtain ⟨credentials, hcredentials, hcredentialsOk⟩ := except_bind_ok_iff.mp h
  have hhooks' : checkHooks host graph' security' targetRuntime = .ok () := by
    have hget : security'.getOr "policy_hooks" (.dict []) = security.getOr "policy_hooks" (.dict []) :=
      hsecurity.getOr (by decide) _
    rw [checkHooks, hget, toolCallNodes, nodesOfType_unread hgraph]
    exact hhooks
  have hartifacts' := (hmanifest.getOr (by decide) _).trans hartifacts
  have hnodes' := (nodesOfType_unread hgraph "artifact").trans hnodes
  have hcredentials' := (nodesOfType_unread hgraph "credential_ref").trans hcredentials
  rw [refuseIf_ok_iff, Bool.not_eq_false', List.isEmpty_iff, List.append_eq_nil_iff] at hfindings
  have hfindings' : findForbiddenSecretMaterial "$" graph' ++ findForbiddenSecretMaterial "$" manifest' = [] :=
    List.append_eq_nil_iff.mpr ⟨hclean hfindings.1, hclean' hfindings.2⟩
  have hnone (message : String) : refuseIf (!([] : List String).isEmpty) message = .ok () := rfl
  rw [checkContents, except_bind_of_ok hhooks', except_bind_of_ok hartifacts', except_bind_of_ok hitems,
    except_bind_of_ok hpaths, artifactNodes, except_bind_of_ok hnodes', except_bind_of_ok hnodePaths,
    hfindings']
  dsimp only
  rw [except_bind_of_ok (hnone _), credentialRefNodes, except_bind_of_ok hcredentials']
  exact hcredentialsOk

/-- No check of the two documents depends on the edges and the spans. -/
theorem checkDocuments_relink {targetRuntime : String}
    {reports : SecurityReport P × List (AuditEntry P) × VectorReport P}
    (h : checkDocuments host manifest graph targetRuntime = .ok reports) (hedges : NoSecrets (.list edges))
    (hspans : NoSecrets (.list spans)) :
    SameBut linkKeys graph (relink host graph edges spans) ∧
    SameBut attestationKeys manifest (reattest host (linkedHash host graph edges spans) manifest) ∧
    (relink host graph edges spans).item "graph_hash" = .ok (.str (linkedHash host graph edges spans)) ∧
    ∃ security, checkDocuments host (reattest host (linkedHash host graph edges spans) manifest)
      (relink host graph edges spans) targetRuntime = .ok (security, reports.2) := by
  obtain ⟨⟨graphHash, hgraphHash, hverify⟩, hpolicy, haudit, hreject, hvector⟩ := checkDocuments_ok h
  obtain ⟨security, signerId, events, hsecurity, hsigner, hcontents, hprovenance⟩ :=
    validateSecurityPolicy_ok hpolicy
  -- every document that was checked is a dict
  obtain ⟨manifestFields, rfl, _⟩ := Json.item_ok_iff.mp hgraphHash
  obtain ⟨_, hcanonical, _⟩ := except_bind_ok_iff.mp hverify
  obtain ⟨graphFields, rfl⟩ := dict_of_canonicalGraphHash hcanonical
  obtain ⟨_, hversion, _⟩ := except_bind_ok_iff.mp hsigner
  obtain ⟨securityFields, rfl, _⟩ := Json.get_ok_iff.mp hversion
  have hentry : (Json.dict manifestFields).entry "security" = .dict securityFields := Except.ok.inj hsecurity
  have hgraph := sameBut_relink host graphFields edges spans
  have hmanifest := sameBut_reattest host manifestFields (linkedHash host (.dict graphFields) edges spans)
  obtain ⟨hitem, hget⟩ := relink_hash host graphFields edges spans
  have hnewSecurity : (reattest host (linkedHash host (.dict graphFields) edges spans)
      (.dict manifestFields)).get "security" = .ok (reattestSecurity host
        (linkedHash host (.dict graphFields) edges spans) (.dict securityFields)) := by
    rw [reattest, hentry]
    exact Json.get_withItem _ _ _
  have htruthy : refuseIf (!(reattestSecurity host (linkedHash host (.dict graphFields) edges spans)
      (.dict securityFields)).truthy host.toAdapterHost) "missing security attestation" = .ok () := by
    rw [refuseIf_ok_iff, Bool.not_eq_false']
    exact truthy_withItem host _ _ _
  have hnewContents := checkContents_relink hgraph hmanifest
    (sameBut_reattestSecurity host securityFields (linkedHash host (.dict graphFields) edges spans))
    (fun hclean => NoSecrets.relink hclean hedges hspans) (fun hclean => NoSecrets.reattest hclean _) hcontents
  obtain ⟨newEvents, hnewProvenance⟩ := checkProvenance_reattest hgraph hget hprovenance
  have hnewPolicy : validateSecurityPolicy host (relink host (.dict graphFields) edges spans)
      (reattest host (linkedHash host (.dict graphFields) edges spans) (.dict manifestFields)) targetRuntime =
        .ok ⟨signerId, targetRuntime, newEvents⟩ := by
    rw [validateSecurityPolicy, except_bind_of_ok hnewSecurity, except_bind_of_ok htruthy,
      except_bind_of_ok (checkSignature_reattest hitem hsigner), except_bind_of_ok hnewContents,
      except_bind_of_ok hnewProvenance]
    rfl
  have hnewHash : (reattest host (linkedHash host (.dict graphFields) edges spans)
      (.dict manifestFields)).item "graph_hash" = .ok (.str (linkedHash host (.dict graphFields) edges spans)) := by
    simp [reattest, Json.withItem, Json.item, lookup_dictInsert]
  refine ⟨hgraph, hmanifest, hitem, ⟨signerId, targetRuntime, newEvents⟩, ?_⟩
  rw [checkDocuments, except_bind_of_ok hnewHash, except_bind_of_ok verifyGraph_relink,
    except_bind_of_ok hnewPolicy, except_bind_of_ok ((auditToolReplaySafety_unread hgraph).trans haudit),
    except_bind_of_ok hreject, except_bind_of_ok ((validateVectorMemory_unread hgraph hmanifest).trans hvector)]
  rfl

/-- An import does not notice other edges and spans: it goes the same way and leaves the same files. -/
theorem importDocuments_relink {package : Directory} {workspace : Option Directory} {targetRuntime : String}
    {world world' : World} {result : ImportResult P}
    (h : (importDocuments host package workspace targetRuntime manifest graph).run world = .ok result world')
    (hedges : NoSecrets (.list edges)) (hspans : NoSecrets (.list spans)) :
    ∃ result', (importDocuments host package workspace targetRuntime
      (reattest host (linkedHash host graph edges spans) manifest) (relink host graph edges spans)).run world =
        .ok result' world' ∧ result'.restoreReport = result.restoreReport ∧ result'.evidence = result.evidence := by
  obtain ⟨⟨security, audit, vectorMemory⟩, hreports, h⟩ := run_liftExcept_bind_ok_iff.mp h
  obtain ⟨verified, middle, hverified, h⟩ := run_bind_ok_iff.mp h
  obtain ⟨report, last, hreport, h⟩ := run_bind_ok_iff.mp h
  obtain ⟨hfinish, rfl⟩ := run_liftExcept_ok_iff.mp h
  obtain ⟨hgraph, hmanifest, hhash, security', hreports'⟩ := checkDocuments_relink hreports hedges hspans
  have hartifacts := manifestArtifacts_unread hmanifest
  have hverified' : (verifyArtifacts host package
      (reattest host (linkedHash host graph edges spans) manifest)).run world = .ok verified middle := by
    rw [verifyArtifacts, hartifacts]
    exact hverified
  have hreport' : (restoreArtifacts host package
      (reattest host (linkedHash host graph edges spans) manifest) (workspaceOr package workspace)).run middle =
        .ok report world' := by
    rw [restoreArtifacts, hartifacts]
    exact hreport
  have hfinish' := finishImport_unread hgraph hmanifest hhash security' hfinish
  refine ⟨{ result with graphHash := .str (linkedHash host graph edges spans), security := security' }, ?_,
    rfl, rfl⟩
  rw [importDocuments, run_liftExcept_bind_of_ok hreports']
  dsimp only
  rw [run_bind_of_ok hverified', run_bind_of_ok hreport']
  exact run_liftExcept_ok_iff.mpr ⟨hfinish', rfl⟩

theorem nodes_of_importDocuments {package : Directory} {workspace : Option Directory} {targetRuntime : String}
    {world world' : World} {result : ImportResult P}
    (h : (importDocuments host package workspace targetRuntime manifest graph).run world = .ok result world') :
    ∃ nodes items, graph.getOr "nodes" (.list []) = .ok nodes ∧ nodes.iterate = .ok items := by
  obtain ⟨_, _, h⟩ := run_liftExcept_bind_ok_iff.mp h
  obtain ⟨_, _, _, h⟩ := run_bind_ok_iff.mp h
  obtain ⟨_, _, _, h⟩ := run_bind_ok_iff.mp h
  obtain ⟨hfinish, _⟩ := run_liftExcept_ok_iff.mp h
  obtain ⟨_, hcontinuation, _⟩ := except_bind_ok_iff.mp hfinish
  obtain ⟨_, hprompt, _⟩ := except_bind_ok_iff.mp hcontinuation
  obtain ⟨nodes, hnodes, hprompt⟩ := except_bind_ok_iff.mp hprompt
  obtain ⟨items, hitems, _⟩ := except_bind_ok_iff.mp hprompt
  exact ⟨nodes, items, Json.getOr_of_item hnodes _, hitems⟩

end Relink

section Closed

/-- Some node of the graph has the id. -/
def HasNode (graph nodeId : Json P) : Prop :=
  ∃ nodes items, graph.getOr "nodes" (.list []) = .ok nodes ∧ nodes.iterate = .ok items ∧
    ∃ node ∈ items, ∃ found, node.get "id" = .ok found ∧ pyEq host found nodeId = true

/-- The entry of a link that names a node, and the node is there. -/
def NamesNode (graph link : Json P) (key : String) : Prop :=
  ∃ nodeId, link.item key = .ok nodeId ∧ HasNode host graph nodeId

/-- Every edge joins two nodes, and every span is about a node and covers a token. -/
structure ReferentiallyClosed (graph : Json P) : Prop where
  edges : ∀ edges, graph.getOr "edges" (.list []) = .ok (.list edges) →
    ∀ edge ∈ edges, NamesNode host graph edge "from" ∧ NamesNode host graph edge "to"
  spans : ∀ spans, graph.getOr "kv_spans" (.list []) = .ok (.list spans) →
    ∀ span ∈ spans, NamesNode host graph span "node_id" ∧ ∃ first last : Int,
      span.item "token_start" = .ok (.int first) ∧ span.item "token_end" = .ok (.int last) ∧ first < last

def danglingEdge (nodeId : String) : Json P :=
  .dict [("from", .str nodeId), ("to", .str nodeId), ("type", .str "caused_by")]

theorem noSecrets_danglingEdge (nodeId : String) : NoSecrets (.list [danglingEdge nodeId] : Json P) := by
  simp [NoSecrets, danglingEdge, findForbiddenSecretMaterial, findForbiddenItems, findForbiddenFields,
    isForbiddenKey, forbiddenSecretKeys, lowerChar]

/-- No finite list of nodes uses up the names. -/
theorem exists_unusedId (nodes : List (Json P)) :
    ∃ nodeId : String, ∀ node ∈ nodes, node.get "id" ≠ .ok (.str nodeId) := by
  have hinjective : Function.Injective fun n => String.ofList (List.replicate n 'x') := by
    intro m n h
    simpa using congrArg (fun text => text.toList.length) h
  have hinfinite : Infinite String := Infinite.of_injective _ hinjective
  obtain ⟨nodeId, hunused⟩ := Infinite.exists_notMem_finset
    (nodes.filterMap fun node => (node.entry "id").asStr).toFinset
  refine ⟨nodeId, ?_⟩
  intro node hnode hid
  apply hunused
  obtain ⟨fields, rfl, hfound⟩ := Json.get_ok_iff.mp hid
  rw [List.mem_toFinset, List.mem_filterMap]
  exact ⟨_, hnode, by rw [Json.entry, hfound]; rfl⟩

variable {host}

theorem not_closed_of_unusedId {graph nodes : Json P} {items : List (Json P)} {nodeId : String}
    (hnodes : graph.getOr "nodes" (.list []) = .ok nodes) (hitems : nodes.iterate = .ok items)
    (hunused : ∀ node ∈ items, node.get "id" ≠ .ok (.str nodeId)) :
    ¬ReferentiallyClosed host (relink host graph [danglingEdge nodeId] []) := by
  intro hclosed
  obtain ⟨fields, rfl, _⟩ := Json.getOr_ok_iff.mp hnodes
  have hgraph := sameBut_relink host fields [danglingEdge nodeId] []
  have hedges : (relink host (.dict fields) [danglingEdge nodeId] []).getOr "edges" (.list []) =
      .ok (.list [danglingEdge nodeId]) := by
    simp [relink, linked, Json.withItem, Json.getOr, lookup_dictInsert]
  obtain ⟨⟨found, hfrom, hnode⟩, _⟩ := hclosed.edges _ hedges _ (List.mem_singleton_self _)
  cases hfrom
  obtain ⟨nodes', items', hnodes', hitems', node, hmem, found, hfound, heq⟩ := hnode
  cases ((hgraph.getOr (by decide) _).symm.trans hnodes').symm.trans hnodes
  cases hitems'.symm.trans hitems
  rw [(pyEq_str_iff host).mp heq] at hfound
  exact hunused node hmem hfound

/-- The import checks no edge and no span: whatever it accepts, it accepts with any other edges and spans,
hashed and attested again, so for some of them an edge leads nowhere. -/
theorem links_never_checked {package : Directory} {workspace : Option Directory} {targetRuntime : String}
    {world world' : World} {result : ImportResult P}
    (h : (importSession host package workspace targetRuntime).run world = .ok result world') :
    ∃ manifest graph, packageAt host package world.disk = .ok (manifest, graph) ∧
      (∀ edges spans, NoSecrets (.list edges) → NoSecrets (.list spans) →
        ∃ result', (importDocuments host package workspace targetRuntime
          (reattest host (linkedHash host graph edges spans) manifest) (relink host graph edges spans)).run
            ⟨world.disk, world.log ++ packageReads package manifest⟩ = .ok result' world' ∧
          result'.restoreReport = result.restoreReport ∧ result'.evidence = result.evidence) ∧
      ∃ edges spans, NoSecrets (.list edges) ∧ NoSecrets (.list spans) ∧
        ¬ReferentiallyClosed host (relink host graph edges spans) := by
  rw [importSession_eq] at h
  obtain ⟨⟨manifest, graph⟩, middle, hread, h⟩ := run_bind_ok_iff.mp h
  have hpackage := (run_readPackage_ok host hread).1
  cases (run_readPackage_of_packageAt host world hpackage).symm.trans hread
  refine ⟨manifest, graph, hpackage, ?_, ?_⟩
  · intro edges spans hedges hspans
    exact importDocuments_relink h hedges hspans
  · obtain ⟨nodes, items, hnodes, hitems⟩ := nodes_of_importDocuments h
    obtain ⟨nodeId, hunused⟩ := exists_unusedId items
    exact ⟨[danglingEdge nodeId], [], noSecrets_danglingEdge nodeId, rfl,
      not_closed_of_unusedId hnodes hitems hunused⟩

/-- The smallest package that the import accepts. -/
def bareDraft : PackageDraft Int := allowlistDraft trustedSignerId [trustedSignerId] allowedTargetRuntimes [] none

theorem links_never_checked_bare : ∃ result world',
    (importSession decimalHost draftPackage none runtimeId).run (draftWorld decimalHost bareDraft) =
      .ok result world' ∧
    ∃ manifest graph, packageAt decimalHost draftPackage (draftWorld decimalHost bareDraft).disk =
      .ok (manifest, graph) ∧ ∃ edges spans, ¬ReferentiallyClosed decimalHost (relink decimalHost graph edges spans) := by
  obtain ⟨result, world', hrun⟩ := importSession_draft decimalHost trustedSignerId [trustedSignerId]
    List.mem_cons_self (show runtimeId ∈ allowedTargetRuntimes from List.mem_cons_self)
    (show ∀ found ∈ (none : Option String), found ∈ ([] : List String) by simp)
  obtain ⟨manifest, graph, hpackage, _, edges, spans, _, _, hopen⟩ := links_never_checked hrun
  exact ⟨result, world', hrun, manifest, graph, hpackage, edges, spans, hopen⟩

/-- The graph of the package with an edge between two nodes that it does not have. -/
def danglingGraph : Json Int := relink decimalHost (draftGraph decimalHost bareDraft) [danglingEdge "nowhere"] []

def danglingManifest : Json Int :=
  reattest decimalHost (linkedHash decimalHost (draftGraph decimalHost bareDraft) [danglingEdge "nowhere"] [])
    (draftManifest decimalHost bareDraft)

def danglingWorld : World :=
  ⟨diskOf [[], ["package"]] [(["package", "manifest.json"], jsonBytes decimalHost danglingManifest),
    (["package", "graph.json"], jsonBytes decimalHost danglingGraph)], []⟩

theorem packageAt_dangling :
    packageAt decimalHost draftPackage danglingWorld.disk = .ok (danglingManifest, danglingGraph) := by
  have hrelative : safePackageRelativePath (.str "graph.json" : Json Int) = .ok ⟨"", ["graph.json"]⟩ := rfl
  have hmanifest : Printable decimalHost.floatRepr decimalHost.parseFloat danglingManifest := by
    simp [danglingManifest, reattest, reattestSecurity, reattestChain, Json.withItem, Json.entry, dictInsert,
      List.lookup_cons,
      bareDraft, draftManifest, draftSecurity, draftHash, draftNames, draftArtifact, allowlistDraft, Printable,
      PrintableFields, PrintableItems, allowedTargetRuntimes]
  have hgraph : Printable decimalHost.floatRepr decimalHost.parseFloat danglingGraph := by
    simp [danglingGraph, relink, linked, Json.withItem, dictInsert, bareDraft, draftGraph, draftBody, draftHash,
      danglingEdge, allowlistDraft, Printable, PrintableFields, PrintableItems]
  exact packageAt_of_files decimalHost rfl hmanifest rfl hrelative rfl hgraph

theorem danglingEdge_accepted : ∃ result world' manifest graph,
    (importSession decimalHost draftPackage none runtimeId).run danglingWorld = .ok result world' ∧
    packageAt decimalHost draftPackage danglingWorld.disk = .ok (manifest, graph) ∧
    ¬ReferentiallyClosed decimalHost graph := by
  have hread := run_readPackage_of_packageAt decimalHost danglingWorld packageAt_dangling
  obtain ⟨bare, hbare⟩ := importDocuments_draft decimalHost trustedSignerId [trustedSignerId]
    List.mem_cons_self (show runtimeId ∈ allowedTargetRuntimes from List.mem_cons_self)
    (show ∀ found ∈ (none : Option String), found ∈ ([] : List String) by simp)
    ⟨danglingWorld.disk, danglingWorld.log ++ packageReads draftPackage danglingManifest⟩
  obtain ⟨result, hrun, _⟩ := importDocuments_relink hbare (noSecrets_danglingEdge "nowhere")
    (show NoSecrets (.list []) from rfl)
  have hopen : ¬ReferentiallyClosed decimalHost danglingGraph :=
    not_closed_of_unusedId rfl rfl (by simp [bareDraft, allowlistDraft])
  rw [importSession_eq, run_bind_of_ok hread]
  exact ⟨result, _, danglingManifest, danglingGraph, hrun, packageAt_dangling, hopen⟩

end Closed

end PermeantOS
