import PermeantOS.AgentReplay
import PermeantOS.JsonSorted

namespace PermeantOS

variable {P : Type} {host : AgentHost P}

section Printing

variable {value value' new graph graph' : Json P} {key nodeId : String} {fields : Fields P}

/-- A value that a file keeps. -/
abbrev Keepable (host : AgentHost P) (value : Json P) : Prop := Printable host.floatRepr host.parseFloat value

theorem keepable_dict_iff : Keepable host (.dict fields) ↔
    (fields.map (·.1)).Nodup ∧ ∀ field ∈ fields, Keepable host field.2 := by
  rw [Keepable, Printable, printableFields_iff]

theorem keepable_list_iff {items : List (Json P)} :
    Keepable host (.list items) ↔ ∀ item ∈ items, Keepable host item := by
  rw [Keepable, Printable, printableItems_iff]

theorem uniqueKeys_dictInsert (h : (fields.map (·.1)).Nodup) (key : String) (new : Json P) :
    ((dictInsert fields key new).map (·.1)).Nodup := by
  unfold dictInsert
  split
  next =>
    have hkeys : (fields.map fun field => if field.1 = key then (key, new) else field).map (·.1) =
        fields.map (·.1) := by
      rw [List.map_map]
      refine List.map_congr_left ?_
      intro field _
      simp only [Function.comp_apply]
      split
      next heq => exact heq.symm
      next => rfl
    rw [hkeys]
    exact h
  next hany =>
    rw [List.map_append, List.nodup_append]
    refine ⟨h, List.nodup_singleton _, ?_⟩
    intro name hname other hother heq
    obtain ⟨field, hfield, rfl⟩ := List.mem_map.mp hname
    rw [List.map_singleton, List.mem_singleton] at hother
    exact hany (List.any_eq_true.mpr ⟨field, hfield, by simp [heq, hother]⟩)

theorem keepable_setItem (h : value.setItem key new = .ok value') (hvalue : Keepable host value)
    (hnew : Keepable host new) : Keepable host value' := by
  cases value with
  | dict fields =>
    cases h
    obtain ⟨hkeys, hfields⟩ := keepable_dict_iff.mp hvalue
    refine keepable_dict_iff.mpr ⟨uniqueKeys_dictInsert hkeys key new, ?_⟩
    intro field hfield
    rcases mem_dictInsert hfield with hold | rfl
    · exact hfields field hold
    · exact hnew
  | null | bool _ | int _ | float _ | str _ | list _ => cases h

theorem keepable_item (h : value.item key = .ok new) (hvalue : Keepable host value) : Keepable host new := by
  obtain ⟨fields, rfl, hlookup⟩ := Json.item_ok_iff.mp h
  exact (keepable_dict_iff.mp hvalue).2 _ (mem_of_lookup hlookup)

theorem keepable_appendTo {item : Json P} (h : value.appendTo key item = .ok value')
    (hvalue : Keepable host value) (hitem : Keepable host item) : Keepable host value' := by
  obtain ⟨found, hfound, h⟩ := except_bind_ok_iff.mp h
  cases found with
  | list items =>
    refine keepable_setItem h hvalue (keepable_list_iff.mpr ?_)
    intro child hchild
    rcases List.mem_append.mp hchild with hchild | hchild
    · exact keepable_list_iff.mp (keepable_item hfound hvalue) child hchild
    · cases List.mem_singleton.mp hchild
      exact hitem
  | null | bool _ | int _ | float _ | str _ | dict _ => cases h

theorem keepable_completeToolCall {approvalState : String}
    (h : completeToolCall host nodeId approvalState value = .ok value') (hvalue : Keepable host value) :
    Keepable host value' := by
  obtain ⟨_, _, h⟩ := except_bind_ok_iff.mp h
  obtain ⟨_, h⟩ := except_bind_unit_ok_iff.mp h
  obtain ⟨first, hfirst, h⟩ := except_bind_ok_iff.mp h
  obtain ⟨second, hsecond, h⟩ := except_bind_ok_iff.mp h
  have hmiddle := keepable_setItem hsecond (keepable_setItem hfirst hvalue trivial) trivial
  cases second with
  | dict fields =>
    rw [refreshNodeContentHash] at h
    exact keepable_setItem h hmiddle trivial
  | null | bool _ | int _ | float _ | str _ | list _ => cases h

theorem keepable_editNode {edit : Json P → Except PyException (Json P)} {nodes nodes' : List (Json P)}
    (h : editNode host nodeId edit nodes = .ok nodes') (hnodes : ∀ node ∈ nodes, Keepable host node)
    (hedit : ∀ node node', edit node = .ok node' → Keepable host node → Keepable host node') :
    ∀ node ∈ nodes', Keepable host node := by
  induction nodes generalizing nodes' with
  | nil => cases h
  | cons node nodes ih =>
    obtain ⟨hnode, hnodes⟩ := List.forall_mem_cons.mp hnodes
    obtain ⟨found, _, h⟩ := except_bind_ok_iff.mp h
    split at h
    next =>
      obtain ⟨node', hnode', h⟩ := except_bind_ok_iff.mp h
      cases h
      exact List.forall_mem_cons.mpr ⟨hedit _ _ hnode' hnode, hnodes⟩
    next =>
      obtain ⟨rest, hrest, h⟩ := except_bind_ok_iff.mp h
      cases h
      exact List.forall_mem_cons.mpr ⟨hnode, ih hrest hnodes⟩

theorem keepable_iterate {items : List (Json P)} (h : value.iterate = .ok items) (hvalue : Keepable host value) :
    ∀ item ∈ items, Keepable host item := by
  cases value with
  | list items =>
    cases h
    exact keepable_list_iff.mp hvalue
  | dict fields =>
    cases h
    intro item hitem
    obtain ⟨field, _, rfl⟩ := List.mem_map.mp hitem
    trivial
  | str text =>
    cases h
    intro item hitem
    obtain ⟨c, _, rfl⟩ := List.mem_map.mp hitem
    trivial
  | null | bool _ | int _ | float _ => cases h

theorem keepable_markToolCallCompleted {approvalState : String}
    (h : markToolCallCompleted host graph nodeId approvalState = .ok graph') (hgraph : Keepable host graph) :
    Keepable host graph' := by
  obtain ⟨found, hfound, h⟩ := except_bind_ok_iff.mp h
  obtain ⟨nodes, hnodes, h⟩ := except_bind_ok_iff.mp h
  obtain ⟨nodes', hedit, h⟩ := except_bind_ok_iff.mp h
  have hkept : Keepable host found := by
    obtain ⟨fields, rfl, hlookup⟩ := Json.getOr_ok_iff.mp hfound
    cases hentry : fields.lookup "nodes" with
    | none =>
      rw [hentry, Option.getD_none] at hlookup
      subst hlookup
      trivial
    | some entry =>
      rw [hentry, Option.getD_some] at hlookup
      subst hlookup
      exact (keepable_dict_iff.mp hgraph).2 _ (mem_of_lookup hentry)
  refine keepable_setItem h hgraph (keepable_list_iff.mpr ?_)
  exact keepable_editNode hedit (keepable_iterate hnodes hkept) fun _ _ => keepable_completeToolCall

theorem keepable_appendEdges {edges : List (String × String × String)}
    (h : appendEdges graph edges = .ok graph') (hgraph : Keepable host graph) : Keepable host graph' := by
  induction edges generalizing graph with
  | nil =>
    cases h
    exact hgraph
  | cons edge edges ih =>
    obtain ⟨middle, hmiddle, h⟩ := except_bind_ok_iff.mp h
    refine ih h (keepable_appendTo hmiddle hgraph ?_)
    simp [Keepable, Printable, PrintableFields]

/-- The floats that a resume writes can be read back. -/
def ResumeFloats (host : AgentHost P) : Prop :=
  ∀ text ∈ ["1.0", "0.8", "0.0"], ReadsBack host.floatRepr host.parseFloat (host.parseFloat text.toList)

theorem keepable_appendPostMigrationNode {nodeType : String} {payload : Fields P}
    (h : appendPostMigrationNode host graph nodeId nodeType payload = .ok graph') (hgraph : Keepable host graph)
    (hkeys : (["id", "type", "created_at", "content_hash", "provenance"] ++ payload.map (·.1)).Nodup)
    (hpayload : PrintableFields host.floatRepr host.parseFloat payload) : Keepable host graph' := by
  refine keepable_appendTo h hgraph (keepable_dict_iff.mpr ⟨by simpa using hkeys, ?_⟩)
  intro field hfield
  rcases List.mem_append.mp hfield with hfield | hfield
  · simp only [List.mem_cons, List.not_mem_nil, or_false] at hfield
    rcases hfield with rfl | rfl | rfl | rfl | rfl
    · trivial
    · trivial
    · trivial
    · trivial
    · simp [Keepable, Printable, PrintableFields]
  · exact printableFields_iff.mp hpayload field hfield

theorem keepable_resumeRead (h : resumeRead host graph = .ok graph') (hgraph : Keepable host graph) :
    Keepable host graph' := by
  obtain ⟨_, _, h⟩ := except_bind_ok_iff.mp h
  obtain ⟨_, _, h⟩ := except_bind_ok_iff.mp h
  obtain ⟨_, _, h⟩ := except_bind_ok_iff.mp h
  obtain ⟨_, h⟩ := except_bind_unit_ok_iff.mp h
  obtain ⟨marked, hmarked, h⟩ := except_bind_ok_iff.mp h
  obtain ⟨recorded, hrecorded, hedges⟩ := except_bind_ok_iff.mp h
  refine keepable_appendEdges hedges (keepable_appendPostMigrationNode hrecorded
    (keepable_markToolCallCompleted hmarked hgraph) ?_ ?_)
  · simp [quotaPayload, toolResultPayload]
  · simp [quotaPayload, toolResultPayload, PrintableFields, PrintableItems, Printable]

theorem keepable_recordPublish {announcementHash : String} {announcementSize : Nat}
    (h : recordPublish host graph announcementHash announcementSize = .ok graph')
    (hfloats : ResumeFloats host) (hgraph : Keepable host graph) : Keepable host graph' := by
  obtain ⟨first, hfirst, h⟩ := except_bind_ok_iff.mp h
  obtain ⟨second, hsecond, h⟩ := except_bind_ok_iff.mp h
  obtain ⟨third, hthird, hedges⟩ := except_bind_ok_iff.mp h
  have hone := hfloats "1.0" (by simp)
  have hmost := hfloats "0.8" (by simp)
  have hzero := hfloats "0.0" (by simp)
  have hkept : Keepable host first := by
    refine keepable_appendPostMigrationNode hfirst hgraph ?_ ?_
    · simp [publishedPayload, toolResultPayload]
    · simp [publishedPayload, toolResultPayload, PrintableFields, PrintableItems, Printable]
  have hkept' : Keepable host second := by
    refine keepable_appendPostMigrationNode hsecond hkept ?_ ?_
    · simp [announcementPayload]
    · simp [announcementPayload, PrintableFields, Printable]
  refine keepable_appendEdges hedges (keepable_appendPostMigrationNode hthird hkept' ?_ ?_)
  · simp [continuedPayload]
  · simpa [continuedPayload, continuedEpisode, PrintableFields, PrintableItems, Printable] using
      And.intro hone (And.intro (And.intro hone (And.intro hmost hzero)) hzero)

theorem keepable_closeGraph {preResumeGraphHash : Json P} {graphHash : String}
    (h : closeGraph host graph preResumeGraphHash = .ok (graph', graphHash)) (hgraph : Keepable host graph)
    (hhash : Keepable host preResumeGraphHash) : Keepable host graph' := by
  obtain ⟨recorded, hrecorded, h⟩ := except_bind_ok_iff.mp h
  obtain ⟨traced, htraced, h⟩ := except_bind_ok_iff.mp h
  obtain ⟨sourced, hsourced, h⟩ := except_bind_ok_iff.mp h
  obtain ⟨hash, _, h⟩ := except_bind_ok_iff.mp h
  obtain ⟨closed, hclosed, h⟩ := except_bind_ok_iff.mp h
  cases h
  have hkept : Keepable host recorded := by
    refine keepable_appendPostMigrationNode hrecorded hgraph ?_ ?_
    · simp [resumedPayload]
    · simp [resumedPayload, PrintableFields, Printable]
  have hkept' : Keepable host traced := by
    obtain ⟨lineage, hlineage, htraced⟩ := except_bind_ok_iff.mp htraced
    cases lineage with
    | list items =>
      obtain ⟨graphId, hgraphId, htraced⟩ := except_bind_ok_iff.mp htraced
      refine keepable_setItem htraced hkept (keepable_list_iff.mpr ?_)
      intro item hitem
      rcases List.mem_append.mp hitem with hitem | hitem
      · exact keepable_list_iff.mp (keepable_item hlineage hkept) item hitem
      · cases List.mem_singleton.mp hitem
        simp [Keepable, Printable, PrintableFields, keepable_item hgraphId hkept]
    | null | bool _ | int _ | float _ | str _ | dict _ => cases htraced
  exact keepable_setItem hclosed (keepable_setItem hsourced hkept' hhash) trivial

end Printing

section Sorting

variable {value graph graph' : Json P} {key nodeId : String} {fields : Fields P}

theorem get_sorted (h : Keepable host value) : (sortKeys value).get key = (value.get key).map sortKeys := by
  cases value with
  | dict fields => exact get_sortKeys (keepable_dict_iff.mp h).1 rfl
  | list items =>
    rw [sortKeys_list]
    rfl
  | null | bool _ | int _ | float _ | str _ => rfl

theorem pyEq_sorted (text : String) : pyEq host (sortKeys value) (.str text) = pyEq host value (.str text) := by
  rw [Bool.eq_iff_iff, pyEq_str_iff, pyEq_str_iff]
  cases value with
  | dict fields => simp [sortKeys_dict]
  | list items => simp [sortKeys_list]
  | null | bool _ | int _ | float _ | str _ => exact Iff.rfl

/-- The search for a node in what a file keeps of the nodes. -/
theorem findNode_sorted {nodes : List (Json P)} (h : ∀ node ∈ nodes, Keepable host node) :
    findNode host nodeId (nodes.map sortKeys) = (findNode host nodeId nodes).map sortKeys := by
  induction nodes with
  | nil => rfl
  | cons node nodes ih =>
    obtain ⟨hnode, hnodes⟩ := List.forall_mem_cons.mp h
    rw [List.map_cons, findNode, findNode, get_sorted hnode, ih hnodes]
    cases node.get "id" with
    | error e => rfl
    | ok found =>
      simp only [Except.map, bind, Except.bind, pyEq_sorted]
      split
      next => rfl
      next => rfl

theorem nodeById_sorted {nodes : List (Json P)} (h : Keepable host graph)
    (hnodes : graph.item "nodes" = .ok (.list nodes)) :
    nodeById host (sortKeys graph) nodeId = (nodeById host graph nodeId).map sortKeys := by
  obtain ⟨fields, rfl, hlookup⟩ := Json.item_ok_iff.mp hnodes
  have hitem := item_sortKeys (keepable_dict_iff.mp h).1 hlookup
  rw [sortKeys_list] at hitem
  rw [nodeById_of_item hitem, nodeById_of_item hnodes,
    findNode_sorted (keepable_list_iff.mp (keepable_item hnodes h))]

theorem sha256Json_without (h : Keepable host (.dict fields)) (name : String) :
    sha256Json host (.dict ((sortedFields fields).filter fun field => field.1 ≠ name)) =
      sha256Json host (.dict (fields.filter fun field => field.1 ≠ name)) := by
  rw [← sha256Json_sortKeys host (.dict ((sortedFields fields).filter fun field => field.1 ≠ name)),
    sortKeys_filter (keepable_dict_iff.mp h).1 fun key => decide (key ≠ name), sha256Json_sortKeys]

theorem canonicalGraphHash_sorted {graphHash : String} (h : Keepable host graph)
    (hhash : canonicalGraphHash host graph = .ok graphHash) :
    canonicalGraphHash host (sortKeys graph) = .ok graphHash := by
  obtain ⟨fields, rfl⟩ := dict_of_canonicalGraphHash hhash
  rw [sortKeys_dict, canonicalGraphHash, sha256Json_without h]
  exact hhash

/-- The last edits leave a graph that has its own hash. -/
theorem closeGraph_ok {preResumeGraphHash : Json P} {graphHash : String}
    (h : closeGraph host graph preResumeGraphHash = .ok (graph', graphHash)) :
    canonicalGraphHash host graph' = .ok graphHash ∧ graph'.item "graph_hash" = .ok (.str graphHash) ∧
      (∃ nodes, graph'.item "nodes" = .ok (.list nodes)) ∧
      ∀ other, "event:post-migration-agent-resume" ≠ other →
        nodeById host graph' other = nodeById host graph other := by
  obtain ⟨recorded, hrecorded, h⟩ := except_bind_ok_iff.mp h
  obtain ⟨traced, htraced, h⟩ := except_bind_ok_iff.mp h
  obtain ⟨sourced, hsourced, h⟩ := except_bind_ok_iff.mp h
  obtain ⟨hash, hhash, h⟩ := except_bind_ok_iff.mp h
  obtain ⟨closed, hclosed, h⟩ := except_bind_ok_iff.mp h
  cases h
  have htrace : SameBut ["lineage"] recorded traced := by
    obtain ⟨lineage, _, htraced⟩ := except_bind_ok_iff.mp htraced
    cases lineage with
    | list items =>
      obtain ⟨_, _, htraced⟩ := except_bind_ok_iff.mp htraced
      exact sameBut_setItem htraced
    | null | bool _ | int _ | float _ | str _ | dict _ => cases htraced
  refine ⟨?_, item_of_setItem hclosed, ?_, ?_⟩
  · obtain ⟨fields, rfl⟩ := dict_of_canonicalGraphHash hhash
    cases hclosed
    rw [canonicalGraphHash, filter_dictInsert]
    exact hhash
  · obtain ⟨nodes, _, hnodes, _⟩ := appendTo_ok hrecorded
    have hsame : graph'.item "nodes" = recorded.item "nodes" := by
      rw [(sameBut_setItem hclosed).item (by decide), (sameBut_setItem hsourced).item (by decide),
        htrace.item (by decide)]
    exact ⟨_, hsame.trans hnodes⟩
  · intro other hne
    rw [nodeById_of_same (sameBut_setItem hclosed) (by decide),
      nodeById_of_same (sameBut_setItem hsourced) (by decide), nodeById_of_same htrace (by decide),
      nodeById_appendPostMigrationNode hrecorded hne]

end Sorting

section Announcement

variable {graph graph' node : Json P} {nodeId : String} {nodes : List (Json P)}

theorem findNode_missing (hdicts : ∀ node ∈ nodes, ∃ found, node.get "id" = .ok found)
    (hnew : ∀ node ∈ nodes, node.get "id" ≠ .ok (.str nodeId)) :
    findNode host nodeId nodes = .error (.importVerificationError s!"missing graph node: {nodeId}") := by
  induction nodes with
  | nil => rfl
  | cons node nodes ih =>
    obtain ⟨⟨found, hfound⟩, hdicts⟩ := List.forall_mem_cons.mp hdicts
    obtain ⟨hne, hnew⟩ := List.forall_mem_cons.mp hnew
    have hother : ¬pyEq host found (.str nodeId) = true := by
      rw [pyEq_str_iff]
      rintro rfl
      exact hne hfound
    rw [findNode, except_bind_of_ok hfound, if_neg hother, ih hdicts hnew]

theorem findNode_append_of_missing {message : String}
    (h : findNode host nodeId nodes = .error (.importVerificationError message))
    (hid : node.get "id" = .ok (.str nodeId)) : findNode host nodeId (nodes ++ [node]) = .ok node := by
  induction nodes with
  | nil =>
    rw [List.nil_append, findNode, except_bind_of_ok hid, if_pos (pyEq_str_self host nodeId)]
    rfl
  | cons first nodes ih =>
    rw [findNode] at h
    rw [List.cons_append, findNode]
    cases first with
    | dict fields =>
      have hfound : (Json.dict fields).get "id" = .ok ((fields.lookup "id").getD .null) := rfl
      rw [except_bind_of_ok hfound] at h ⊢
      split at h
      next => cases h
      next hother =>
        rw [if_neg hother]
        exact ih h
    | null | bool _ | int _ | float _ | str _ | list _ => cases h

/-- The node of the announcement is found, where there was none before. -/
theorem recordPublish_ok {announcementHash message : String} {announcementSize : Nat}
    (h : recordPublish host graph announcementHash announcementSize = .ok graph')
    (hmissing : nodeById host graph announcementId = .error (.importVerificationError message)) :
    nodeById host graph' announcementId = .ok (postMigrationNode host announcementId "artifact"
      (announcementPayload announcementHash announcementSize)) := by
  obtain ⟨first, hfirst, h⟩ := except_bind_ok_iff.mp h
  obtain ⟨second, hsecond, h⟩ := except_bind_ok_iff.mp h
  obtain ⟨third, hthird, hedges⟩ := except_bind_ok_iff.mp h
  obtain ⟨nodes, hnodes, hnodes', _⟩ := appendTo_ok hsecond
  have hbefore : nodeById host first announcementId = nodeById host graph announcementId :=
    nodeById_appendPostMigrationNode hfirst (by decide)
  rw [hmissing, nodeById_of_item hnodes] at hbefore
  rw [nodeById_appendEdges hedges, nodeById_appendPostMigrationNode hthird (by decide), nodeById_of_item hnodes']
  exact findNode_append_of_missing hbefore rfl

end Announcement

end PermeantOS
