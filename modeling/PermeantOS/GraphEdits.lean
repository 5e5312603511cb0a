import PermeantOS.AgentReplay
import PermeantOS.AgentReturn

namespace PermeantOS

variable {P : Type}

section Hashes

variable (host : AgentHost P)

/-- The content hash of a node is the hash of its payload. -/
def HashValid (node : Json P) : Prop :=
  ∃ fields, node = .dict fields ∧
    fields.lookup "content_hash" = some (.str (sha256Json host (.dict (nodeContentPayload fields))))

def NodesValid (graph : Json P) : Prop :=
  ∃ nodes, graph.item "nodes" = .ok (.list nodes) ∧ ∀ node ∈ nodes, HashValid host node

/-- No entry of a payload is one of those that every node has. -/
def headFree (payload : Fields P) : Bool :=
  payload.all fun field => field.1 ∉ ["id", "type", "created_at", "content_hash", "provenance"]

variable {host}

theorem nodeContentPayload_of_headFree {payload : Fields P} (h : headFree payload = true) :
    nodeContentPayload payload = payload := by
  rw [headFree, List.all_eq_true] at h
  exact List.filter_eq_self.mpr h

theorem hashValid_postMigrationNode {payload : Fields P} (h : headFree payload = true) (nodeId nodeType : String) :
    HashValid host (postMigrationNode host nodeId nodeType payload) := by
  refine ⟨_, rfl, ?_⟩
  rw [show nodeContentPayload (_ ++ payload) = nodeContentPayload payload from rfl, nodeContentPayload_of_headFree h]
  rfl

/-- Another entry of the payload, in the place of the old one. -/
theorem nodeContentPayload_dictInsert {key : String}
    (h : key ∉ ["id", "type", "created_at", "content_hash", "provenance"]) (fields : Fields P) (value : Json P) :
    nodeContentPayload (dictInsert fields key value) = dictInsert (nodeContentPayload fields) key value := by
  have hany : (nodeContentPayload fields).any (·.1 = key) = fields.any (·.1 = key) := by
    rw [nodeContentPayload, List.any_filter]
    congr 1
    funext field
    by_cases hkey : field.1 = key
    · simp [hkey, h]
    · simp [hkey]
  unfold dictInsert
  rw [hany]
  split
  next =>
    rw [nodeContentPayload, nodeContentPayload, List.filter_map]
    congr 1
    apply List.filter_congr
    intro field _
    simp only [Function.comp_apply]
    split
    next hkey => rw [hkey]
    next => rfl
  next =>
    rw [nodeContentPayload, List.filter_append, List.filter_cons_of_pos (by simpa using h)]
    rfl

/-- The hash of a payload does not look at the entry for the hash. -/
theorem hashValid_refresh {node node' : Json P} (h : refreshNodeContentHash host node = .ok node') :
    HashValid host node' := by
  cases node with
  | dict fields =>
    cases h
    refine ⟨_, rfl, ?_⟩
    have hwithout (fields : Fields P) :
        nodeContentPayload fields = nodeContentPayload (fields.filter fun field => field.1 ≠ "content_hash") := by
      rw [nodeContentPayload, nodeContentPayload, List.filter_filter]
      congr 1
      funext field
      by_cases hkey : field.1 = "content_hash" <;> simp [hkey]
    rw [lookup_dictInsert, if_pos rfl, hwithout (dictInsert _ _ _), filter_dictInsert, ← hwithout]
  | null | bool _ | int _ | float _ | str _ | list _ => cases h

theorem hashValid_completeToolCall {nodeId approvalState : String} {node node' : Json P}
    (h : completeToolCall host nodeId approvalState node = .ok node') : HashValid host node' := by
  obtain ⟨type, _, h⟩ := except_bind_ok_iff.mp h
  obtain ⟨_, h⟩ := except_bind_unit_ok_iff.mp h
  obtain ⟨first, _, h⟩ := except_bind_ok_iff.mp h
  obtain ⟨second, _, h⟩ := except_bind_ok_iff.mp h
  exact hashValid_refresh h

theorem hashValid_editNode {nodeId : String} {edit : Json P → Except PyException (Json P)}
    {nodes nodes' : List (Json P)} (h : editNode host nodeId edit nodes = .ok nodes')
    (hedit : ∀ node node', edit node = .ok node' → HashValid host node')
    (hvalid : ∀ node ∈ nodes, HashValid host node) : ∀ node ∈ nodes', HashValid host node := by
  induction nodes generalizing nodes' with
  | nil => cases h
  | cons node nodes ih =>
    obtain ⟨hnode, hnodes⟩ := List.forall_mem_cons.mp hvalid
    obtain ⟨found, _, h⟩ := except_bind_ok_iff.mp h
    split at h
    next =>
      obtain ⟨node', hnode', h⟩ := except_bind_ok_iff.mp h
      cases h
      exact List.forall_mem_cons.mpr ⟨hedit _ _ hnode', hnodes⟩
    next =>
      obtain ⟨rest, hrest, h⟩ := except_bind_ok_iff.mp h
      cases h
      exact List.forall_mem_cons.mpr ⟨hnode, ih hrest hnodes⟩

/-- An edit of the graph as the resume and the return make it. -/
inductive GraphEdit (host : AgentHost P) : Json P → Json P → Prop
  | marked {graph graph' : Json P} {nodeId approvalState : String}
      (h : markToolCallCompleted host graph nodeId approvalState = .ok graph') : GraphEdit host graph graph'
  | appended {graph graph' : Json P} {nodeId nodeType : String} {payload : Fields P} (hfree : headFree payload = true)
      (h : appendPostMigrationNode host graph nodeId nodeType payload = .ok graph') : GraphEdit host graph graph'
  | other {graph graph' : Json P} {key : String} (hkey : key ≠ "nodes") (h : SameBut [key] graph graph') :
    GraphEdit host graph graph'

theorem NodesValid.edit {graph graph' : Json P} (hvalid : NodesValid host graph) (h : GraphEdit host graph graph') :
    NodesValid host graph' := by
  obtain ⟨nodes, hnodes, hall⟩ := hvalid
  cases h with
  | marked h =>
    obtain ⟨found, hfound, h⟩ := except_bind_ok_iff.mp h
    cases hfound.symm.trans (Json.getOr_of_item hnodes _)
    obtain ⟨items, hitems, h⟩ := except_bind_ok_iff.mp h
    cases hitems
    obtain ⟨nodes', hedit, h⟩ := except_bind_ok_iff.mp h
    exact ⟨nodes', item_of_setItem h, hashValid_editNode hedit (fun _ _ => hashValid_completeToolCall) hall⟩
  | appended hfree h =>
    obtain ⟨items, hitems, hitems', _⟩ := appendTo_ok h
    cases hnodes.symm.trans hitems
    refine ⟨_, hitems', ?_⟩
    intro node hmem
    rcases List.mem_append.mp hmem with hmem | hmem
    · exact hall node hmem
    · rw [List.mem_singleton.mp hmem]
      exact hashValid_postMigrationNode hfree _ _
  | other hkey h => exact ⟨nodes, (h.item (by simpa using hkey.symm)).trans hnodes, hall⟩

theorem NodesValid.edits {graph graph' : Json P} (hvalid : NodesValid host graph)
    (h : Relation.ReflTransGen (GraphEdit host) graph graph') : NodesValid host graph' := by
  induction h with
  | refl => exact hvalid
  | tail _ hlast ih => exact ih.edit hlast

end Hashes

section Runs

variable {host : AgentHost P} {graph graph' : Json P} {world world' : World}

/-- The second graph comes from the first by edits of that kind. -/
abbrev Edited (host : AgentHost P) : Json P → Json P → Prop := Relation.ReflTransGen (GraphEdit host)

theorem edited_setItem {key : String} {new : Json P} (hkey : key ≠ "nodes") (h : graph.setItem key new = .ok graph') :
    Edited host graph graph' := .single (.other hkey (sameBut_setItem h))

theorem edited_append {nodeId nodeType : String} {payload : Fields P} (hfree : headFree payload = true)
    (h : appendPostMigrationNode host graph nodeId nodeType payload = .ok graph') : Edited host graph graph' :=
  .single (.appended hfree h)

theorem edited_appendEdges {edges : List (String × String × String)} (h : appendEdges graph edges = .ok graph') :
    Edited host graph graph' := by
  induction edges generalizing graph with
  | nil =>
    cases h
    exact .refl
  | cons edge edges ih =>
    obtain ⟨middle, hmiddle, h⟩ := except_bind_ok_iff.mp h
    obtain ⟨_, _, _, hsame⟩ := appendTo_ok hmiddle
    exact .head (.other (by decide) hsame) (ih h)

theorem edited_appendLineage {event : String} (h : appendLineage graph event = .ok graph') :
    Edited host graph graph' := by
  obtain ⟨found, _, h⟩ := except_bind_ok_iff.mp h
  cases found with
  | list items =>
    obtain ⟨graphId, _, h⟩ := except_bind_ok_iff.mp h
    exact edited_setItem (by decide) h
  | null | bool _ | int _ | float _ | str _ | dict _ => cases h

theorem edited_resumeRead (h : resumeRead host graph = .ok graph') : Edited host graph graph' := by
  obtain ⟨readTool, _, h⟩ := except_bind_ok_iff.mp h
  obtain ⟨sideEffect, _, h⟩ := except_bind_ok_iff.mp h
  obtain ⟨resumePolicy, _, h⟩ := except_bind_ok_iff.mp h
  obtain ⟨_, h⟩ := except_bind_unit_ok_iff.mp h
  obtain ⟨marked, hmarked, h⟩ := except_bind_ok_iff.mp h
  obtain ⟨appended, happended, h⟩ := except_bind_ok_iff.mp h
  exact .head (.marked hmarked) ((edited_append rfl happended).trans (edited_appendEdges h))

theorem edited_recordPublish {announcementHash : String} {announcementSize : Nat}
    (h : recordPublish host graph announcementHash announcementSize = .ok graph') : Edited host graph graph' := by
  obtain ⟨published, hpublished, h⟩ := except_bind_ok_iff.mp h
  obtain ⟨announced, hannounced, h⟩ := except_bind_ok_iff.mp h
  obtain ⟨continued, hcontinued, h⟩ := except_bind_ok_iff.mp h
  exact (edited_append rfl hpublished).trans ((edited_append rfl hannounced).trans
    ((edited_append rfl hcontinued).trans (edited_appendEdges h)))

theorem edited_releaseOrBlock {result : ImportResult P} {approvePublish : Bool}
    {preResumeGraphHash publishTool : Json P} {state : ResumeState P} (h : (releaseOrBlock host result approvePublish preResumeGraphHash publishTool graph).run
      world = .ok state world') : Edited host graph state.graph := by
  unfold releaseOrBlock at h
  split at h
  next =>
    obtain ⟨sideEffect, _, h⟩ := run_liftExcept_bind_ok_iff.mp h
    obtain ⟨resumePolicy, _, h⟩ := run_liftExcept_bind_ok_iff.mp h
    obtain ⟨_, _, h⟩ := run_liftExcept_bind_ok_iff.mp h
    obtain ⟨marked, hmarked, h⟩ := run_liftExcept_bind_ok_iff.mp h
    obtain ⟨_, _, _, h⟩ := run_bind_ok_iff.mp h
    obtain ⟨_, _, _, h⟩ := run_bind_ok_iff.mp h
    obtain ⟨written, _, _, h⟩ := run_bind_ok_iff.mp h
    obtain ⟨recorded, hrecorded, h⟩ := run_liftExcept_bind_ok_iff.mp h
    cases h
    exact .head (.marked hmarked) (edited_recordPublish hrecorded)
  next =>
    obtain ⟨hblocked, rfl⟩ := run_liftExcept_ok_iff.mp h
    obtain ⟨status, _, h⟩ := except_bind_ok_iff.mp hblocked
    obtain ⟨approvalState, _, h⟩ := except_bind_ok_iff.mp h
    cases h
    exact .refl

theorem edited_closeGraph {preResumeGraphHash : Json P} {graphHash : String}
    (h : closeGraph host graph preResumeGraphHash = .ok (graph', graphHash)) : Edited host graph graph' := by
  obtain ⟨appended, happended, h⟩ := except_bind_ok_iff.mp h
  obtain ⟨traced, htraced, h⟩ := except_bind_ok_iff.mp h
  obtain ⟨named, hnamed, h⟩ := except_bind_ok_iff.mp h
  obtain ⟨found, _, h⟩ := except_bind_ok_iff.mp h
  obtain ⟨closed, hclosed, h⟩ := except_bind_ok_iff.mp h
  cases h
  exact (edited_append rfl happended).trans ((edited_appendLineage htraced).trans
    ((edited_setItem (by decide) hnamed).trans (edited_setItem (by decide) hclosed)))

theorem edited_recordReturn {targetGraphHash targetProofHash : Json P} {targetArtifactHash continuationHash : String}
    {continuationSize : Nat} {graphHash : String} (h : recordReturn host graph targetGraphHash targetProofHash
      targetArtifactHash continuationHash continuationSize = .ok (graph', graphHash)) : Edited host graph graph' := by
  obtain ⟨continued, hcontinued, h⟩ := except_bind_ok_iff.mp h
  obtain ⟨returned, hreturned, h⟩ := except_bind_ok_iff.mp h
  obtain ⟨noted, hnoted, h⟩ := except_bind_ok_iff.mp h
  obtain ⟨linked, hlinked, h⟩ := except_bind_ok_iff.mp h
  obtain ⟨traced, htraced, h⟩ := except_bind_ok_iff.mp h
  obtain ⟨named, hnamed, h⟩ := except_bind_ok_iff.mp h
  obtain ⟨found, _, h⟩ := except_bind_ok_iff.mp h
  obtain ⟨closed, hclosed, h⟩ := except_bind_ok_iff.mp h
  cases h
  exact (edited_append rfl hcontinued).trans ((edited_append rfl hreturned).trans ((edited_append rfl hnoted).trans
    ((edited_appendEdges hlinked).trans ((edited_appendLineage htraced).trans
      ((edited_setItem (by decide) hnamed).trans (edited_setItem (by decide) hclosed))))))

theorem run_writeJson_log {path : List String} {value : Json P} (hdots : ".." ∉ path)
    (h : (writeJson host path value).run world = .ok () world') :
    world'.log = world.log ++ [.write path (jsonFileBytes host value)] := by
  obtain ⟨_, middle, hmake, h⟩ := run_bind_ok_iff.mp h
  obtain ⟨disk, _, rfl⟩ := run_makeDirectory_ok_iff.mp hmake
  obtain ⟨location, hresolve, _, rfl⟩ := run_openWrite_ok_iff.mp h
  cases resolve_of_not_mem hdots hresolve
  rfl

/-- What a resume writes as the resumed graph comes from the graph that it loaded by those edits. -/
theorem resumeGraph_edited {result : ImportResult P} {approvePublish : Bool} {report : Json P}
    (h : (resumeGraph host result graph approvePublish).run world = .ok report world') :
    ∃ resumed, Edited host graph resumed ∧
      .write (resumedGraphPath result.restoredWorkspace) (jsonFileBytes host resumed) ∈ world'.log := by
  rw [resumeGraph_eq] at h
  obtain ⟨preResumeGraphHash, _, h⟩ := run_liftExcept_bind_ok_iff.mp h
  obtain ⟨read, hread, h⟩ := run_liftExcept_bind_ok_iff.mp h
  obtain ⟨publishTool, _, h⟩ := run_liftExcept_bind_ok_iff.mp h
  obtain ⟨state, middle, hstate, h⟩ := run_bind_ok_iff.mp h
  obtain ⟨⟨closed, graphHash⟩, hclosed, h⟩ := run_liftExcept_bind_ok_iff.mp h
  obtain ⟨_, first, hfirst, h⟩ := run_bind_ok_iff.mp h
  obtain ⟨_, second, hsecond, h⟩ := run_bind_ok_iff.mp h
  cases h
  refine ⟨closed,
    (edited_resumeRead hread).trans ((edited_releaseOrBlock hstate).trans (edited_closeGraph hclosed)), ?_⟩
  rw [run_writeJson_log (result.restoredWorkspace.not_mem_append (by decide)) hsecond,
    run_writeJson_log (result.restoredWorkspace.not_mem_append (by decide)) hfirst]
  exact List.mem_append_left _ (List.mem_append_right _ (List.mem_singleton_self _))

/-- What the origin writes as the returned graph comes from the graph of the target by those edits. -/
theorem continueHome_edited {workspace : Directory} {result : ImportResult P} {evidence : ReturnEvidence P}
    {report : Json P} (h : (continueHome host workspace result evidence).run world = .ok report world') :
    ∃ returned, Edited host evidence.targetGraph returned ∧
      .write (workspace.names ++ ["reports", "roundtrip", "returned-home-graph.json"]) (jsonFileBytes host returned) ∈
        world'.log := by
  obtain ⟨targetGraphHash, _, h⟩ := run_liftExcept_bind_ok_iff.mp h
  obtain ⟨targetProofHash, _, h⟩ := run_liftExcept_bind_ok_iff.mp h
  obtain ⟨_, _, _, h⟩ := run_bind_ok_iff.mp h
  obtain ⟨_, _, _, h⟩ := run_bind_ok_iff.mp h
  obtain ⟨written, _, _, h⟩ := run_bind_ok_iff.mp h
  obtain ⟨⟨returned, graphHash⟩, hreturned, h⟩ := run_liftExcept_bind_ok_iff.mp h
  obtain ⟨_, first, hfirst, h⟩ := run_bind_ok_iff.mp h
  obtain ⟨originHash, _, h⟩ := run_liftExcept_bind_ok_iff.mp h
  obtain ⟨_, second, hsecond, h⟩ := run_bind_ok_iff.mp h
  cases h
  refine ⟨returned, edited_recordReturn hreturned, ?_⟩
  rw [run_writeJson_log (workspace.not_mem_append (by decide)) hsecond,
    run_writeJson_log (workspace.not_mem_append (by decide)) hfirst]
  exact List.mem_append_left _ (List.mem_append_right _ (List.mem_singleton_self _))

end Runs

end PermeantOS
