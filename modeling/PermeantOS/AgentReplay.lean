import PermeantOS.AgentLinks
import PermeantOS.AgentResume
import PermeantOS.ReplaySafety

namespace PermeantOS

variable {P : Type} {host : AgentHost P}

section Edits

variable {value value' new graph graph' : Json P} {key nodeId other : String}

theorem sameBut_setItem (h : value.setItem key new = .ok value') : SameBut [key] value value' := by
  cases value with
  | dict fields =>
    cases h
    refine ⟨fields, _, rfl, rfl, ?_⟩
    intro name hname
    rw [lookup_dictInsert, if_neg (by simpa using hname)]
  | null | bool _ | int _ | float _ | str _ | list _ => cases h

theorem item_of_setItem (h : value.setItem key new = .ok value') : value'.item key = .ok new := by
  cases value with
  | dict fields =>
    cases h
    exact Json.item_ok_iff.mpr ⟨_, rfl, by rw [lookup_dictInsert, if_pos rfl]⟩
  | null | bool _ | int _ | float _ | str _ | list _ => cases h

theorem appendTo_ok {item : Json P} (h : value.appendTo key item = .ok value') :
    ∃ items, value.item key = .ok (.list items) ∧ value'.item key = .ok (.list (items ++ [item])) ∧
      SameBut [key] value value' := by
  obtain ⟨found, hfound, h⟩ := except_bind_ok_iff.mp h
  cases found with
  | list items => exact ⟨items, hfound, item_of_setItem h, sameBut_setItem h⟩
  | null | bool _ | int _ | float _ | str _ | dict _ => cases h

theorem completeToolCall_ok {approvalState : String}
    (h : completeToolCall host nodeId approvalState value = .ok value') :
    value.get "type" = .ok (.str "tool_call") ∧ value'.get "id" = value.get "id" := by
  obtain ⟨type, htype, h⟩ := except_bind_ok_iff.mp h
  obtain ⟨hkind, h⟩ := except_bind_unit_ok_iff.mp h
  obtain ⟨first, hfirst, h⟩ := except_bind_ok_iff.mp h
  obtain ⟨second, hsecond, h⟩ := except_bind_ok_iff.mp h
  rw [refuseIf_ok_iff, Bool.not_eq_false', pyEq_str_iff] at hkind
  subst hkind
  refine ⟨htype, ?_⟩
  have hthird : value'.get "id" = second.get "id" := by
    cases second with
    | dict fields =>
      rw [refreshNodeContentHash] at h
      exact (sameBut_setItem h).get (by decide)
    | null | bool _ | int _ | float _ | str _ | list _ => cases h
  rw [hthird, (sameBut_setItem hsecond).get (by decide), (sameBut_setItem hfirst).get (by decide)]

theorem findNode_cons_of_ne {node : Json P} {nodes : List (Json P)} (hid : node.get "id" = .ok (.str other))
    (hne : other ≠ nodeId) : findNode host nodeId (node :: nodes) = findNode host nodeId nodes := by
  have hfalse : ¬pyEq host (.str other) (.str nodeId) = true := by
    rw [pyEq_str_iff]
    intro h
    exact hne (Json.str.inj h)
  rw [findNode, except_bind_of_ok hid, if_neg hfalse]

theorem findNode_append_of_ne {node : Json P} (nodes : List (Json P)) (hid : node.get "id" = .ok (.str other))
    (hne : other ≠ nodeId) : findNode host nodeId (nodes ++ [node]) = findNode host nodeId nodes := by
  induction nodes with
  | nil => exact findNode_cons_of_ne hid hne
  | cons first nodes ih =>
    rw [List.cons_append, findNode, findNode]
    refine bind_congr ?_
    intro found
    rw [ih]

/-- An edit is one of the node that is found, and leaves the search for others as it is. -/
theorem editNode_ok {edit : Json P → Except PyException (Json P)} {nodes nodes' : List (Json P)}
    (h : editNode host nodeId edit nodes = .ok nodes')
    (hedit : ∀ node node', edit node = .ok node' → node'.get "id" = node.get "id") :
    (∃ node node', findNode host nodeId nodes = .ok node ∧ edit node = .ok node') ∧
      ∀ other, nodeId ≠ other → findNode host other nodes' = findNode host other nodes := by
  induction nodes generalizing nodes' with
  | nil => cases h
  | cons node nodes ih =>
    obtain ⟨found, hid, h⟩ := except_bind_ok_iff.mp h
    split at h
    next hfound =>
      obtain ⟨node', hnode, h⟩ := except_bind_ok_iff.mp h
      cases h
      have hself : found = .str nodeId := (pyEq_str_iff host).mp hfound
      subst hself
      refine ⟨⟨node, node', ?_, hnode⟩, ?_⟩
      · rw [findNode, except_bind_of_ok hid, if_pos hfound]
        rfl
      · intro other hne
        rw [findNode_cons_of_ne ((hedit _ _ hnode).trans hid) hne, findNode_cons_of_ne hid hne]
    next hfound =>
      obtain ⟨rest, hrest, h⟩ := except_bind_ok_iff.mp h
      cases h
      obtain ⟨⟨last, last', hlast, hlast'⟩, hothers⟩ := ih hrest
      refine ⟨⟨last, last', ?_, hlast'⟩, ?_⟩
      · rw [findNode, except_bind_of_ok hid, if_neg hfound, hlast]
      · intro other hne
        rw [findNode, findNode, hothers other hne]

/-- What the search for a node sees of a graph that has its nodes in a list. -/
theorem nodeById_of_item {nodes : List (Json P)} (h : graph.item "nodes" = .ok (.list nodes)) :
    nodeById host graph nodeId = findNode host nodeId nodes := by
  have hitems : (Json.list nodes).iterate = .ok nodes := rfl
  rw [nodeById, except_bind_of_ok (Json.getOr_of_item h _), except_bind_of_ok hitems]

theorem nodeById_of_same (h : SameBut [key] graph graph') (hkey : key ≠ "nodes") (nodeId : String) :
    nodeById host graph' nodeId = nodeById host graph nodeId := by
  rw [nodeById, nodeById, h.getOr (by simpa using hkey.symm)]

theorem markToolCallCompleted_ok {approvalState : String}
    (h : markToolCallCompleted host graph nodeId approvalState = .ok graph') :
    (∃ node, nodeById host graph nodeId = .ok node ∧ node.get "type" = .ok (.str "tool_call")) ∧
      ∀ other, nodeId ≠ other → nodeById host graph' other = nodeById host graph other := by
  obtain ⟨found, hfound, h⟩ := except_bind_ok_iff.mp h
  obtain ⟨nodes, hnodes, h⟩ := except_bind_ok_iff.mp h
  obtain ⟨nodes', hedit, h⟩ := except_bind_ok_iff.mp h
  have hsearch (other : String) : nodeById host graph other = findNode host other nodes := by
    rw [nodeById, except_bind_of_ok hfound, except_bind_of_ok hnodes]
  obtain ⟨⟨node, node', hnode, hcomplete⟩, hothers⟩ :=
    editNode_ok hedit fun _ _ hnode => (completeToolCall_ok hnode).2
  refine ⟨⟨node, (hsearch nodeId).trans hnode, (completeToolCall_ok hcomplete).1⟩, ?_⟩
  intro other hne
  rw [nodeById_of_item (item_of_setItem h), hothers other hne, hsearch]

theorem nodeById_appendPostMigrationNode {nodeType : String} {payload : Fields P}
    (h : appendPostMigrationNode host graph nodeId nodeType payload = .ok graph') (hne : nodeId ≠ other) :
    nodeById host graph' other = nodeById host graph other := by
  obtain ⟨nodes, hnodes, hnodes', _⟩ := appendTo_ok h
  have hid : (postMigrationNode host nodeId nodeType payload).get "id" = .ok (.str nodeId) := rfl
  rw [nodeById_of_item hnodes', nodeById_of_item hnodes, findNode_append_of_ne nodes hid hne]

theorem nodeById_appendEdges {edges : List (String × String × String)}
    (h : appendEdges graph edges = .ok graph') (nodeId : String) :
    nodeById host graph' nodeId = nodeById host graph nodeId := by
  induction edges generalizing graph with
  | nil =>
    cases h
    rfl
  | cons edge edges ih =>
    obtain ⟨middle, hmiddle, h⟩ := except_bind_ok_iff.mp h
    obtain ⟨_, _, _, hsame⟩ := appendTo_ok hmiddle
    rw [ih h, nodeById_of_same hsame (by decide)]

end Edits

section Verdicts

variable {graph node : Json P} {fields : ReplayFields P} {entry : AuditEntry P} {approvePublish : Bool}

/-- The status is neither `completed` nor `cancelled`. -/
def AuditEntry.Unfinished (entry : AuditEntry P) : Prop :=
  entry.status.inStrings ["completed", "cancelled"] = .ok false

/-- The audit lets the tool call be done again, if need be with the user's approval. -/
def AuditEntry.Allowed (approvePublish : Bool) (entry : AuditEntry P) : Prop :=
  entry.action = "retry_allowed" ∨ entry.action = "requires_user" ∧ approvePublish = true

/-- A tool call that is not finished, and either harmless and to be retried, or risky and the user's to approve. -/
def ReplayFields.MayResume (approvePublish : Bool) (fields : ReplayFields P) : Prop :=
  ¬fields.Finished ∧ (fields.Harmless ∧ fields.RetrySafe ∨
    approvePublish = true ∧ fields.Risky ∧ fields.resumePolicy = .str "ask_user")

theorem auditNode_allowed_iff (hfields : replayFields graph node = .ok fields)
    (h : auditNode host graph node = .ok entry) (hsafe : entry.safeToImport = true) :
    entry.Unfinished ∧ entry.Allowed approvePublish ↔ fields.MayResume approvePublish := by
  obtain ⟨found, verdict, hfound, hverdict, hlast, hstatus⟩ := auditNode_ok h
  cases hfields.symm.trans hfound
  have haction : entry.action = verdict.action := by
    rcases approvalVerdict_ok hlast with heq | ⟨_, hrejected⟩
    · rw [← heq]
    · cases hsafe.symm.trans hrejected
  obtain ⟨finished, hfinished, _⟩ := except_bind_ok_iff.mp hverdict
  have hunfinished : entry.Unfinished ↔ ¬fields.Finished := by
    rw [AuditEntry.Unfinished, hstatus, hfinished, ReplayFields.Finished, ← isAmong_of_inStrings hfinished]
    simp
  rw [hunfinished, AuditEntry.Allowed, haction, replayVerdict_retry_iff hverdict, replayVerdict_user_iff hverdict,
    ReplayFields.MayResume]
  tauto

end Verdicts

section Replays

variable {package : Directory} {workspace : Option Directory} {world world' middle : World}
  {result : ImportResult P} {manifest graph loaded graph' node report : Json P} {audit : List (AuditEntry P)}
  {approvePublish : Bool} {nodeId sideEffect resumePolicy : String}

/-- Every tool call that a report lists as executed has in a graph a tool call, the first node with its id, and
in the audit an entry for it: not finished, and to be done again. -/
def ReplaysNothing (host : AgentHost P) (graph : Json P) (audit : List (AuditEntry P)) (approvePublish : Bool)
    (report : Json P) : Prop :=
  ∃ tools, report.item "executed_tools" = .ok (.list tools) ∧ ∀ tool ∈ tools, ∃ nodeId node, ∃ entry ∈ audit,
    tool.item "node_id" = .ok (.str nodeId) ∧ nodeById host graph nodeId = .ok node ∧
      node.get "type" = .ok (.str "tool_call") ∧ auditNode host graph node = .ok entry ∧
        entry.Unfinished ∧ entry.Allowed approvePublish

/-- The first node with an id is a tool call that may be done again. -/
def MayReplay (host : AgentHost P) (graph : Json P) (approvePublish : Bool) (nodeId : String) : Prop :=
  ∃ node fields, nodeById host graph nodeId = .ok node ∧ node.get "type" = .ok (.str "tool_call") ∧
    replayFields graph node = .ok fields ∧ fields.MayResume approvePublish

/-- The first node with an id has a status that is neither `completed` nor `cancelled`. -/
def IsUnfinished (host : AgentHost P) (graph : Json P) (nodeId : String) : Prop :=
  ∃ node status, nodeById host graph nodeId = .ok node ∧ node.getOr "status" (.str "needs_user") = .ok status ∧
    ¬status.IsAmong ["completed", "cancelled"]

/-- What the guards of the executor ask of a tool call. -/
inductive ReplayGuard : Bool → String → String → Prop
  | read (approvePublish : Bool) : ReplayGuard approvePublish "read_only" "retry_safe"
  | publish : ReplayGuard true "external_write" "ask_user"

/-- The tool calls that a resume executes. -/
def resumedIds (approvePublish : Bool) : List String :=
  if approvePublish = true then [readToolId, publishToolId] else [readToolId]

/-- A tool call that passes the guard of the executor. -/
structure Guarded (host : AgentHost P) (graph : Json P) (nodeId sideEffect resumePolicy : String)
    (node : Json P) : Prop where
  found : nodeById host graph nodeId = .ok node
  type : node.get "type" = .ok (.str "tool_call")
  sideEffect : node.get "side_effect" = .ok (.str sideEffect)
  resumePolicy : node.get "resume_policy" = .ok (.str resumePolicy)

/-- A tool call that passes its guard may be done again as long as it is not finished. -/
theorem Guarded.mayResume_iff {fields : ReplayFields P}
    (hguarded : Guarded host graph nodeId sideEffect resumePolicy node)
    (hguard : ReplayGuard approvePublish sideEffect resumePolicy) (h : replayFields graph node = .ok fields) :
    fields.MayResume approvePublish ↔ ¬fields.Finished := by
  rw [replayFields, except_bind_of_ok (getOr_of_get_str hguarded.sideEffect)] at h
  obtain ⟨status, _, h⟩ := except_bind_ok_iff.mp h
  obtain ⟨policies, _, h⟩ := except_bind_ok_iff.mp h
  obtain ⟨defaultPolicy, _, h⟩ := except_bind_ok_iff.mp h
  rw [except_bind_of_ok (getOr_of_get_str hguarded.resumePolicy)] at h
  obtain ⟨approvalState, _, h⟩ := except_bind_ok_iff.mp h
  cases h
  refine and_iff_left ?_
  cases hguard with
  | read => exact Or.inl ⟨⟨"read_only", by decide, rfl⟩, rfl⟩
  | publish => exact Or.inr ⟨rfl, ⟨"external_write", by decide, rfl⟩, rfl⟩

theorem refuseUnless_eq_ok {a b : Json P} {left right message : String}
    (h : refuseIf (!pyEq host a (.str left) || !pyEq host b (.str right)) message = .ok ()) :
    a = .str left ∧ b = .str right := by
  rw [refuseIf_ok_iff, Bool.or_eq_false_iff, Bool.not_eq_false', Bool.not_eq_false', pyEq_str_iff,
    pyEq_str_iff] at h
  exact h

theorem resumeRead_ok (h : resumeRead host graph = .ok graph') :
    (∃ node, Guarded host graph readToolId "read_only" "retry_safe" node) ∧
      ∀ other, readToolId ≠ other → "tool:result:read-aws-quota:post-import" ≠ other →
        nodeById host graph' other = nodeById host graph other := by
  obtain ⟨readTool, hread, h⟩ := except_bind_ok_iff.mp h
  obtain ⟨sideEffect, hsideEffect, h⟩ := except_bind_ok_iff.mp h
  obtain ⟨resumePolicy, hresumePolicy, h⟩ := except_bind_ok_iff.mp h
  obtain ⟨hguard, h⟩ := except_bind_unit_ok_iff.mp h
  obtain ⟨marked, hmarked, h⟩ := except_bind_ok_iff.mp h
  obtain ⟨recorded, hrecorded, hedges⟩ := except_bind_ok_iff.mp h
  obtain ⟨rfl, rfl⟩ := refuseUnless_eq_ok hguard
  obtain ⟨⟨node, hnode, htype⟩, hothers⟩ := markToolCallCompleted_ok hmarked
  cases hread.symm.trans hnode
  refine ⟨⟨readTool, hread, htype, hsideEffect, hresumePolicy⟩, ?_⟩
  intro other hne hne'
  rw [nodeById_appendEdges hedges, nodeById_appendPostMigrationNode hrecorded hne', hothers other hne]

theorem publishRelease_ok {preResumeGraphHash publishTool : Json P} {state : ResumeState P}
    (h : (publishRelease host result preResumeGraphHash publishTool graph).run world = .ok state world')
    (hpublish : nodeById host graph publishToolId = .ok publishTool) :
    Guarded host graph publishToolId "external_write" "ask_user" publishTool ∧
      ∃ hash, state.executedTools = [executedRead host, executedPublish hash] := by
  obtain ⟨sideEffect, hsideEffect, h⟩ := run_liftExcept_bind_ok_iff.mp h
  obtain ⟨resumePolicy, hresumePolicy, h⟩ := run_liftExcept_bind_ok_iff.mp h
  obtain ⟨_, hguard, h⟩ := run_liftExcept_bind_ok_iff.mp h
  obtain ⟨marked, hmarked, h⟩ := run_liftExcept_bind_ok_iff.mp h
  obtain ⟨_, _, _, h⟩ := run_bind_ok_iff.mp h
  obtain ⟨_, _, _, h⟩ := run_bind_ok_iff.mp h
  obtain ⟨⟨hash, size⟩, _, _, h⟩ := run_bind_ok_iff.mp h
  obtain ⟨recorded, _, h⟩ := run_liftExcept_bind_ok_iff.mp h
  cases h
  obtain ⟨rfl, rfl⟩ := refuseUnless_eq_ok hguard
  obtain ⟨⟨node, hnode, htype⟩, _⟩ := markToolCallCompleted_ok hmarked
  cases hpublish.symm.trans hnode
  exact ⟨⟨hpublish, htype, hsideEffect, hresumePolicy⟩, hash, rfl⟩

theorem blockRelease_executed {publishTool : Json P} {state : ResumeState P}
    (h : blockRelease host publishTool graph = .ok state) : state.executedTools = [executedRead host] := by
  obtain ⟨status, _, h⟩ := except_bind_ok_iff.mp h
  obtain ⟨approvalState, _, h⟩ := except_bind_ok_iff.mp h
  cases h
  rfl

/-- The step of a resume that depends on the approval. -/
def releaseOrBlock (host : AgentHost P) (result : ImportResult P) (approvePublish : Bool)
    (preResumeGraphHash publishTool graph : Json P) : AgentIO (ResumeState P) :=
  if approvePublish = true then publishRelease host result preResumeGraphHash publishTool graph
  else liftExcept (blockRelease host publishTool graph)

/-- The rest of a resume: the last edits, the two files and the report. -/
def finishResume (host : AgentHost P) (result : ImportResult P) (approvePublish : Bool)
    (preResumeGraphHash : Json P) (state : ResumeState P) : AgentIO (Json P) := do
  let (graph, graphHash) ← liftExcept (closeGraph host state.graph preResumeGraphHash)
  writeJson host (resumedGraphPath result.restoredWorkspace) graph
  let report := resumeReport host result approvePublish preResumeGraphHash graphHash state
  writeJson host (resumeReportPath result.restoredWorkspace) (.dict report)
  pure (.dict (report ++ [("resume_report_path", .str "reports/resume/resume-report.json")]))

theorem resumeGraph_eq : resumeGraph host result graph approvePublish = (do
    let preResumeGraphHash ← liftExcept (graph.item "graph_hash")
    let graph ← liftExcept (resumeRead host graph)
    let publishTool ← liftExcept (nodeById host graph publishToolId)
    let state ← releaseOrBlock host result approvePublish preResumeGraphHash publishTool graph
    finishResume host result approvePublish preResumeGraphHash state) := by
  cases approvePublish with
  | true => rfl
  | false => rfl

/-- The tool calls that a resume lists passed their guards in the graph that was loaded. -/
theorem resumeGraph_executes (h : (resumeGraph host result graph approvePublish).run world = .ok report world') :
    (∀ nodeId ∈ resumedIds approvePublish, ∃ sideEffect resumePolicy node,
      ReplayGuard approvePublish sideEffect resumePolicy ∧
        Guarded host graph nodeId sideEffect resumePolicy node) ∧
    ∃ tools, report.item "executed_tools" = .ok (.list tools) ∧
      tools.map (Json.item "node_id") = (resumedIds approvePublish).map fun nodeId => .ok (.str nodeId) := by
  rw [resumeGraph_eq] at h
  obtain ⟨preResumeGraphHash, _, h⟩ := run_liftExcept_bind_ok_iff.mp h
  obtain ⟨graph', hread, h⟩ := run_liftExcept_bind_ok_iff.mp h
  obtain ⟨publishTool, hpublish, h⟩ := run_liftExcept_bind_ok_iff.mp h
  obtain ⟨state, middle, hstate, h⟩ := run_bind_ok_iff.mp h
  obtain ⟨⟨closed, graphHash⟩, _, h⟩ := run_liftExcept_bind_ok_iff.mp h
  obtain ⟨_, _, _, h⟩ := run_bind_ok_iff.mp h
  obtain ⟨_, _, _, h⟩ := run_bind_ok_iff.mp h
  cases h
  obtain ⟨⟨readTool, hguarded⟩, hothers⟩ := resumeRead_ok hread
  have hsearch := hothers publishToolId (by decide) (by decide)
  cases approvePublish with
  | true =>
    obtain ⟨hpublished, hash, htools⟩ := publishRelease_ok hstate hpublish
    refine ⟨?_, state.executedTools, rfl, ?_⟩
    · intro nodeId hmem
      rcases List.mem_pair.mp hmem with rfl | rfl
      · exact ⟨_, _, readTool, .read true, hguarded⟩
      · exact ⟨_, _, publishTool, .publish, hsearch.symm.trans hpublish, hpublished.type,
          hpublished.sideEffect, hpublished.resumePolicy⟩
    · rw [htools]
      rfl
  | false =>
    obtain ⟨hblocked, rfl⟩ := run_liftExcept_ok_iff.mp hstate
    refine ⟨?_, state.executedTools, rfl, ?_⟩
    · intro nodeId hmem
      cases List.mem_singleton.mp hmem
      exact ⟨_, _, readTool, .read false, hguarded⟩
    · rw [blockRelease_executed hblocked]
      rfl

theorem mem_of_findNode {nodes : List (Json P)} (h : findNode host nodeId nodes = .ok node) : node ∈ nodes := by
  induction nodes with
  | nil => cases h
  | cons first nodes ih =>
    obtain ⟨found, _, h⟩ := except_bind_ok_iff.mp h
    split at h
    next =>
      cases h
      exact List.mem_cons_self
    next => exact List.mem_cons_of_mem _ (ih h)

theorem mem_selectNodes {kind : String} {nodes selected : List (Json P)}
    (h : selectNodes host kind nodes = .ok selected) (hmem : node ∈ nodes)
    (htype : node.get "type" = .ok (.str kind)) : node ∈ selected := by
  induction nodes generalizing selected with
  | nil => cases hmem
  | cons first nodes ih =>
    obtain ⟨type, hfirst, h⟩ := except_bind_ok_iff.mp h
    obtain ⟨rest, hrest, h⟩ := except_bind_ok_iff.mp h
    cases h
    rcases List.mem_cons.mp hmem with rfl | hmem
    · cases htype.symm.trans hfirst
      rw [if_pos (pyEq_str_self host kind)]
      exact List.mem_cons_self
    · split
      next => exact List.mem_cons_of_mem _ (ih hrest hmem)
      next => exact ih hrest hmem

/-- The audit has an entry for every tool call that is found by its id. -/
theorem audited_of_nodeById (hfound : nodeById host graph nodeId = .ok node)
    (htype : node.get "type" = .ok (.str "tool_call")) (h : auditToolReplaySafety host graph = .ok audit) :
    ∃ entry ∈ audit, auditNode host graph node = .ok entry := by
  obtain ⟨calls, hcalls, h⟩ := except_bind_ok_iff.mp h
  obtain ⟨found, hitem, hcalls⟩ := except_bind_ok_iff.mp hcalls
  obtain ⟨nodes, hnodes, hcalls⟩ := except_bind_ok_iff.mp hcalls
  rw [nodeById, except_bind_of_ok hitem, except_bind_of_ok hnodes] at hfound
  have hcall := mem_selectNodes hcalls (mem_of_findNode hfound) htype
  have hall := mapM_ok_forall h
  obtain ⟨entries, hentries, hmem⟩ := exists_mapM_ok hall
  cases h.symm.trans hentries
  obtain ⟨entry, hentry⟩ := hall node hcall
  exact ⟨entry, hmem node hcall entry hentry, hentry⟩

/-- An import audits the graph that it verifies, and accepts it only where every entry is safe. -/
theorem importSession_audit {targetRuntime : String}
    (h : (importSession host package workspace targetRuntime).run world = .ok result world')
    (hpackage : packageAt host package world.disk = .ok (manifest, graph)) :
    auditToolReplaySafety host graph = .ok result.sideEffectAudit ∧
      ∀ entry ∈ result.sideEffectAudit, entry.safeToImport = true := by
  obtain ⟨verified, middle, report, hverify, _, hfinish⟩ := run_importSession_ok_iff.mp h
  have hverified := (run_verifyPackage_ok hverify).2
  cases hpackage.symm.trans hverified.documents
  obtain ⟨_, _, hresult⟩ := finishImport_ok hfinish
  have hchecked := checkDocuments_ok hverified.checks
  have hreject := hchecked.safe
  rw [hresult]
  refine ⟨hchecked.audit, ?_⟩
  intro entry hentry
  rw [rejectUnsafeToolReplay, refuseIf_ok_iff, Bool.not_eq_false', List.isEmpty_iff,
    List.filter_eq_nil_iff] at hreject
  simpa using hreject entry hentry

/-- The report of a resume is about the two tool calls that it executes. -/
theorem replaysNothing_iff_audited
    (h : (resumeImportedAgent host package workspace approvePublish).run world = .ok report world') :
    ReplaysNothing host graph audit approvePublish report ↔ ∀ nodeId ∈ resumedIds approvePublish,
      ∃ node, ∃ entry ∈ audit, nodeById host graph nodeId = .ok node ∧ node.get "type" = .ok (.str "tool_call") ∧
        auditNode host graph node = .ok entry ∧ entry.Unfinished ∧ entry.Allowed approvePublish := by
  obtain ⟨_, _, _, hresume⟩ := run_bind_ok_iff.mp h
  obtain ⟨_, tools, htools, hids⟩ := resumeGraph_executes hresume
  constructor
  · intro hreplays nodeId hmem
    obtain ⟨listed, hlisted, hall⟩ := hreplays
    cases htools.symm.trans hlisted
    have hitem : Except.ok (.str nodeId) ∈ tools.map (Json.item "node_id") := by
      rw [hids]
      exact List.mem_map_of_mem hmem
    obtain ⟨tool, htool, hid⟩ := List.mem_map.mp hitem
    obtain ⟨found, node, entry, hentry, hfound, hrest⟩ := hall tool htool
    cases hid.symm.trans hfound
    exact ⟨node, entry, hentry, hrest⟩
  · intro hallowed
    refine ⟨tools, htools, ?_⟩
    intro tool htool
    have hitem : tool.item "node_id" ∈ tools.map (Json.item "node_id") := List.mem_map_of_mem htool
    rw [hids] at hitem
    obtain ⟨nodeId, hmem, hid⟩ := List.mem_map.mp hitem
    obtain ⟨node, entry, hentry, hrest⟩ := hallowed nodeId hmem
    exact ⟨nodeId, node, entry, hentry, hid.symm, hrest⟩

/-- Whether a resume does finished work again is up to the graph that the import verified, where the executor does
not look at the status of its two tool calls. Unless an artifact is restored over a document, the status alone
decides. -/
theorem replaysNothing_iff
    (hload : (loadImported host package workspace).run world = .ok (result, loaded) middle)
    (h : (resumeImportedAgent host package workspace approvePublish).run world = .ok report world')
    (hpackage : packageAt host package world.disk = .ok (manifest, graph)) :
    (ReplaysNothing host graph result.sideEffectAudit approvePublish report ↔
      ∀ nodeId ∈ resumedIds approvePublish, MayReplay host graph approvePublish nodeId) ∧
    ∀ artifacts, manifestArtifacts manifest = .ok artifacts →
      KeepsDocuments host package (workspaceOr package workspace) world.disk manifest artifacts →
        (ReplaysNothing host graph result.sideEffectAudit approvePublish report ↔
          ∀ nodeId ∈ resumedIds approvePublish, IsUnfinished host graph nodeId) := by
  obtain ⟨imported, manifest', himport, hloaded, _⟩ := run_loadImported_ok hload
  obtain ⟨haudit, hsafe⟩ := importSession_audit himport hpackage
  have hiff : ReplaysNothing host graph result.sideEffectAudit approvePublish report ↔
      ∀ nodeId ∈ resumedIds approvePublish, MayReplay host graph approvePublish nodeId := by
    rw [replaysNothing_iff_audited h]
    refine forall₂_congr ?_
    intro nodeId _
    constructor
    · rintro ⟨node, entry, hmem, hfound, htype, hentry, hallowed⟩
      obtain ⟨fields, _, hfields, _⟩ := auditNode_ok hentry
      exact ⟨node, fields, hfound, htype, hfields,
        (auditNode_allowed_iff hfields hentry (hsafe entry hmem)).mp hallowed⟩
    · rintro ⟨node, fields, hfound, htype, hfields, hmay⟩
      obtain ⟨entry, hmem, hentry⟩ := audited_of_nodeById hfound htype haudit
      exact ⟨node, entry, hmem, hfound, htype, hentry,
        (auditNode_allowed_iff hfields hentry (hsafe entry hmem)).mpr hmay⟩
  refine ⟨hiff, ?_⟩
  intro artifacts hartifacts hkeeps
  rw [hiff]
  obtain ⟨_, _, _, haccepted, _, hplan⟩ := run_importSession_planned himport
  cases hpackage.symm.trans haccepted.documents
  cases hartifacts.symm.trans haccepted.listed
  cases (hkeeps.packageAt hpackage hplan).symm.trans hloaded
  rw [resumeImportedAgent, run_bind_of_ok hload] at h
  obtain ⟨hguards, _⟩ := resumeGraph_executes h
  refine forall₂_congr ?_
  intro nodeId hmem
  obtain ⟨sideEffect, resumePolicy, node, hguard, hguarded⟩ := hguards nodeId hmem
  obtain ⟨entry, _, hentry⟩ := audited_of_nodeById hguarded.found hguarded.type haudit
  obtain ⟨fields, _, hfields, _⟩ := auditNode_ok hentry
  have hstatus : node.getOr "status" (.str "needs_user") = .ok fields.status := by
    obtain ⟨_, _, hrest⟩ := except_bind_ok_iff.mp hfields
    obtain ⟨status, hstatus, hrest⟩ := except_bind_ok_iff.mp hrest
    obtain ⟨_, _, hrest⟩ := except_bind_ok_iff.mp hrest
    obtain ⟨_, _, hrest⟩ := except_bind_ok_iff.mp hrest
    obtain ⟨_, _, hrest⟩ := except_bind_ok_iff.mp hrest
    obtain ⟨_, _, hrest⟩ := except_bind_ok_iff.mp hrest
    cases hrest
    exact hstatus
  constructor
  · rintro ⟨other, found, hother, _, hfound, hmay⟩
    cases hguarded.found.symm.trans hother
    cases hfields.symm.trans hfound
    exact ⟨node, fields.status, hguarded.found, hstatus, hmay.1⟩
  · rintro ⟨other, status, hother, hfound, hunfinished⟩
    cases hguarded.found.symm.trans hother
    cases hstatus.symm.trans hfound
    exact ⟨node, fields, hguarded.found, hguarded.type, hfields,
      (hguarded.mayResume_iff hguard hfields).mpr hunfinished⟩

end Replays

section Plain

theorem run_writeJson_of_place (host : AgentHost P) {path : List String} {disk disk' : Disk} (log : List Access)
    {value : Json P} (h : placeFile disk path (jsonFileBytes host value) = .ok disk') :
    ∃ log', (writeJson host path value).run ⟨disk, log⟩ = .ok () ⟨disk', log'⟩ := by
  obtain ⟨made, location, hmade, hresolve, hdir, rfl⟩ := placeFile_ok_iff.mp h
  rw [writeJson, run_bind_of_ok (run_makeDirectory_ok_iff.mpr ⟨made, hmade, rfl⟩)]
  exact ⟨_, run_openWrite_ok_iff.mpr ⟨location, hresolve, hdir, rfl⟩⟩

/-- The quota check with a status, and a release that waits for the user. -/
def resumableNodes (readStatus : String) : List (Json Int) :=
  [.dict [("id", .str readToolId), ("type", .str "tool_call"), ("name", .str "aws.ec2.describe_instances"),
      ("side_effect", .str "read_only"), ("resume_policy", .str "retry_safe"), ("status", .str readStatus)],
    .dict [("id", .str publishToolId), ("type", .str "tool_call"), ("name", .str "fs.write_file"),
      ("side_effect", .str "external_write"), ("resume_policy", .str "ask_user"), ("status", .str "needs_user")]]

def resumableGraph (readStatus : String) : Json Int :=
  draftGraph decimalHost (plainDraft (resumableNodes readStatus))

theorem run_finishResume_of_places {workspace : Directory} {result : ImportResult P} {state : ResumeState P}
    {hash : Json P} {closed : Json P × String} (approvePublish : Bool) (disk : Disk) {placed placed' : Disk}
    (log : List Access) (hworkspace : result.restoredWorkspace = workspace)
    (hclose : closeGraph host state.graph hash = .ok closed)
    (hgraph : placeFile disk (resumedGraphPath workspace) (jsonFileBytes host closed.1) = .ok placed)
    (hreport : placeFile placed (resumeReportPath workspace)
      (jsonFileBytes host (.dict (resumeReport host result approvePublish hash closed.2 state))) = .ok placed') :
    ∃ report log', (finishResume host result approvePublish hash state).run ⟨disk, log⟩ =
      .ok report ⟨placed', log'⟩ := by
  obtain ⟨log', hfirst⟩ := run_writeJson_of_place host log hgraph
  obtain ⟨log'', hsecond⟩ := run_writeJson_of_place host log' hreport
  rw [finishResume, run_liftExcept_bind_of_ok hclose, hworkspace]
  dsimp only
  rw [run_bind_of_ok hfirst, run_bind_of_ok hsecond]
  exact ⟨_, _, rfl⟩

theorem run_resumeImportedAgent_plain (readStatus : String)
    (hcontents : checkContents decimalHost (resumableGraph readStatus)
      (draftManifest decimalHost (plainDraft (resumableNodes readStatus)))
        (draftSecurity decimalHost (plainDraft (resumableNodes readStatus))) runtimeId = .ok ())
    (haudit : (auditToolReplaySafety decimalHost (resumableGraph readStatus) >>=
      rejectUnsafeToolReplay decimalHost) = .ok ()) :
    ∃ result middle report world', (loadImported decimalHost draftPackage (some plainWorkspace)).run
        (plainWorld (resumableNodes readStatus)) = .ok (result, resumableGraph readStatus) middle ∧
      (resumeImportedAgent decimalHost draftPackage (some plainWorkspace) false).run
        (plainWorld (resumableNodes readStatus)) = .ok report world' := by
  have hnodes : PrintableItems decimalHost.floatRepr decimalHost.parseFloat (resumableNodes readStatus) := by
    simp [resumableNodes, Printable, PrintableFields, PrintableItems]
  obtain ⟨result, log, himport, _, hworkspace⟩ := run_importSession_plain hnodes hcontents haudit rfl
  have hload : (loadImported decimalHost draftPackage (some plainWorkspace)).run
      (plainWorld (resumableNodes readStatus)) = .ok (result, resumableGraph readStatus) _ :=
    run_loadImported_of_import himport (packageAt_plainImported hnodes)
  have hhash : (resumableGraph readStatus).item "graph_hash" =
    .ok (draftHash decimalHost (plainDraft (resumableNodes readStatus))) := rfl
  obtain ⟨graph', hread, state, hstate, closed, hclose⟩ : ∃ graph',
      resumeRead decimalHost (resumableGraph readStatus) = .ok graph' ∧
      ∃ state, (nodeById decimalHost graph' publishToolId >>= fun publishTool =>
        blockRelease decimalHost publishTool graph') = .ok state ∧
      ∃ closed, closeGraph decimalHost state.graph
        (draftHash decimalHost (plainDraft (resumableNodes readStatus))) = .ok closed :=
    ⟨_, rfl, _, rfl, _, rfl⟩
  obtain ⟨publishTool, hpublish, hblock⟩ := except_bind_ok_iff.mp hstate
  obtain ⟨report, last, hfinish⟩ := run_finishResume_of_places false (plainImported (resumableNodes readStatus))
    (log ++ packageReads draftPackage (draftManifest decimalHost (plainDraft (resumableNodes readStatus))))
    hworkspace hclose rfl rfl
  refine ⟨result, _, report, _, hload, Eq.trans ?_ hfinish⟩
  rw [resumeImportedAgent, run_bind_of_ok hload]
  dsimp only
  rw [resumeGraph_eq, run_liftExcept_bind_of_ok hhash, run_liftExcept_bind_of_ok hread,
    run_liftExcept_bind_of_ok hpublish, releaseOrBlock, if_neg Bool.false_ne_true,
    run_liftExcept_bind_of_ok hblock]

theorem pendingRead_replaysNothing : ∃ result middle report world',
    (loadImported decimalHost draftPackage (some plainWorkspace)).run (plainWorld (resumableNodes "not_started")) =
      .ok (result, resumableGraph "not_started") middle ∧
    (resumeImportedAgent decimalHost draftPackage (some plainWorkspace) false).run
      (plainWorld (resumableNodes "not_started")) = .ok report world' ∧
    ReplaysNothing decimalHost (resumableGraph "not_started") result.sideEffectAudit false report := by
  have hnodes : PrintableItems decimalHost.floatRepr decimalHost.parseFloat (resumableNodes "not_started") := by
    simp [resumableNodes, Printable, PrintableFields, PrintableItems]
  obtain ⟨result, middle, report, world', hload, hresume⟩ :=
    run_resumeImportedAgent_plain "not_started" (by decide +kernel) (by decide +kernel)
  refine ⟨result, middle, report, world', hload, hresume, ?_⟩
  refine ((replaysNothing_iff hload hresume (packageAt_plain hnodes)).2 _ rfl
    (keepsDocuments_of_apart apartFrom_plain _ _ _)).mpr ?_
  intro nodeId hmem
  cases List.mem_singleton.mp hmem
  refine ⟨_, .str "not_started", rfl, rfl, ?_⟩
  rintro ⟨text, htext, heq⟩
  cases Json.str.inj heq
  exact absurd htext (by decide)

theorem completedRead_replayed : ∃ result middle report world',
    (loadImported decimalHost draftPackage (some plainWorkspace)).run (plainWorld (resumableNodes "completed")) =
      .ok (result, resumableGraph "completed") middle ∧
    (resumeImportedAgent decimalHost draftPackage (some plainWorkspace) false).run
      (plainWorld (resumableNodes "completed")) = .ok report world' ∧
    ¬ReplaysNothing decimalHost (resumableGraph "completed") result.sideEffectAudit false report := by
  obtain ⟨result, middle, report, world', hload, hresume⟩ :=
    run_resumeImportedAgent_plain "completed" (by decide +kernel) (by decide +kernel)
  refine ⟨result, middle, report, world', hload, hresume, ?_⟩
  intro hreplays
  obtain ⟨node, entry, _, hfound, _, hentry, hunfinished, _⟩ :=
    (replaysNothing_iff_audited hresume).mp hreplays readToolId List.mem_cons_self
  have hfinished : (nodeById decimalHost (resumableGraph "completed") readToolId >>= auditNode decimalHost
    (resumableGraph "completed")).map (·.status.inStrings ["completed", "cancelled"]) = .ok (.ok true) := rfl
  rw [except_bind_of_ok hfound, hentry, Except.map, hunfinished] at hfinished
  cases hfinished

end Plain

end PermeantOS
