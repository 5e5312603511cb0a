import PermeantOS.AgentGraph

namespace PermeantOS

variable {P : Type} {host : AgentHost P}

/-- One of the strings of a set. -/
def Json.IsAmong (texts : List String) (value : Json P) : Prop := ∃ text ∈ texts, value = .str text

section Sets

variable {value : Json P} {texts : List String} {found : Bool}

theorem isAmong_of_inStrings (h : value.inStrings texts = .ok found) : found = true ↔ value.IsAmong texts := by
  cases value with
  | str text =>
    cases h
    rw [decide_eq_true_iff]
    constructor
    · intro hmem
      exact ⟨text, hmem, rfl⟩
    · rintro ⟨other, hmem, heq⟩
      exact Json.str.inj heq ▸ hmem
  | null | bool _ | int _ | float _ =>
    cases h
    simp [Json.IsAmong]
  | list _ | dict _ => cases h

end Sets

/-- The fields that the audit of a tool call goes by. -/
structure ReplayFields (P : Type) where
  sideEffect : Json P
  status : Json P
  resumePolicy : Json P
  approvalState : Json P

/-- The fields of a node, with what stands for those that are missing. -/
def replayFields (graph node : Json P) : Except PyException (ReplayFields P) := do
  let sideEffect ← node.getOr "side_effect" (.str "unknown")
  let status ← node.getOr "status" (.str "needs_user")
  let policies ← graph.getOr "policies" (.dict [])
  let defaultPolicy ← policies.getOr "default_replay_policy" (.str "ask_user")
  let resumePolicy ← node.getOr "resume_policy" defaultPolicy
  let approvalState ← node.getOr "approval_state" (.str "not_required")
  pure ⟨sideEffect, status, resumePolicy, approvalState⟩

abbrev ReplayFields.Pending (fields : ReplayFields P) : Prop := fields.status.IsAmong pendingToolStatuses

abbrev ReplayFields.Finished (fields : ReplayFields P) : Prop := fields.status.IsAmong ["completed", "cancelled"]

abbrev ReplayFields.Harmless (fields : ReplayFields P) : Prop := fields.sideEffect.IsAmong ["none", "read_only"]

abbrev ReplayFields.Risky (fields : ReplayFields P) : Prop := fields.sideEffect.IsAmong ["external_write", "unknown"]

abbrev ReplayFields.RetrySafe (fields : ReplayFields P) : Prop := fields.resumePolicy = .str "retry_safe"

abbrev ReplayFields.Manual (fields : ReplayFields P) : Prop := fields.resumePolicy.IsAmong manualResumePolicies

abbrev ReplayFields.Denied (fields : ReplayFields P) : Prop := fields.approvalState.IsAmong ["denied", "expired"]

section Verdicts

variable {fields : ReplayFields P} {verdict verdict' : ReplayVerdict}

/-- The verdict on a harmless call that is to be retried and is not finished, whatever else its status. -/
theorem replayVerdict_retry_iff
    (h : replayVerdict host fields.sideEffect fields.status fields.resumePolicy = .ok verdict) :
    verdict.action = "retry_allowed" ↔ ¬fields.Finished ∧ fields.Harmless ∧ fields.RetrySafe := by
  obtain ⟨finished, hfinished, h⟩ := except_bind_ok_iff.mp h
  have hstatus : finished = true ↔ fields.Finished := isAmong_of_inStrings hfinished
  rw [← hstatus]
  split at h
  next hdone =>
    obtain ⟨risky, _, h⟩ := except_bind_ok_iff.mp h
    simp only [hdone, not_true_eq_false, false_and, iff_false]
    split at h
    · cases h
      show ¬"reject" = "retry_allowed"
      decide
    · cases h
      show ¬"no_replay" = "retry_allowed"
      decide
  next hopen =>
    obtain ⟨harmless, hharmless, h⟩ := except_bind_ok_iff.mp h
    have heffect : harmless = true ↔ fields.Harmless := isAmong_of_inStrings hharmless
    rw [← heffect, ReplayFields.RetrySafe, ← pyEq_str_iff host, and_iff_right hopen]
    split at h
    next hretry =>
      cases h
      exact iff_of_true rfl hretry
    next hretry =>
      refine iff_of_false ?_ hretry
      obtain ⟨risky, _, h⟩ := except_bind_ok_iff.mp h
      split at h
      next =>
        obtain ⟨manual, hmanual, h⟩ := except_bind_ok_iff.mp h
        split at h
        next hamong =>
          obtain ⟨policy, hmem, hpolicy⟩ := (isAmong_of_inStrings hmanual).mp hamong
          have hrequired : ∀ policy ∈ manualResumePolicies, s!"{policy}_required" ≠ "retry_allowed" := by decide
          cases h
          dsimp only
          rw [hpolicy]
          split
          next => decide
          next => exact hrequired policy hmem
        next =>
          cases h
          decide
      next =>
        obtain ⟨pending, _, h⟩ := except_bind_ok_iff.mp h
        cases h
        show ¬"manual_review" = "retry_allowed"
        decide

/-- A risky call is only let through when it is finished or its policy is a manual one. -/
theorem replayVerdict_safe
    (h : replayVerdict host fields.sideEffect fields.status fields.resumePolicy = .ok verdict)
    (hsafe : verdict.safeToImport = true) (hrisky : fields.Risky) : fields.Finished ∨ fields.Manual := by
  obtain ⟨finished, hfinished, h⟩ := except_bind_ok_iff.mp h
  have hstatus : finished = true ↔ fields.Finished := isAmong_of_inStrings hfinished
  rw [← hstatus]
  split at h
  next hdone => exact .inl hdone
  next =>
    obtain ⟨harmless, hharmless, h⟩ := except_bind_ok_iff.mp h
    split at h
    next hretry =>
      have hdisjoint : ∀ effect ∈ ["none", "read_only"], effect ∉ ["external_write", "unknown"] := by decide
      obtain ⟨effect, hmem, heffect⟩ := (isAmong_of_inStrings hharmless).mp hretry.1
      obtain ⟨other, hother, hsame⟩ := hrisky
      cases Json.str.inj (heffect.symm.trans hsame)
      exact absurd hother (hdisjoint effect hmem)
    next =>
      obtain ⟨risky, hrisk, h⟩ := except_bind_ok_iff.mp h
      rw [if_pos ((isAmong_of_inStrings hrisk).mpr hrisky)] at h
      obtain ⟨manual, hmanual, h⟩ := except_bind_ok_iff.mp h
      split at h
      next hamong => exact .inr ((isAmong_of_inStrings hmanual).mp hamong)
      next =>
        cases h
        cases hsafe

/-- The verdict on a risky call that is not finished and waits for the user. -/
theorem replayVerdict_user_iff
    (h : replayVerdict host fields.sideEffect fields.status fields.resumePolicy = .ok verdict) :
    verdict.action = "requires_user" ↔ ¬fields.Finished ∧ fields.Risky ∧ fields.resumePolicy = .str "ask_user" := by
  obtain ⟨finished, hfinished, h⟩ := except_bind_ok_iff.mp h
  have hstatus : finished = true ↔ fields.Finished := isAmong_of_inStrings hfinished
  rw [← hstatus]
  split at h
  next hdone =>
    obtain ⟨risky, _, h⟩ := except_bind_ok_iff.mp h
    simp only [hdone, not_true_eq_false, false_and, iff_false]
    split at h
    · cases h
      show ¬"reject" = "requires_user"
      decide
    · cases h
      show ¬"no_replay" = "requires_user"
      decide
  next hopen =>
    obtain ⟨harmless, hharmless, h⟩ := except_bind_ok_iff.mp h
    rw [and_iff_right hopen]
    split at h
    next hretry =>
      cases h
      refine iff_of_false (by decide) ?_
      rintro ⟨_, hpolicy⟩
      rw [hpolicy, pyEq_str_iff] at hretry
      exact absurd (Json.str.inj hretry.2) (by decide)
    next =>
      obtain ⟨risky, hrisky, h⟩ := except_bind_ok_iff.mp h
      have heffect : risky = true ↔ fields.Risky := isAmong_of_inStrings hrisky
      rw [← heffect]
      split at h
      next hrisk =>
        obtain ⟨manual, hmanual, h⟩ := except_bind_ok_iff.mp h
        rw [and_iff_right hrisk]
        split at h
        next hamong =>
          obtain ⟨policy, hmem, hpolicy⟩ := (isAmong_of_inStrings hmanual).mp hamong
          have hrequired : ∀ policy ∈ manualResumePolicies, s!"{policy}_required" ≠ "requires_user" := by decide
          cases h
          dsimp only
          rw [hpolicy]
          split
          next hask => exact iff_of_true rfl ((pyEq_str_iff host).mp hask)
          next hask =>
            refine iff_of_false (hrequired policy hmem) ?_
            rintro hsame
            exact hask ((pyEq_str_iff host).mpr hsame)
        next hother =>
          cases h
          refine iff_of_false (by decide) ?_
          intro hpolicy
          exact hother ((isAmong_of_inStrings hmanual).mpr ⟨"ask_user", by decide, hpolicy⟩)
      next hother =>
        obtain ⟨pending, _, h⟩ := except_bind_ok_iff.mp h
        cases h
        refine iff_of_false ?_ fun hboth => hother hboth.1
        show ¬"manual_review" = "requires_user"
        decide

theorem approvalVerdict_ok {status approvalState : Json P}
    (h : approvalVerdict host status approvalState verdict = .ok verdict') :
    verdict' = verdict ∨ verdict'.action = "reject" ∧ verdict'.safeToImport = false := by
  obtain ⟨denied, _, h⟩ := except_bind_ok_iff.mp h
  split at h
  next =>
    obtain ⟨pending, _, h⟩ := except_bind_ok_iff.mp h
    split at h
    next =>
      cases h
      exact Or.inr ⟨rfl, rfl⟩
    next =>
      cases h
      exact Or.inl rfl
  next =>
    cases h
    exact Or.inl rfl

/-- The approval is looked at for the pending calls only. -/
theorem approvalVerdict_retry_iff (h : approvalVerdict host fields.status fields.approvalState verdict = .ok verdict') :
    verdict'.action = "retry_allowed" ↔
      verdict.action = "retry_allowed" ∧ ¬(fields.Denied ∧ fields.Pending) := by
  obtain ⟨denied, hdenied, h⟩ := except_bind_ok_iff.mp h
  have hamong : denied = true ↔ fields.Denied := isAmong_of_inStrings hdenied
  rw [← hamong]
  split at h
  next hrefused =>
    obtain ⟨pending, hpending, h⟩ := except_bind_ok_iff.mp h
    have hstatus : pending = true ↔ fields.Pending := isAmong_of_inStrings hpending
    rw [← hstatus]
    split at h
    next hopen =>
      cases h
      simp [hrefused, hopen]
    next hother =>
      cases h
      simp [hother]
  next hgranted =>
    cases h
    simp [hgranted]

end Verdicts

section Audits

variable {graph node : Json P} {fields : ReplayFields P} {entry : AuditEntry P}

/-- What an audit has to say of a tool call. -/
structure ReplaySafe (fields : ReplayFields P) (entry : AuditEntry P) : Prop where
  retry : entry.action = "retry_allowed" →
    fields.Pending ∧ fields.Harmless ∧ fields.RetrySafe ∧ ¬fields.Denied
  safe : entry.safeToImport = true → fields.Risky → fields.Finished ∨ fields.Manual

/-- An entry records the fields it goes by, and what the two verdicts make of them. -/
theorem auditNode_ok (h : auditNode host graph node = .ok entry) :
    ∃ fields verdict, replayFields graph node = .ok fields ∧
      replayVerdict host fields.sideEffect fields.status fields.resumePolicy = .ok verdict ∧
      approvalVerdict host fields.status fields.approvalState verdict =
        .ok ⟨entry.action, entry.safeToImport, entry.reason⟩ ∧ entry.status = fields.status := by
  obtain ⟨sideEffect, hsideEffect, h⟩ := except_bind_ok_iff.mp h
  obtain ⟨status, hstatus, h⟩ := except_bind_ok_iff.mp h
  obtain ⟨policies, hpolicies, h⟩ := except_bind_ok_iff.mp h
  obtain ⟨defaultPolicy, hdefault, h⟩ := except_bind_ok_iff.mp h
  obtain ⟨resumePolicy, hresume, h⟩ := except_bind_ok_iff.mp h
  obtain ⟨approvalState, happroval, h⟩ := except_bind_ok_iff.mp h
  obtain ⟨nodeId, _, h⟩ := except_bind_ok_iff.mp h
  obtain ⟨name, _, h⟩ := except_bind_ok_iff.mp h
  obtain ⟨verdict, hverdict, h⟩ := except_bind_ok_iff.mp h
  obtain ⟨last, hlast, h⟩ := except_bind_ok_iff.mp h
  cases h
  refine ⟨⟨sideEffect, status, resumePolicy, approvalState⟩, verdict, ?_, hverdict, hlast, rfl⟩
  rw [replayFields, except_bind_of_ok hsideEffect, except_bind_of_ok hstatus, except_bind_of_ok hpolicies,
    except_bind_of_ok hdefault, except_bind_of_ok hresume, except_bind_of_ok happroval]
  rfl

/-- The status is none of those of the documents, and the call would be retried on account of the rest. -/
def ReplayFields.RetriesUnlisted (fields : ReplayFields P) : Prop :=
  ¬fields.Pending ∧ ¬fields.Finished ∧ fields.Harmless ∧ fields.RetrySafe

theorem auditNode_safe_iff (h : auditNode host graph node = .ok entry) :
    (∃ fields, replayFields graph node = .ok fields ∧ ReplaySafe fields entry) ↔
      ∀ fields, replayFields graph node = .ok fields → ¬fields.RetriesUnlisted := by
  obtain ⟨fields, verdict, hfields, hverdict, hlast, _⟩ := auditNode_ok h
  have hretry : entry.action = "retry_allowed" ↔ _ := approvalVerdict_retry_iff hlast
  rw [replayVerdict_retry_iff hverdict] at hretry
  have hsafe : entry.safeToImport = true → fields.Risky → fields.Finished ∨ fields.Manual := by
    intro hsafe
    rcases approvalVerdict_ok hlast with heq | ⟨_, hrejected⟩
    · exact replayVerdict_safe hverdict (heq ▸ hsafe)
    · cases hrejected.symm.trans hsafe
  have honly : ∀ other, replayFields graph node = .ok other → other = fields :=
    fun other hother => Except.ok.inj (hother.symm.trans hfields)
  constructor
  · rintro ⟨other, hother, hreplay⟩ found hfound
    cases honly other hother
    cases honly found hfound
    rintro ⟨hpending, hfinished, hharmless, hpolicy⟩
    exact hpending (hreplay.retry (hretry.mpr ⟨⟨hfinished, hharmless, hpolicy⟩, fun h => hpending h.2⟩)).1
  · intro hlisted
    refine ⟨fields, hfields, ?_, hsafe⟩
    intro haction
    obtain ⟨⟨hfinished, hharmless, hpolicy⟩, hdenied⟩ := hretry.mp haction
    have hpending : fields.Pending := by
      by_contra hpending
      exact hlisted fields hfields ⟨hpending, hfinished, hharmless, hpolicy⟩
    exact ⟨hpending, hharmless, hpolicy, fun h => hdenied ⟨h, hpending⟩⟩

theorem forall₂_iff_forall_mem {α β : Type} {R S : α → β → Prop} {p : α → Prop} {xs : List α} {ys : List β}
    (h : List.Forall₂ R xs ys) (hiff : ∀ x y, R x y → (S x y ↔ p x)) : List.Forall₂ S xs ys ↔ ∀ x ∈ xs, p x := by
  induction h with
  | nil => simp
  | cons hxy _ ih => rw [List.forall₂_cons, ih, hiff _ _ hxy, List.forall_mem_cons]

/-- An audit is safe exactly when no tool call of an unlisted status has a harmless side effect and is to be
retried. -/
theorem auditToolReplay_safe_iff {audit : List (AuditEntry P)} (h : auditToolReplaySafety host graph = .ok audit) :
    ∃ nodes, toolCallNodes host graph = .ok nodes ∧
      (List.Forall₂ (fun node entry => ∃ fields, replayFields graph node = .ok fields ∧ ReplaySafe fields entry)
          nodes audit ↔
        ∀ node ∈ nodes, ∀ fields, replayFields graph node = .ok fields → ¬fields.RetriesUnlisted) := by
  obtain ⟨nodes, hnodes, h⟩ := except_bind_ok_iff.mp h
  exact ⟨nodes, hnodes, forall₂_iff_forall_mem (mapM_ok_iff.mp h) fun _ _ => auditNode_safe_iff⟩

end Audits

section Examples

/-- A graph with one tool call, which reads and may be retried. -/
def readCall (status approvalState : String) : Json Int :=
  .dict [("nodes", .list [.dict [("id", .str "tool_call:read"), ("type", .str "tool_call"),
    ("side_effect", .str "read_only"), ("status", .str status), ("resume_policy", .str "retry_safe"),
    ("approval_state", .str approvalState)]])]

theorem pendingRead_safe : ∃ audit nodes, auditToolReplaySafety decimalHost (readCall "failed" "approved") = .ok audit ∧
    toolCallNodes decimalHost (readCall "failed" "approved") = .ok nodes ∧
    List.Forall₂ (fun node entry => ∃ fields, replayFields (readCall "failed" "approved") node = .ok fields ∧
      ReplaySafe fields entry) nodes audit := by
  obtain ⟨nodes, hnodes, hsafe⟩ := auditToolReplay_safe_iff
    (show auditToolReplaySafety decimalHost (readCall "failed" "approved") = .ok _ from rfl)
  refine ⟨_, nodes, rfl, hnodes, hsafe.mpr ?_⟩
  cases hnodes
  intro node hmem fields hfields
  cases List.mem_singleton.mp hmem
  cases hfields
  rintro ⟨hpending, _⟩
  exact hpending ⟨"failed", by decide, rfl⟩

/-- A read whose status is unlisted is retried though its approval was denied. -/
theorem deniedRead_retried :
    ¬∀ audit nodes, auditToolReplaySafety decimalHost (readCall "paused" "denied") = .ok audit →
      toolCallNodes decimalHost (readCall "paused" "denied") = .ok nodes →
      List.Forall₂ (fun node entry => ∃ fields, replayFields (readCall "paused" "denied") node = .ok fields ∧
        ReplaySafe fields entry) nodes audit := by
  intro h
  obtain ⟨⟨fields, hfields, hsafe⟩, _⟩ := List.forall₂_cons.mp (h _ _ rfl rfl)
  cases hfields
  exact (hsafe.retry rfl).2.2.2 ⟨"denied", by decide, rfl⟩

end Examples

end PermeantOS
