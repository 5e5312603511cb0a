import PermeantOS.LlamaEvidence
import PermeantOS.Loops

namespace PermeantOS

variable {P : Type}

def RuntimeRequest.IsVerify : RuntimeRequest P → Prop
  | .verify _ _ _ => True
  | _ => False

section Covered

variable (host : LlamaHost P)

def LlamaVerifyResult.Proven (result : LlamaVerifyResult P) : Prop :=
  result.decodeStatus = some "live_kv_binding_continuation_proven"

/-- The last verify result that was kept is a proven one. -/
def LlamaCppReferenceRuntime.DecodeProven (runtime : LlamaCppReferenceRuntime P) : Prop :=
  ∃ result, runtime.lastVerifyResult = some result ∧ result.Proven

/-- The most recent verify request of the run proved the hash, and the hash was not registered since. A proof
that passed every check is one, also where its event could not be written to the probe file. -/
def ProvedLast (requests : List (RuntimeRequest P)) (hash : String) : Prop :=
  ∃ front liveHook probe payload back result verified,
    requests = front ++ .verify liveHook probe payload :: back ∧
    (∀ request ∈ back, ¬request.IsVerify) ∧
    verification host liveHook payload (runtimeAfter host front).toLlamaCppRuntime = .ok result ∧
    result.Proven ∧ result.verifiedHashes = some verified ∧ hash ∈ verified ∧
    ∀ accepted, RunAccepts host back accepted → accepted.hash ≠ hash

/-- Where the export after a run claims a proven decode, every hash that it lists was proved last. -/
def ClaimCovered (requests : List (RuntimeRequest P)) : Prop :=
  ∀ probe state after, (LlamaCppReferenceRuntime.exportReverseRuntimeState probe).run
    (runtimeAfter host requests) = .ok state after → state.decodeClaim = "live-kv-binding-continuation-proven" →
      ∀ hash ∈ state.registeredHashes, ProvedLast host requests hash

/-- A request that keeps the claim and the registered hashes together. -/
def KeepsClaim (runtime : LlamaCppReferenceRuntime P) : RuntimeRequest P → Prop
  | .register liveHook _ payload request => runtime.DecodeProven →
    ∀ accepted, registration host.toAdapterHost liveHook payload request ≠ .ok accepted
  | .verify liveHook _ payload =>
    (∀ result, verification host liveHook payload runtime.toLlamaCppRuntime = .ok result → result.Proven →
      ∃ verified, result.verifiedHashes = some verified ∧ ∀ hash ∈ runtime.registeredHashes, hash ∈ verified) ∧
    ∀ e, verification host liveHook payload runtime.toLlamaCppRuntime = .error e → runtime.DecodeProven →
      runtime.registeredHashes = ∅
  | .exportState _ => True

variable {host}

theorem decodeClaim_proven_iff {blocks : Finmap fun _ : String => AcceptedState P}
    {lastVerifyResult : Option (LlamaVerifyResult P)} :
    decodeClaim blocks lastVerifyResult = "live-kv-binding-continuation-proven" ↔
      ∃ result, lastVerifyResult = some result ∧ result.Proven := by
  rw [decodeClaim]
  split
  next hstatus =>
    obtain ⟨result, hresult, hproven⟩ := Option.bind_eq_some_iff.mp hstatus
    exact ⟨fun _ => ⟨result, hresult, hproven⟩, fun _ => rfl⟩
  next hstatus =>
    constructor
    · intro h
      split at h
      · exact absurd h (by decide)
      · exact absurd h (by decide)
    · rintro ⟨result, hresult, hproven⟩
      exact absurd (Option.bind_eq_some_iff.mpr ⟨result, hresult, hproven⟩) hstatus

theorem claimCovered_iff {requests : List (RuntimeRequest P)} :
    ClaimCovered host requests ↔ ((runtimeAfter host requests).DecodeProven →
      ∀ hash ∈ (runtimeAfter host requests).registeredHashes, ProvedLast host requests hash) := by
  constructor
  · intro h hproven hash hmem
    exact h (.ok ()) _ _ rfl (decodeClaim_proven_iff.mpr hproven) hash ((Finset.mem_sort _).mpr hmem)
  · intro h probe state after hexport hclaim hash hmem
    cases probe with
    | error e => cases hexport
    | ok written =>
      cases hexport
      exact h (decodeClaim_proven_iff.mp hclaim) hash ((Finset.mem_sort _).mp hmem)

/-- A run whose last request is not the verify request that is looked for has it before. -/
theorem append_singleton_eq_iff {α : Type} {xs front back : List α} {x y : α} :
    xs ++ [x] = front ++ y :: back ↔
      (xs = front ∧ x = y ∧ back = []) ∨ ∃ rest, back = rest ++ [x] ∧ xs = front ++ y :: rest := by
  constructor
  · intro h
    rcases List.eq_nil_or_concat' back with rfl | ⟨rest, last, rfl⟩
    · obtain ⟨rfl, hlast⟩ := List.append_inj' h rfl
      cases hlast
      exact .inl ⟨rfl, rfl, rfl⟩
    · rw [← List.cons_append, ← List.append_assoc] at h
      obtain ⟨rfl, hlast⟩ := List.append_inj' h rfl
      cases hlast
      exact .inr ⟨rest, rfl, rfl⟩
  · rintro (⟨rfl, rfl, rfl⟩ | ⟨rest, rfl, rfl⟩)
    · rfl
    · simp

theorem runAccepts_append_iff {front back : List (RuntimeRequest P)} {accepted : AcceptedState P} :
    RunAccepts host (front ++ back) accepted ↔ RunAccepts host front accepted ∨ RunAccepts host back accepted := by
  constructor
  · rintro ⟨liveHook, probe, payload, request, hmem, hok⟩
    rcases List.mem_append.mp hmem with hmem | hmem
    · exact .inl ⟨liveHook, probe, payload, request, hmem, hok⟩
    · exact .inr ⟨liveHook, probe, payload, request, hmem, hok⟩
  · rintro (h | ⟨liveHook, probe, payload, request, hmem, hok⟩)
    · exact h.mono
    · exact ⟨liveHook, probe, payload, request, List.mem_append_right _ hmem, hok⟩

theorem provedLast_concat_iff {requests : List (RuntimeRequest P)} {request : RuntimeRequest P} {hash : String}
    (hother : ¬request.IsVerify) : ProvedLast host (requests ++ [request]) hash ↔
      ProvedLast host requests hash ∧ ∀ accepted, RunAccepts host [request] accepted → accepted.hash ≠ hash := by
  constructor
  · rintro ⟨front, liveHook, probe, payload, back, result, verified, hsplit, hlast, hok, hproven, hverified, hmem,
      hsince⟩
    rcases append_singleton_eq_iff.mp hsplit with ⟨_, rfl, _⟩ | ⟨rest, rfl, rfl⟩
    · exact absurd trivial hother
    · refine ⟨⟨front, liveHook, probe, payload, rest, result, verified, rfl, ?_, hok, hproven, hverified, hmem, ?_⟩, ?_⟩
      · exact fun before hbefore => hlast before (List.mem_append_left _ hbefore)
      · exact fun accepted h => hsince accepted (runAccepts_append_iff.mpr (.inl h))
      · exact fun accepted h => hsince accepted (runAccepts_append_iff.mpr (.inr h))
  · rintro ⟨⟨front, liveHook, probe, payload, back, result, verified, rfl, hlast, hok, hproven, hverified, hmem,
      hsince⟩, hnew⟩
    refine ⟨front, liveHook, probe, payload, back ++ [request], result, verified, by simp, ?_, hok, hproven, hverified,
      hmem, ?_⟩
    · intro before hbefore
      rcases List.mem_append.mp hbefore with hbefore | hbefore
      · exact hlast before hbefore
      · rw [List.mem_singleton.mp hbefore]
        exact hother
    · intro accepted h
      rcases runAccepts_append_iff.mp h with h | h
      · exact hsince accepted h
      · exact hnew accepted h

theorem provedLast_verify_iff {requests : List (RuntimeRequest P)} {liveHook : Option (VerifyHook P)}
    {probe : Except PyException Unit} {payload : Json P} {hash : String} :
    ProvedLast host (requests ++ [.verify liveHook probe payload]) hash ↔
      ∃ result verified,
        verification host liveHook payload (runtimeAfter host requests).toLlamaCppRuntime = .ok result ∧
        result.Proven ∧ result.verifiedHashes = some verified ∧ hash ∈ verified := by
  constructor
  · rintro ⟨front, liveHook', probe', payload', back, result, verified, hsplit, hlast, hok, hproven, hverified, hmem, _⟩
    rcases append_singleton_eq_iff.mp hsplit with ⟨rfl, heq, _⟩ | ⟨rest, rfl, _⟩
    · cases heq
      exact ⟨result, verified, hok, hproven, hverified, hmem⟩
    · exact absurd trivial (hlast _ (List.mem_append_right _ List.mem_cons_self))
  · rintro ⟨result, verified, hok, hproven, hverified, hmem⟩
    refine ⟨requests, liveHook, probe, payload, [], result, verified, rfl, by simp, hok, hproven, hverified, hmem,
      ?_⟩
    rintro accepted ⟨_, _, _, _, hnone, _⟩
    cases hnone

theorem claimCovered_register_iff {requests : List (RuntimeRequest P)} (hcovered : ClaimCovered host requests)
    (liveHook : Option (LiveHook P)) (probe : Except PyException Unit) (payload request : Json P) :
    ClaimCovered host (requests ++ [.register liveHook probe payload request]) ↔
      KeepsClaim host (runtimeAfter host requests) (.register liveHook probe payload request) := by
  have hother : ¬(RuntimeRequest.register liveHook probe payload request).IsVerify := id
  rw [claimCovered_iff] at hcovered ⊢
  simp only [provedLast_concat_iff hother, KeepsClaim]
  rw [runtimeAfter_concat, next_register]
  cases hok : registration host.toAdapterHost liveHook payload request with
  | error e =>
    have hnone : ∀ accepted, ¬RunAccepts host [.register liveHook probe payload request] accepted := by
      rintro accepted ⟨liveHook', probe', payload', request', hmem, hok'⟩
      cases List.mem_singleton.mp hmem
      rw [hok] at hok'
      cases hok'
    constructor
    · intro _ _ accepted h
      cases h
    · intro _ hproven hash hmem
      exact ⟨hcovered hproven hash hmem, fun accepted h => absurd h (hnone accepted)⟩
  | ok accepted =>
    have hnew : RunAccepts host [.register liveHook probe payload request] accepted :=
      ⟨liveHook, probe, payload, request, List.mem_cons_self, hok⟩
    constructor
    · intro h hproven _ _
      exact (h hproven accepted.hash (Finset.mem_insert_self _ _)).2 accepted hnew rfl
    · intro h hproven
      exact absurd rfl (h hproven accepted)

theorem claimCovered_verify_iff {requests : List (RuntimeRequest P)} (liveHook : Option (VerifyHook P))
    (probe : Except PyException Unit) (payload : Json P) :
    ClaimCovered host (requests ++ [.verify liveHook probe payload]) ↔
      KeepsClaim host (runtimeAfter host requests) (.verify liveHook probe payload) := by
  rw [claimCovered_iff]
  simp only [provedLast_verify_iff]
  rw [runtimeAfter_concat, next_verify]
  dsimp only [KeepsClaim]
  cases hverification : verification host liveHook payload (runtimeAfter host requests).toLlamaCppRuntime with
  | error e =>
    constructor
    · intro h
      refine ⟨fun result hok => (by cases hok), ?_⟩
      intro e' _ hproven
      apply Finset.eq_empty_of_forall_notMem
      intro hash hmem
      obtain ⟨result, _, hok, _⟩ := h hproven hash hmem
      cases hok
    · rintro ⟨_, hempty⟩ hproven hash hmem
      rw [hempty e rfl hproven] at hmem
      exact absurd hmem (Finset.notMem_empty hash)
  | ok result =>
    constructor
    · intro h
      refine ⟨?_, fun e he => (by cases he)⟩
      intro found hfound hproven
      cases hfound
      obtain ⟨requested, _, hverified, _⟩ := verification_proven hverification hproven
      refine ⟨requested, hverified, ?_⟩
      intro hash hmem
      obtain ⟨_, verified, hok, _, hsome, hin⟩ := h ⟨result, rfl, hproven⟩ hash hmem
      cases hok
      cases hverified.symm.trans hsome
      exact hin
    · rintro ⟨hkeeps, _⟩ ⟨found, hfound, hproven⟩ hash hmem
      cases hfound
      obtain ⟨verified, hverified, hall⟩ := hkeeps result rfl hproven
      exact ⟨result, verified, rfl, hproven, hverified, hall hash hmem⟩

/-- One more request keeps the claim covered exactly when it keeps claim and hashes together. -/
theorem claimCovered_concat_iff (requests : List (RuntimeRequest P)) (request : RuntimeRequest P)
    (hcovered : ClaimCovered host requests) :
    ClaimCovered host (requests ++ [request]) ↔ KeepsClaim host (runtimeAfter host requests) request := by
  cases request with
  | register liveHook probe payload request =>
    exact claimCovered_register_iff hcovered liveHook probe payload request
  | verify liveHook probe payload => exact claimCovered_verify_iff liveHook probe payload
  | exportState probe =>
    refine ⟨fun _ => trivial, fun _ => ?_⟩
    rw [claimCovered_iff] at hcovered ⊢
    rw [runtimeAfter_concat, next_exportState]
    intro hproven hash hmem
    refine (provedLast_concat_iff id).mpr ⟨hcovered hproven hash hmem, ?_⟩
    rintro accepted ⟨_, _, _, _, hmem, _⟩
    cases List.mem_singleton.mp hmem

theorem claimCovered_nil : ClaimCovered host ([] : List (RuntimeRequest P)) := by
  rw [claimCovered_iff]
  rintro ⟨result, hresult, _⟩
  cases hresult

variable (host)

/-- The claim of a proven decode covers what is exported, at every point of a run, exactly when every
request of the run keeps claim and hashes together. -/
theorem decodeClaim_covers_iff (requests : List (RuntimeRequest P)) :
    (∀ front, front <+: requests → ClaimCovered host front) ↔
      ∀ front request, front ++ [request] <+: requests → KeepsClaim host (runtimeAfter host front) request :=
  forall_prefix_iff claimCovered_nil claimCovered_concat_iff requests

end Covered

section Uncovered

/-- A hook that goes on from every hash that it is asked about. -/
def eagerHook : VerifyHook F32 := fun _ hashes _ =>
  .ok (.dict [("success", .bool true), ("binding_proof", .dict [("bound_hashes", .list (hashes.map .str))]),
    ("continuation", .dict [("token_ids", .list [.int 1]), ("used_migrated_kv", .bool true)])])

def stateRequest (hash : String) : RuntimeRequest F32 := .register none (.ok ()) (statePayload hash) .null

/-- A block that is proved, and another one that comes after it. -/
def lateBlock : List (RuntimeRequest F32) :=
  [stateRequest "a", .verify (some eagerHook) (.ok ()) (.dict [("block_hashes", .list [.str "a"])]), stateRequest "b"]

/-- The export claims a proven decode, and lists the block that no verify request has asked about. -/
theorem lateBlock_not_covered : ¬ClaimCovered pythonLlama lateBlock := by
  have hstatus : (runtimeAfter pythonLlama lateBlock).lastVerifyResult.bind (·.decodeStatus) =
      some "live_kv_binding_continuation_proven" := by decide +kernel
  have hmem : "b" ∈ (runtimeAfter pythonLlama lateBlock).registeredHashes := by decide +kernel
  intro h
  obtain ⟨result, hresult, hproven⟩ := Option.bind_eq_some_iff.mp hstatus
  have hlast : ProvedLast pythonLlama (lateBlock.take 2 ++ [stateRequest "b"]) "b" :=
    claimCovered_iff.mp h ⟨result, hresult, hproven⟩ "b" hmem
  have hother : ¬(stateRequest "b").IsVerify := id
  have hsince := (provedLast_concat_iff hother).mp hlast
  exact hsince.2 _ ⟨none, _, _, _, List.mem_cons_self, rfl⟩ rfl

end Uncovered

end PermeantOS
