import PermeantOS.LlamaRuns

namespace PermeantOS

variable {P : Type}

section Answers

/-- A binding proof names hashes, in a list or as its only one. -/
def ProofNames (proof : Fields P) (hashes : List String) : Prop :=
  proof.lookup "bound_hashes" = some (.list (hashes.map .str)) ∨
    ((proof.lookup "bound_hashes").getD .null = .null ∧
      ∃ hash, proof.lookup "bound_hash" = some (.str hash) ∧ hashes = [hash])

/-- A hook's own words about the blocks that it has bound. -/
structure SaysBound (fields proof : Fields P) (hashes : List String) : Prop where
  success : (fields.lookup "success").getD (.bool true) = .bool true
  bound : fields.lookup "runtime_state_bound" = some (.bool true)
  bindingProof : fields.lookup "binding_proof" = some (.dict proof)
  names : ProofNames proof hashes

/-- What is kept of an answer about bound blocks. -/
structure RecordsBound (result proof : Fields P) (hashes : List String) : Prop where
  success : result.lookup "success" = some (.bool true)
  bound : result.lookup "runtime_state_bound" = some (.bool true)
  bindingProof : result.lookup "binding_proof" = some (.dict proof)
  boundHashes : proof.lookup "bound_hashes" = some (.list (hashes.map .str))

/-- A continuation from migrated state, with its tokens. -/
structure Continues (continuation : Fields P) (tokens : List (Json P)) : Prop where
  tokenIds : continuation.lookup "token_ids" = some (.list tokens)
  integers : ∀ token ∈ tokens, ∃ n, token.asInt = some n
  usedMigratedKv : continuation.lookup "used_migrated_kv" = some (.bool true)

/-- A hook's own words about a continuation. -/
structure SaysContinued (host : AdapterHost P) (fields continued proof : Fields P) (tokens : List (Json P))
    (hashes : List String) : Prop where
  success : (fields.lookup "success").getD (.bool true) = .bool true
  continuation : fields.lookup "continuation" = some (.dict continued)
  continues : Continues continued tokens
  bindingProof : pyOr host ((fields.lookup "binding_proof").getD .null)
    ((continued.lookup "binding_proof").getD .null) = .dict proof
  names : ProofNames proof hashes

/-- What is kept of an answer about a continuation. -/
structure RecordsContinued (result continued proof : Fields P) (tokens : List (Json P))
    (hashes : List String) : Prop where
  success : result.lookup "success" = some (.bool true)
  continuation : result.lookup "continuation" = some (.dict continued)
  continues : Continues continued tokens
  bindingProof : result.lookup "binding_proof" = some (.dict proof)
  boundHashes : proof.lookup "bound_hashes" = some (.list (hashes.map .str))

theorem normalizeResponse_success {answer : Json P} {response : Fields P}
    (h : normalizeResponse answer = .ok response) :
    ∃ success, response.lookup "success" = some (.bool success) := by
  cases answer with
  | null => cases h; exact ⟨true, rfl⟩
  | bool value => cases h; exact ⟨value, rfl⟩
  | dict fields =>
    rw [normalizeResponse] at h
    split at h
    next success _ =>
      cases h
      exact ⟨success, by simp [lookup_dictInsert]⟩
    next => cases h
  | int _ => cases h
  | float _ => cases h
  | str _ => cases h
  | list _ => cases h

/-- A response with any field besides `success` comes from an object with the same fields. -/
theorem normalizeResponse_dict {answer : Json P} {response : Fields P}
    (h : normalizeResponse answer = .ok response) {key : String} {value : Json P} (hkey : key ≠ "success")
    (hvalue : response.lookup key = some value) :
    ∃ fields, answer = .dict fields ∧ (∀ other ≠ "success", response.lookup other = fields.lookup other) ∧
      some ((fields.lookup "success").getD (.bool true)) = response.lookup "success" := by
  have honly : ∀ success : Bool, ([("success", .bool success)] : Fields P).lookup key ≠ some value := by
    intro success hfound
    rw [List.lookup_cons, beq_false_of_ne hkey] at hfound
    cases hfound
  cases answer with
  | null => cases h; exact absurd hvalue (honly true)
  | bool success => cases h; exact absurd hvalue (honly success)
  | dict fields =>
    rw [normalizeResponse] at h
    split at h
    next success hsuccess =>
      cases h
      refine ⟨fields, rfl, ?_, ?_⟩
      · intro other hother
        rw [lookup_dictInsert, if_neg hother]
      · rw [hsuccess, lookup_dictInsert, if_pos rfl]
    next => cases h
  | int _ => cases h
  | float _ => cases h
  | str _ => cases h
  | list _ => cases h

theorem mapM_nonEmptyString_ok {items : List (Json P)} {strings : List String}
    (h : items.mapM nonEmptyString = some strings) : items = strings.map .str := by
  induction items generalizing strings with
  | nil =>
    cases h
    rfl
  | cons item items ih =>
    rw [List.mapM_cons] at h
    obtain ⟨first, hfirst, h⟩ := Option.bind_eq_some_iff.mp h
    obtain ⟨rest, hrest, h⟩ := Option.bind_eq_some_iff.mp h
    cases h
    rw [List.map_cons, ih hrest]
    cases item with
    | str value =>
      rw [nonEmptyString] at hfirst
      split at hfirst
      next => cases hfirst
      next =>
        cases hfirst
        rfl
    | null | bool _ | int _ | float _ | list _ | dict _ => cases hfirst

theorem stringList_ok {name : String} {value : Json P} {strings : List String}
    (h : stringList name value = .ok strings) : value = .list (strings.map .str) := by
  cases value with
  | list items =>
    rw [stringList] at h
    split at h
    next found hfound =>
      cases h
      rw [mapM_nonEmptyString_ok hfound]
    next => cases h
  | null | bool _ | int _ | float _ | str _ | dict _ => cases h

theorem normalizeBoundHashes_ok {proof : Fields P} {hashes : List String}
    (h : normalizeBoundHashes proof = .ok hashes) : ProofNames proof hashes := by
  rw [normalizeBoundHashes] at h
  have hlist := stringList_ok h
  split at hlist
  next hnull =>
    split at hlist
    next boundHash hboundHash =>
      split at hlist
      next => cases hlist
      next =>
        have hone : [Json.str boundHash] = hashes.map (Json.str (F := P)) := Json.list.inj hlist
        have hhashes : hashes = [boundHash] := by
          match hashes, hone with
          | [hash], hone =>
            cases hone
            rfl
        exact .inr ⟨hnull, boundHash, (getD_null_eq_iff _ (by simp)).mp hboundHash, hhashes⟩
    next => cases hlist
  next boundHashes _ =>
    exact .inl ((getD_null_eq_iff _ (by simp)).mp hlist)

theorem lookup_true_of_truthy {host : AdapterHost P} {result : Fields P} {success : Bool}
    (h : result.lookup "success" = some (.bool success))
    (htruthy : ¬((result.lookup "success").getD .null).truthy host = false) :
    result.lookup "success" = some (.bool true) := by
  rw [h, Option.getD_some, Json.truthy] at htruthy
  cases success with
  | false => exact absurd rfl htruthy
  | true => exact h

/-- An answer that passes `_validate_binding_result` says that the block is bound, and so does what is kept. -/
theorem validateBindingResult_says {host : AdapterHost P} {answer : Json P} {response result : Fields P}
    {blockHash : String} (hresponse : normalizeResponse answer = .ok response)
    (h : validateBindingResult host response blockHash = .ok result) :
    ∃ fields proof kept hashes, answer = .dict fields ∧ SaysBound fields proof hashes ∧
      RecordsBound result kept hashes ∧ blockHash ∈ hashes := by
  obtain ⟨success, hsuccess⟩ := normalizeResponse_success hresponse
  rw [validateBindingResult] at h
  split at h
  next => cases h
  next htruthy =>
    have htrue := lookup_true_of_truthy hsuccess htruthy
    split at h
    next hbound =>
      have hbound := (getD_null_eq_iff _ (by simp)).mp hbound
      split at h
      next proof hproof =>
        have hproof := (getD_null_eq_iff _ (by simp)).mp hproof
        obtain ⟨hashes, hhashes, h⟩ := except_bind_ok_iff.mp h
        split at h
        next => cases h
        next hmem =>
          split at h
          next => cases h
          next =>
            split at h
            next => cases h
            next =>
              cases h
              obtain ⟨fields, rfl, hfields, hown⟩ := normalizeResponse_dict hresponse (by decide) hbound
              rw [htrue, Option.some.injEq] at hown
              refine ⟨fields, proof, keptProof host proof hashes, hashes, rfl,
                ⟨hown, (hfields _ (by decide)).symm.trans hbound, (hfields _ (by decide)).symm.trans hproof,
                  normalizeBoundHashes_ok hhashes⟩,
                ⟨?_, ?_, ?_, ?_⟩, not_not.mp hmem⟩
              · simp [lookup_dictInsert, htrue]
              · simp [lookup_dictInsert]
              · simp [lookup_dictInsert, keptProof]
              · simp [lookup_dictInsert, keptProof]
      next => cases h
    next => cases h

theorem continuationTokenIds_ok {continued : Fields P} {tokens : List (Json P)}
    (h : continuationTokenIds continued = .ok tokens) :
    continued.lookup "token_ids" = some (.list tokens) ∧ ∀ token ∈ tokens, ∃ n, token.asInt = some n := by
  rw [continuationTokenIds] at h
  split at h
  next found hfound =>
    split at h
    next => cases h
    next hints =>
      cases h
      refine ⟨(getD_null_eq_iff _ (by simp)).mp hfound, ?_⟩
      intro token hmem
      apply Option.ne_none_iff_exists'.mp
      intro hnone
      exact hints (List.any_eq_true.mpr ⟨token, hmem, by rw [hnone, Option.isNone_none]⟩)
  next => cases h

theorem checkUsedMigratedKv_ok {continued : Fields P} (h : checkUsedMigratedKv continued = .ok ()) :
    continued.lookup "used_migrated_kv" = some (.bool true) := by
  rw [checkUsedMigratedKv] at h
  split at h
  next hused => exact (getD_null_eq_iff _ (by simp)).mp hused
  next => cases h

theorem checkExpectedBound_ok {host : LlamaHost P} {expectedHashes boundHashes : List String}
    (h : checkExpectedBound host expectedHashes boundHashes = .ok ()) :
    ∀ hash ∈ expectedHashes, hash ∈ boundHashes := by
  rw [checkExpectedBound] at h
  split at h
  next hnone =>
    intro hash hmem
    simpa using List.filter_eq_nil_iff.mp hnone hash hmem
  next => cases h

/-- An answer that passes `_validate_continuation_result` says that generation went on from every hash that
was asked for, and so does what is kept. -/
theorem validateContinuationResult_says {host : LlamaHost P} {answer : Json P} {response result : Fields P}
    {expectedHashes : List String} (hresponse : normalizeResponse answer = .ok response)
    (h : validateContinuationResult host response expectedHashes = .ok result) :
    ∃ fields continued proof keptContinued kept tokens hashes, answer = .dict fields ∧
      SaysContinued host.toAdapterHost fields continued proof tokens hashes ∧
      RecordsContinued result keptContinued kept tokens hashes ∧ ∀ hash ∈ expectedHashes, hash ∈ hashes := by
  obtain ⟨success, hsuccess⟩ := normalizeResponse_success hresponse
  rw [validateContinuationResult] at h
  simp only [↓except_bind_unit_ok_iff, except_bind_ok_iff] at h
  obtain ⟨continued, hcontinued, tokens, htokens, hused, proof, hproof, hashes, hhashes, hbound, h⟩ := h
  cases h
  obtain ⟨htokens, hints⟩ := continuationTokenIds_ok htokens
  have hused := checkUsedMigratedKv_ok hused
  rw [continuationFields] at hcontinued
  split at hcontinued
  next => cases hcontinued
  next htruthy =>
    have htrue := lookup_true_of_truthy hsuccess htruthy
    split at hcontinued
    next found hfound =>
      cases hcontinued
      have hcontinuation := (getD_null_eq_iff _ (by simp)).mp hfound
      obtain ⟨fields, rfl, hfields, hown⟩ := normalizeResponse_dict hresponse (by decide) hcontinuation
      rw [htrue, Option.some.injEq] at hown
      rw [continuationBindingProof] at hproof
      split at hproof
      next found hfound =>
        cases hproof
        rw [hfields _ (by decide)] at hfound
        refine ⟨fields, continued, proof, dictInsert continued "used_migrated_kv" (.bool true),
          keptProof host.toAdapterHost proof hashes, tokens, hashes, rfl,
          ⟨hown, (hfields _ (by decide)).symm.trans hcontinuation, ⟨htokens, hints, hused⟩, hfound,
            normalizeBoundHashes_ok hhashes⟩,
          ⟨?_, ?_, ⟨?_, hints, ?_⟩, ?_, ?_⟩, checkExpectedBound_ok hbound⟩
        · simp [lookup_dictInsert, htrue]
        · simp [lookup_dictInsert]
        · simp [lookup_dictInsert, htokens]
        · simp [lookup_dictInsert]
        · simp [lookup_dictInsert]
        · simp [lookup_dictInsert, keptProof]
      next => cases hproof
    next => cases hcontinued

end Answers

section Evidence

variable (host : LlamaHost P)

/-- A registration of the run that is recorded, with what it was accepted with. It may still have raised,
where the probe file could not be written. -/
def RunAccepts (requests : List (RuntimeRequest P)) (accepted : AcceptedState P) : Prop :=
  ∃ liveHook probe payload request, .register liveHook probe payload request ∈ requests ∧
    registration host.toAdapterHost liveHook payload request = .ok accepted

variable {host}

theorem RunAccepts.mono {requests later : List (RuntimeRequest P)} {accepted : AcceptedState P}
    (h : RunAccepts host requests accepted) : RunAccepts host (requests ++ later) accepted := by
  obtain ⟨liveHook, probe, payload, request, hmem, hok⟩ := h
  exact ⟨liveHook, probe, payload, request, List.mem_append_left _ hmem, hok⟩

variable (host) in
/-- What is registered, and the summary of each block, come from registrations of the run. -/
theorem runtimeAfter_registers (requests : List (RuntimeRequest P)) :
    (∀ hash ∈ (runtimeAfter host requests).registeredHashes,
      ∃ accepted, RunAccepts host requests accepted ∧ accepted.hash = hash) ∧
    ∀ hash accepted, (runtimeAfter host requests).blockSummaries.lookup hash = some accepted →
      RunAccepts host requests accepted ∧ accepted.hash = hash := by
  induction requests using List.reverseRecOn with
  | nil =>
    refine ⟨fun hash hmem => absurd hmem (Finset.notMem_empty hash), ?_⟩
    intro hash accepted h
    rw [show (runtimeAfter host []).blockSummaries = (∅ : Finmap fun _ : String => AcceptedState P) from rfl,
      Finmap.lookup_empty] at h
    cases h
  | append_singleton requests request ih =>
    obtain ⟨hhashes, hblocks⟩ := ih
    have hkept : (∀ hash ∈ (runtimeAfter host requests).registeredHashes,
          ∃ accepted, RunAccepts host (requests ++ [request]) accepted ∧ accepted.hash = hash) ∧
        ∀ hash accepted, (runtimeAfter host requests).blockSummaries.lookup hash = some accepted →
          RunAccepts host (requests ++ [request]) accepted ∧ accepted.hash = hash := by
      refine ⟨?_, ?_⟩
      · intro hash hmem
        obtain ⟨accepted, hregisters, heq⟩ := hhashes hash hmem
        exact ⟨accepted, hregisters.mono, heq⟩
      · intro hash accepted h
        exact ⟨(hblocks hash accepted h).1.mono, (hblocks hash accepted h).2⟩
    rw [runtimeAfter_concat]
    cases request with
    | exportState probe =>
      rw [next_exportState]
      exact hkept
    | verify liveHook probe payload =>
      rw [next_verify]
      cases verification host liveHook payload (runtimeAfter host requests).toLlamaCppRuntime with
      | ok result => exact hkept
      | error e => exact hkept
    | register liveHook probe payload request =>
      rw [next_register]
      cases hok : registration host.toAdapterHost liveHook payload request with
      | error e => exact hkept
      | ok accepted =>
        have hnew : RunAccepts host (requests ++ [.register liveHook probe payload request]) accepted :=
          ⟨liveHook, probe, payload, request, List.mem_append_right _ List.mem_cons_self, hok⟩
        refine ⟨?_, ?_⟩
        · intro hash hmem
          rcases Finset.mem_insert.mp hmem with rfl | hmem
          · exact ⟨accepted, hnew, rfl⟩
          · exact hkept.1 hash hmem
        · intro hash found hfound
          by_cases heq : hash = accepted.hash
          · subst heq
            rw [show (LlamaCppRuntime.record _ accepted).blockSummaries.lookup accepted.hash = some accepted from
              Finmap.lookup_insert _] at hfound
            cases hfound
            exact ⟨hnew, rfl⟩
          · apply hkept.2 hash found
            rw [← hfound]
            exact (Finmap.lookup_insert_of_ne _ heq).symm

variable (host)

/-- An accepted block with the answer of the live hook that bound it. -/
def AcceptedState.bound (given : AcceptedState P) (result : Fields P) : AcceptedState P :=
  { given with
    liveHookResult := some result
    adapterMode := "live-kv-binding-hook"
    decodeClaim := "live-kv-bound-continuation-not-yet-verified" }

/-- The block was bound by the hook of a registration of the run, which was called on this very block, and
its answer is kept. -/
def BoundByHook (requests : List (RuntimeRequest P)) (accepted : AcceptedState P) : Prop :=
  ∃ hook probe payload request given fields proof result kept hashes,
    .register (some hook) probe payload request ∈ requests ∧
      acceptState host.toAdapterHost payload = .ok given ∧
      hook given payload request = .ok (.dict fields) ∧ SaysBound fields proof hashes ∧
      accepted = given.bound result ∧ RecordsBound result kept hashes ∧ accepted.hash ∈ hashes

/-- The hook's answer to a verify request shows a continuation from the hashes, and is kept. -/
def ContinuedByHook (liveHook : Option (VerifyHook P)) (payload : Json P) (runtime : LlamaCppRuntime P)
    (result : LlamaVerifyResult P) (requested : List String) : Prop :=
  ∃ hook fields continued proof live keptContinued kept tokens hashes, liveHook = some hook ∧
    hook payload requested (requested.eraseDups.map fun hash => (hash, runtime.blockSummaries.lookup hash)) =
      .ok (.dict fields) ∧
    SaysContinued host.toAdapterHost fields continued proof tokens hashes ∧
    result.liveHookResult = some live ∧ RecordsContinued live keptContinued kept tokens hashes ∧
    ∀ hash ∈ requested, hash ∈ hashes

variable {host}

theorem RunAccepts.boundByHook {requests : List (RuntimeRequest P)} {accepted : AcceptedState P}
    (h : RunAccepts host requests accepted) (hmode : accepted.adapterMode = "live-kv-binding-hook") :
    BoundByHook host requests accepted := by
  obtain ⟨liveHook, probe, payload, request, hmem, hok⟩ := h
  obtain ⟨given, hgiven, hok⟩ := except_bind_ok_iff.mp hok
  cases liveHook with
  | none =>
    cases hok
    rw [(acceptState_ok hgiven).1] at hmode
    exact absurd hmode (by decide)
  | some hook =>
    obtain ⟨answer, hanswer, hok⟩ := except_bind_ok_iff.mp hok
    obtain ⟨response, hresponse, hok⟩ := except_bind_ok_iff.mp hok
    obtain ⟨result, hresult, hok⟩ := except_bind_ok_iff.mp hok
    cases hok
    obtain ⟨fields, proof, kept, hashes, rfl, hsays, hrecords, hin⟩ :=
      validateBindingResult_says hresponse hresult
    exact ⟨hook, probe, payload, request, given, fields, proof, result, kept, hashes, hmem, hgiven, hanswer, hsays,
      rfl, hrecords, hin⟩

/-- A verify request is answered with a proven continuation for registered hashes and a hook's word only. -/
theorem verification_proven {liveHook : Option (VerifyHook P)} {payload : Json P} {runtime : LlamaCppRuntime P}
    {result : LlamaVerifyResult P} (h : verification host liveHook payload runtime = .ok result)
    (hproven : result.decodeStatus = some "live_kv_binding_continuation_proven") :
    ∃ requested, requestedHashes host payload = .ok requested ∧ result.verifiedHashes = some requested ∧
      (∀ hash ∈ requested, hash ∈ runtime.registeredHashes) ∧
      ContinuedByHook host liveHook payload runtime result requested := by
  obtain ⟨requested, hrequested, h⟩ := except_bind_ok_iff.mp h
  split at h
  next hnone =>
    have hall : ∀ hash ∈ requested, hash ∈ runtime.registeredHashes := by
      intro hash hmem
      simpa using List.filter_eq_nil_iff.mp hnone hash hmem
    cases liveHook with
    | none =>
      cases h
      exact absurd (Option.some.inj hproven) (by decide)
    | some hook =>
      obtain ⟨answer, hanswer, h⟩ := except_bind_ok_iff.mp h
      obtain ⟨response, hresponse, h⟩ := except_bind_ok_iff.mp h
      obtain ⟨live, hlive, h⟩ := except_bind_ok_iff.mp h
      cases h
      obtain ⟨fields, continued, proof, keptContinued, kept, tokens, hashes, rfl, hsays, hrecords, hin⟩ :=
        validateContinuationResult_says hresponse hlive
      exact ⟨requested, hrequested, rfl, hall, hook, fields, continued, proof, live, keptContinued, kept, tokens,
        hashes, rfl, hanswer, hsays, rfl, hrecords, hin⟩
  next =>
    cases h
    cases hproven

variable (host)

/-- After any run: a registration that raises changes nothing, unless all that raised is the probe file; a
block that counts as bound was bound by a hook; and a verify request that counts as proven is about
registered hashes and was answered by a hook. -/
theorem llamaEvidence_sound (requests : List (RuntimeRequest P)) :
    (∀ liveHook probe payload request e after,
      (LlamaCppReferenceRuntime.registerPermeantBlock host liveHook probe payload request).run
        (runtimeAfter host requests) = .error e after →
          after = runtimeAfter host requests ∨ probe = .error e ∧ ∃ accepted,
            registration host.toAdapterHost liveHook payload request = .ok accepted ∧
              after = { runtimeAfter host requests with
                toLlamaCppRuntime := (runtimeAfter host requests).record accepted }) ∧
    (∀ hash accepted, (runtimeAfter host requests).blockSummaries.lookup hash = some accepted →
      accepted.adapterMode = "live-kv-binding-hook" →
        accepted.hash = hash ∧ BoundByHook host requests accepted) ∧
    ∀ liveHook probe payload result after,
      (LlamaCppReferenceRuntime.verifyPermeantHashes host liveHook probe payload).run
        (runtimeAfter host requests) = .ok result after →
          result.decodeStatus = some "live_kv_binding_continuation_proven" →
            ∃ requested, requestedHashes host payload = .ok requested ∧
              (∀ hash ∈ requested, ∃ accepted, RunAccepts host requests accepted ∧ accepted.hash = hash) ∧
              ContinuedByHook host liveHook payload (runtimeAfter host requests).toLlamaCppRuntime result
                requested := by
  obtain ⟨hhashes, hblocks⟩ := runtimeAfter_registers host requests
  refine ⟨?_, ?_, ?_⟩
  · intro liveHook probe payload request e after h
    rw [run_registerPermeantBlock_reference] at h
    cases haccepted : registration host.toAdapterHost liveHook payload request with
    | error e =>
      rw [haccepted] at h
      cases h
      exact .inl rfl
    | ok accepted =>
      rw [haccepted] at h
      cases probe with
      | ok written => cases h
      | error e =>
        cases h
        exact .inr ⟨rfl, accepted, rfl, rfl⟩
  · intro hash accepted hlookup hmode
    obtain ⟨hregisters, heq⟩ := hblocks hash accepted hlookup
    exact ⟨heq, hregisters.boundByHook hmode⟩
  · intro liveHook probe payload result after h hproven
    rw [run_verifyPermeantHashes] at h
    cases hverified : verification host liveHook payload (runtimeAfter host requests).toLlamaCppRuntime with
    | error e =>
      rw [hverified] at h
      cases h
    | ok found =>
      rw [hverified] at h
      cases probe with
      | error e => cases h
      | ok written =>
        cases h
        obtain ⟨requested, hrequested, _, hregistered, hcontinued⟩ := verification_proven hverified hproven
        exact ⟨requested, hrequested, fun hash hmem => hhashes hash (hregistered hash hmem), hcontinued⟩

end Evidence

section Unwritten

/-- A request that has a runtime state and no tensors. -/
def statePayload (hash : String) : Json F32 := .dict [("hash", .str hash), ("runtime_state", .dict [])]

/-- With a directory in the place of the probe file a registration raises, and the block is registered. -/
theorem unwrittenProbe_registers : ¬∀ e after,
    (LlamaCppReferenceRuntime.registerPermeantBlock pythonLlama none (.error (.osError .isADirectory))
      (statePayload "a") .null).run (runtimeAfter pythonLlama []) = .error e after →
        after.toLlamaCppRuntime = (runtimeAfter pythonLlama []).toLlamaCppRuntime := by
  intro h
  have hsame := congrArg LlamaCppRuntime.registeredHashes (h (.osError .isADirectory) _ rfl)
  revert hsame
  decide +kernel

end Unwritten

end PermeantOS
