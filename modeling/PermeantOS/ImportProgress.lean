import PermeantOS.ImportWorker

namespace PermeantOS

variable {P : Type} {host : AgentHost P} {directory : Directory} {hook : ImportHook P}

section Markers

theorem writeMarker_ok {folder folder' : ImportDirectory directory} {ready : String} {content : List UInt8}
    (h : folder.writeMarker ready content = .ok folder') :
    resolve folder.disk (markerPath directory ready) = .ok (markerPath directory ready) ∧
      folder.disk (markerPath directory ready) ≠ some .dir ∧
      folder'.disk = Function.update folder.disk (markerPath directory ready) (some (.file content)) := by
  rw [ImportDirectory.writeMarker] at h
  split at h
  next => cases h
  next disk hwrite =>
    cases h
    obtain ⟨location, hresolve, hdir, rfl⟩ := writeBytes_ok_iff.mp hwrite
    cases resolve_markerPath hresolve
    exact ⟨hresolve, hdir, rfl⟩

/-- A file that is written changes what there is at its own place only. -/
theorem fileExists_update {disk : Disk} {path other : List String} {content : List UInt8}
    (hdir : disk other ≠ some .dir) (hne : ∀ location, resolve disk path = .ok location → location ≠ other) :
    fileExists (Function.update disk other (some (.file content))) path = fileExists disk path := by
  have hback : ∀ location, Function.update disk other (some (.file content)) location = some .dir →
      disk location = some .dir := by
    intro location h
    by_cases heq : location = other
    · subst heq
      rw [Function.update_self] at h
      cases h
    · rwa [Function.update_of_ne heq] at h
  rw [fileExists, fileExists]
  cases hresolve : resolve disk path with
  | ok location =>
    rw [resolve_mono (dir_update hdir _) hresolve]
    dsimp only
    rw [Function.update_of_ne (hne location hresolve)]
  | error e =>
    cases hafter : resolve (Function.update disk other (some (.file content))) path with
    | error e' => rfl
    | ok location =>
      rw [resolve_mono hback hafter] at hresolve
      cases hresolve

/-- One more marker, and no other change of markers. -/
theorem hasMarker_writeMarker_iff {folder folder' : ImportDirectory directory} {ready other : String}
    {content : List UInt8} (h : folder.writeMarker ready content = .ok folder') (hready : isReady ready = true)
    (hother : isReady other = true) : folder'.HasMarker other ↔ other = ready ∨ folder.HasMarker other := by
  obtain ⟨hresolve, hdir, hdisk⟩ := writeMarker_ok h
  rw [ImportDirectory.HasMarker, ImportDirectory.HasMarker, hdisk]
  by_cases heq : other = ready
  · subst heq
    simp only [true_or, iff_true]
    exact fileExists_of_readBytes (readBytes_written hresolve hdir)
  · rw [fileExists_update hdir]
    · exact (or_iff_right heq).symm
    · intro location hlocation hsame
      have hpath := (resolve_markerPath hlocation).symm.trans hsame
      rw [markerPath, markerPath, List.append_cancel_left_eq, List.singleton_inj] at hpath
      exact heq (markerName_injective hother hready hpath)

end Markers

section Consuming

/-- What handing one descriptor to the hook comes to, when it does not raise. -/
theorem consumeOne_ok {ready : String} {result : Fields P} {state last : WorkerState P directory}
    (h : (consumeOne host hook ready).run state = .ok result last) :
    ∃ hash payload validation answer folder, stagedPayload host directory state.disk ready = .ok (hash, payload) ∧
      graphSpanValidation host payload = .ok validation ∧ hook.answer state.calls payload = .ok answer ∧
      hookResult validation answer = .ok result ∧
      state.writeMarker ready
        (markerBytes host hash (hook.time (state.calls ++ [(ready, payload)])) result) = .ok folder ∧
      last = ⟨folder, state.calls ++ [(ready, payload)]⟩ := by
  rw [consumeOne, run_get_bind] at h
  obtain ⟨⟨hash, payload⟩, hpayload, h⟩ := run_liftExcept_bind_ok_iff.mp h
  obtain ⟨validation, hvalidation, h⟩ := run_liftExcept_bind_ok_iff.mp h
  obtain ⟨answer, called, hcall, h⟩ := run_bind_ok_iff.mp h
  obtain ⟨found, hresult, h⟩ := run_liftExcept_bind_ok_iff.mp h
  obtain ⟨⟨⟩, recorded, hrecord, h⟩ := run_bind_ok_iff.mp h
  cases h
  obtain ⟨hanswer, rfl⟩ := run_liftExcept_ok_iff.mp hcall
  rw [recordProcessed, run_get_bind] at hrecord
  obtain ⟨folder, hfolder, hset⟩ := run_liftExcept_bind_ok_iff.mp hrecord
  cases hset
  exact ⟨hash, payload, validation, answer, folder, hpayload, hvalidation, hanswer, hresult, hfolder, rfl⟩

theorem hookResult_ok {validation : Option (Json P)} {answer : Json P} {result : Fields P}
    (h : hookResult validation answer = .ok result) : answer = .null ∨ ∃ fields, answer = .dict fields := by
  cases answer with
  | null => exact .inl rfl
  | dict fields => exact .inr ⟨fields, rfl⟩
  | _ => cases h

theorem consumeOne_error {ready : String} {e : PyException} {state last : WorkerState P directory}
    (h : (consumeOne host hook ready).run state = .error e last) :
    last.toImportDirectory = state.toImportDirectory ∧
      (last.calls = state.calls ∨ ∃ payload, last.calls = state.calls ++ [(ready, payload)]) := by
  rw [consumeOne, run_get_bind] at h
  cases hpayload : stagedPayload host directory state.disk ready with
  | error e' =>
    rw [hpayload] at h
    cases h
    exact ⟨rfl, .inl rfl⟩
  | ok staged =>
    obtain ⟨hash, payload⟩ := staged
    rw [run_liftExcept_bind_of_ok hpayload] at h
    dsimp only at h
    cases hvalidation : graphSpanValidation host payload with
    | error e' =>
      rw [hvalidation] at h
      cases h
      exact ⟨rfl, .inl rfl⟩
    | ok validation =>
      rw [run_liftExcept_bind_of_ok hvalidation] at h
      cases hanswer : hook.answer state.calls payload with
      | error e' =>
        have hcall : (callHook hook ready payload).run state =
            .error e' ⟨state.toImportDirectory, state.calls ++ [(ready, payload)]⟩ := by
          rw [callHook, run_get_bind, hanswer]
          rfl
        rw [run_bind_of_error hcall] at h
        cases h
        exact ⟨rfl, .inr ⟨payload, rfl⟩⟩
      | ok answer =>
        have hcall : (callHook hook ready payload).run state =
            .ok answer ⟨state.toImportDirectory, state.calls ++ [(ready, payload)]⟩ := by
          rw [callHook, run_get_bind, hanswer]
          rfl
        rw [run_bind_of_ok hcall] at h
        cases hresult : hookResult validation answer with
        | error e' =>
          rw [hresult] at h
          cases h
          exact ⟨rfl, .inr ⟨payload, rfl⟩⟩
        | ok result =>
          rw [run_liftExcept_bind_of_ok hresult, recordProcessed, EStateM.run_bind, run_get_bind] at h
          cases hfolder : ImportDirectory.writeMarker state.toImportDirectory ready
              (markerBytes host hash (hook.time (state.calls ++ [(ready, payload)])) result) with
          | error e' =>
            rw [hfolder] at h
            cases h
            exact ⟨rfl, .inr ⟨payload, rfl⟩⟩
          | ok folder =>
            rw [run_liftExcept_bind_of_ok hfolder] at h
            cases h

variable (host hook)

/-- Descriptors that are handed over one after the other, none of which raises. -/
def ConsumesEach : List String → WorkerState P directory → WorkerState P directory → Prop
  | [], state, last => last = state
  | ready :: rest, state, last => ∃ result mid, (consumeOne host hook ready).run state = .ok result mid ∧
      ConsumesEach rest mid last

/-- The ready descriptors without a marker, in the order of a pass. -/
def WorkerState.pending (state : WorkerState P directory) : List String :=
  state.readyNames.filter fun ready => ¬state.HasMarker ready

variable {host hook}

theorem hasMarker_consumeOne_iff {ready other : String} {result : Fields P} {state last : WorkerState P directory}
    (h : (consumeOne host hook ready).run state = .ok result last) (hready : isReady ready = true)
    (hother : isReady other = true) : last.HasMarker other ↔ other = ready ∨ state.HasMarker other := by
  obtain ⟨hash, payload, _, _, folder, _, _, _, _, hfolder, rfl⟩ := consumeOne_ok h
  exact hasMarker_writeMarker_iff hfolder hready hother

variable (host hook) in
/-- A pass over some names hands over those without a marker, up to the first that raises. -/
theorem run_processEach {names : List String} (hnodup : names.Nodup) (hready : ∀ name ∈ names, isReady name = true)
    (processed : Nat) (state : WorkerState P directory) :
    match (processEach host hook names processed).run state with
    | .ok count last =>
      ConsumesEach host hook (names.filter fun ready => ¬state.HasMarker ready) state last ∧
        count = processed + (names.filter fun ready => ¬state.HasMarker ready).length
    | .error e last => ∃ front ready back mid,
      names.filter (fun ready => ¬state.HasMarker ready) = front ++ ready :: back ∧
        ConsumesEach host hook front state mid ∧ (consumeOne host hook ready).run mid = .error e last := by
  induction names generalizing processed state with
  | nil => exact ⟨rfl, rfl⟩
  | cons ready names ih =>
    obtain ⟨hfresh, hnodup⟩ := List.nodup_cons.mp hnodup
    obtain ⟨hfirst, hrest⟩ := List.forall_mem_cons.mp hready
    rw [processEach, run_get_bind]
    by_cases hmarker : state.HasMarker ready
    · rw [if_pos hmarker, List.filter_cons_of_neg (by simpa using hmarker)]
      exact ih hnodup hrest processed state
    · rw [if_neg hmarker, List.filter_cons_of_pos (by simpa using hmarker), EStateM.run_bind]
      cases hconsume : (consumeOne host hook ready).run state with
      | error e last => exact ⟨[], ready, _, state, rfl, rfl, hconsume⟩
      | ok result mid =>
        have hsame : names.filter (fun ready => ¬mid.HasMarker ready) =
            names.filter fun ready => ¬state.HasMarker ready := by
          apply List.filter_congr
          intro other hmem
          have hne : other ≠ ready := fun heq => hfresh (heq ▸ hmem)
          rw [decide_eq_decide, hasMarker_consumeOne_iff hconsume hfirst (hrest other hmem), or_iff_right hne]
        have hpass := ih hnodup hrest (processed + 1) mid
        rw [hsame] at hpass
        dsimp only
        cases hrun : (processEach host hook names (processed + 1)).run mid with
        | ok count last =>
          rw [hrun] at hpass
          refine ⟨⟨result, mid, hconsume, hpass.1⟩, ?_⟩
          rw [hpass.2, List.length_cons]
          omega
        | error e last =>
          rw [hrun] at hpass
          obtain ⟨front, failed, back, before, heq, hfront, hfailed⟩ := hpass
          exact ⟨ready :: front, failed, back, before, by rw [heq, List.cons_append], ⟨result, mid, hconsume, hfront⟩,
            hfailed⟩

theorem hasMarker_consumesEach_iff {names : List String} (hready : ∀ name ∈ names, isReady name = true)
    {state last : WorkerState P directory} (h : ConsumesEach host hook names state last) {other : String}
    (hother : isReady other = true) : last.HasMarker other ↔ other ∈ names ∨ state.HasMarker other := by
  induction names generalizing state with
  | nil =>
    cases h
    simp
  | cons ready names ih =>
    obtain ⟨hfirst, hrest⟩ := List.forall_mem_cons.mp hready
    obtain ⟨result, mid, hconsume, h⟩ := h
    rw [ih hrest h, hasMarker_consumeOne_iff hconsume hfirst hother, List.mem_cons, ← or_assoc,
      or_comm (a := other ∈ names)]

theorem calls_consumesEach {names : List String} {state last : WorkerState P directory}
    (h : ConsumesEach host hook names state last) :
    ∃ new, last.calls = state.calls ++ new ∧ new.map Prod.fst = names := by
  induction names generalizing state with
  | nil =>
    cases h
    exact ⟨[], by simp, rfl⟩
  | cons ready names ih =>
    obtain ⟨result, mid, hconsume, h⟩ := h
    obtain ⟨hash, payload, _, _, folder, _, _, _, _, _, rfl⟩ := consumeOne_ok hconsume
    obtain ⟨new, hnew, hnames⟩ := ih h
    exact ⟨(ready, payload) :: new, by rw [hnew, List.append_assoc, List.singleton_append],
      by rw [List.map_cons, hnames]⟩

/-- The descriptors up to one of those that were handed over, and the state in which its turn came. -/
theorem consumesEach_split {names : List String} {state last : WorkerState P directory}
    (h : ConsumesEach host hook names state last) {ready : String} (hmem : ready ∈ names) :
    ∃ front back mid, names = front ++ ready :: back ∧ ConsumesEach host hook front state mid ∧
      ∃ result after, (consumeOne host hook ready).run mid = .ok result after ∧
        ConsumesEach host hook back after last := by
  induction names generalizing state with
  | nil => cases hmem
  | cons first names ih =>
    obtain ⟨result, mid, hconsume, h⟩ := h
    rcases List.mem_cons.mp hmem with rfl | hmem
    · exact ⟨[], names, state, rfl, rfl, result, mid, hconsume, h⟩
    · obtain ⟨front, back, before, heq, hfront, hready⟩ := ih h hmem
      exact ⟨first :: front, back, before, by rw [heq, List.cons_append], ⟨result, mid, hconsume, hfront⟩, hready⟩

end Consuming

section Passes

variable {state : WorkerState P directory}

theorem mem_readyNames {folder : ImportDirectory directory} {name : String} :
    name ∈ folder.readyNames ↔ name ∈ folder.names ∧ isReady name = true := by
  rw [ImportDirectory.readyNames, (List.perm_insertionSort _ _).mem_iff, List.mem_filter]

theorem nodup_readyNames (folder : ImportDirectory directory) : folder.readyNames.Nodup :=
  (List.perm_insertionSort _ _).nodup_iff.mpr (folder.nodup.filter _)

theorem isReady_of_mem_pending {ready : String} (h : ready ∈ state.pending) : isReady ready = true :=
  (mem_readyNames.mp (List.mem_of_mem_filter h)).2

theorem not_hasMarker_of_mem_pending {ready : String} (h : ready ∈ state.pending) : ¬state.HasMarker ready := by
  simpa using (List.mem_filter.mp h).2

variable (host hook) in
/-- What a pass comes to. -/
theorem run_runOnce (state : WorkerState P directory) :
    match (runOnce host hook).run state with
    | .ok count last => ConsumesEach host hook state.pending state last ∧ count = state.pending.length
    | .error e last => ∃ front ready back mid, state.pending = front ++ ready :: back ∧
        ConsumesEach host hook front state mid ∧ (consumeOne host hook ready).run mid = .error e last := by
  have hready : ∀ name ∈ state.readyNames, isReady name = true := fun name hmem => (mem_readyNames.mp hmem).2
  have hpass := run_processEach host hook (nodup_readyNames _) hready 0 state
  rwa [Nat.zero_add] at hpass

variable (host hook) in
/-- A pass hands over a first part of the pending descriptors, then perhaps fails at the next one. -/
theorem runOnce_consumes (state : WorkerState P directory) :
    ∃ front mid, front <+: state.pending ∧ ConsumesEach host hook front state mid ∧
      (leftState ((runOnce host hook).run state)).toImportDirectory = mid.toImportDirectory ∧
      ((leftState ((runOnce host hook).run state)).calls = mid.calls ∨ ∃ ready payload,
        front ++ [ready] <+: state.pending ∧
          (leftState ((runOnce host hook).run state)).calls = mid.calls ++ [(ready, payload)]) := by
  have hpass := run_runOnce host hook state
  cases hrun : (runOnce host hook).run state with
  | ok count last =>
    rw [hrun] at hpass
    exact ⟨state.pending, last, List.prefix_rfl, hpass.1, rfl, .inl rfl⟩
  | error e last =>
    rw [hrun] at hpass
    obtain ⟨front, ready, back, mid, heq, hfront, hfailed⟩ := hpass
    obtain ⟨hsame, hcalls⟩ := consumeOne_error hfailed
    refine ⟨front, mid, ⟨_, heq.symm⟩, hfront, hsame, hcalls.imp_right ?_⟩
    rintro ⟨payload, hcalls⟩
    exact ⟨ready, payload, ⟨back, by rw [heq, List.append_assoc, List.singleton_append]⟩, hcalls⟩

theorem isReady_of_begins {front : List String} (h : front <+: state.pending) :
    ∀ name ∈ front, isReady name = true :=
  fun _ hmem => isReady_of_mem_pending (h.subset hmem)

variable (host hook) in
/-- A pass calls the hook on a first part of the pending descriptors. -/
theorem calls_runOnce (state : WorkerState P directory) :
    ∃ new, (leftState ((runOnce host hook).run state)).calls = state.calls ++ new ∧
      new.map Prod.fst <+: state.pending := by
  obtain ⟨front, mid, hbegins, hfront, _, hcalls⟩ := runOnce_consumes host hook state
  obtain ⟨new, hnew, hnames⟩ := calls_consumesEach hfront
  rcases hcalls with hcalls | ⟨ready, payload, hnext, hcalls⟩
  · exact ⟨new, hcalls.trans hnew, hnames ▸ hbegins⟩
  · refine ⟨new ++ [(ready, payload)], by rw [hcalls, hnew, List.append_assoc], ?_⟩
    rwa [List.map_append, hnames]

/-- A pass keeps every marker. -/
theorem hasMarker_runOnce {ready : String} (hready : isReady ready = true) (h : state.HasMarker ready) :
    (leftState ((runOnce host hook).run state)).HasMarker ready := by
  obtain ⟨front, mid, hbegins, hfront, hsame, _⟩ := runOnce_consumes host hook state
  rw [hsame]
  exact (hasMarker_consumesEach_iff (isReady_of_begins hbegins) hfront hready).mpr (.inr h)

theorem hasMarker_afterPasses {k passes : Nat} (hk : k ≤ passes) {ready : String} (hready : isReady ready = true)
    (h : (afterPasses host hook state k).HasMarker ready) : (afterPasses host hook state passes).HasMarker ready := by
  induction passes, hk using Nat.le_induction with
  | base => exact h
  | succ passes _ ih => exact hasMarker_runOnce hready ih

theorem calls_prefix_afterPasses {k passes : Nat} (hk : k ≤ passes) :
    (afterPasses host hook state k).calls <+: (afterPasses host hook state passes).calls := by
  induction passes, hk using Nat.le_induction with
  | base => exact List.prefix_rfl
  | succ passes _ ih =>
    obtain ⟨new, hnew, _⟩ := calls_runOnce host hook (afterPasses host hook state passes)
    exact ih.trans ⟨new, hnew.symm⟩

/-- Once a descriptor has its marker, no pass calls the hook for it. -/
theorem calls_afterPasses {k passes : Nat} (hk : k ≤ passes) {ready : String} (hready : isReady ready = true)
    (h : (afterPasses host hook state k).HasMarker ready) :
    ∃ new, (afterPasses host hook state passes).calls = (afterPasses host hook state k).calls ++ new ∧
      ∀ call ∈ new, call.1 ≠ ready := by
  induction passes, hk using Nat.le_induction with
  | base => exact ⟨[], by simp, by simp⟩
  | succ passes hle ih =>
    obtain ⟨earlier, hearlier, hnot⟩ := ih
    obtain ⟨new, hnew, hbegins⟩ := calls_runOnce host hook (afterPasses host hook state passes)
    refine ⟨earlier ++ new, by rw [afterPasses, hnew, hearlier, List.append_assoc], ?_⟩
    intro call hmem heq
    rcases List.mem_append.mp hmem with hmem | hmem
    · exact hnot call hmem heq
    · have hpending := hbegins.subset (List.mem_map_of_mem hmem)
      exact not_hasMarker_of_mem_pending (heq ▸ hpending) (hasMarker_afterPasses hle hready h)

/-- A marker that is new after a pass was written when the turn of its descriptor came. -/
theorem hasMarker_runOnce_new {ready : String} (hready : isReady ready = true)
    (h : (leftState ((runOnce host hook).run state)).HasMarker ready) (hnew : ¬state.HasMarker ready) :
    ∃ front mid result after, front ++ [ready] <+: state.pending ∧ ConsumesEach host hook front state mid ∧
      (consumeOne host hook ready).run mid = .ok result after ∧
      after.calls <+: (leftState ((runOnce host hook).run state)).calls := by
  obtain ⟨names, last, hbegins, hnames, hsame, hcalls⟩ := runOnce_consumes host hook state
  rw [hsame] at h
  have hmem := ((hasMarker_consumesEach_iff (isReady_of_begins hbegins) hnames hready).mp h).resolve_right hnew
  obtain ⟨front, back, mid, rfl, hfront, result, after, hconsume, hback⟩ := consumesEach_split hnames hmem
  have hpending : front ++ [ready] <+: state.pending :=
    .trans ⟨back, by rw [List.append_assoc, List.singleton_append]⟩ hbegins
  obtain ⟨new, hlast, _⟩ := calls_consumesEach hback
  refine ⟨front, mid, result, after, hpending, hfront, hconsume, .trans ⟨new, hlast.symm⟩ ?_⟩
  rcases hcalls with hcalls | ⟨_, payload, _, hcalls⟩
  · rw [hcalls]
  · exact ⟨_, hcalls.symm⟩

/-- The first pass after which a descriptor has its marker. -/
theorem exists_pass_of_hasMarker {passes : Nat} {ready : String}
    (h : (afterPasses host hook state passes).HasMarker ready) (hnew : ¬state.HasMarker ready) :
    ∃ k < passes, (afterPasses host hook state (k + 1)).HasMarker ready ∧
      ¬(afterPasses host hook state k).HasMarker ready := by
  induction passes with
  | zero => exact absurd h hnew
  | succ passes ih =>
    by_cases hbefore : (afterPasses host hook state passes).HasMarker ready
    · obtain ⟨k, hk, hpass⟩ := ih hbefore
      exact ⟨k, by omega, hpass⟩
    · exact ⟨passes, by omega, h, hbefore⟩

end Passes

section Passing

variable (host hook)

/-- The turn of a descriptor, in which the hook is called on its payload and answers with `None` or an object. -/
def Answered (mid last : WorkerState P directory) (ready : String) : Prop :=
  ∃ hash payload answer, stagedPayload host directory mid.disk ready = .ok (hash, payload) ∧
    mid.calls ++ [(ready, payload)] <+: last.calls ∧ hook.answer mid.calls payload = .ok answer ∧
    (answer = .null ∨ ∃ fields, answer = .dict fields)

/-- A marker that passes leave is that of an answered descriptor, a descriptor with a marker does not reach the
hook again, and a pass hands over the pending descriptors in order, up to the first that raises. -/
theorem importWorker_progress (state : WorkerState P directory) (passes : Nat) :
    (∀ ready, isReady ready = true → (afterPasses host hook state passes).HasMarker ready →
      state.HasMarker ready ∨ ∃ k < passes, ∃ front mid,
        front ++ [ready] <+: (afterPasses host hook state k).pending ∧
          ConsumesEach host hook front (afterPasses host hook state k) mid ∧
          Answered host hook mid (afterPasses host hook state passes) ready) ∧
    (∀ k ≤ passes, ∀ ready, isReady ready = true → (afterPasses host hook state k).HasMarker ready →
      ∃ new, (afterPasses host hook state passes).calls = (afterPasses host hook state k).calls ++ new ∧
        ∀ call ∈ new, call.1 ≠ ready) ∧
    (afterPasses host hook state passes).pending.Nodup ∧
    match (runOnce host hook).run (afterPasses host hook state passes) with
    | .ok count last =>
      ConsumesEach host hook (afterPasses host hook state passes).pending (afterPasses host hook state passes) last ∧
        count = (afterPasses host hook state passes).pending.length
    | .error e last => ∃ front ready back mid,
      (afterPasses host hook state passes).pending = front ++ ready :: back ∧
        ConsumesEach host hook front (afterPasses host hook state passes) mid ∧
        (consumeOne host hook ready).run mid = .error e last := by
  refine ⟨?_, fun k hk ready => calls_afterPasses hk, (nodup_readyNames _).filter _, run_runOnce host hook _⟩
  intro ready hready h
  by_cases hnew : state.HasMarker ready
  · exact .inl hnew
  · obtain ⟨k, hk, hafter, hbefore⟩ := exists_pass_of_hasMarker h hnew
    obtain ⟨front, mid, result, after, hpending, hfront, hconsume, hcalls⟩ :=
      hasMarker_runOnce_new hready hafter hbefore
    obtain ⟨hash, payload, _, answer, folder, hpayload, _, hanswer, hresult, _, rfl⟩ := consumeOne_ok hconsume
    have hkept : mid.calls ++ [(ready, payload)] <+: (afterPasses host hook state passes).calls :=
      hcalls.trans (calls_prefix_afterPasses (Nat.succ_le_of_lt hk))
    exact .inr ⟨k, hk, front, mid, hpending, hfront, hash, payload, answer, hpayload, hkept, hanswer,
      hookResult_ok hresult⟩

end Passing

section Examples

abbrev importDirectory : Directory := ⟨["import"], by decide⟩

/-- A disk with an import directory that holds some files. -/
def importDisk (files : List (String × List UInt8)) : Disk
  | [] => some .dir
  | ["import"] => some .dir
  | ["import", name] => (files.lookup name).map .file
  | _ => none

/-- The worker at its start, with some files in its import directory. -/
def stagedFiles (files : List (String × List UInt8)) (hnodup : (files.map Prod.fst).Nodup) :
    WorkerState Int importDirectory where
  disk := importDisk files
  names := files.map Prod.fst
  nodup := hnodup
  mem_names_iff name := by simp [importDisk]
  calls := []

def refusingHook : ImportHook Int := ⟨fun _ _ => .ok (.dict [("success", .bool false)]), fun _ => 0⟩

/-- A descriptor of an empty payload. -/
def oneDescriptor : WorkerState Int importDirectory :=
  stagedFiles [("a.ready.json", asBytes "\x7b\"hash\":\"h\"\x7d"), ("h.json", asBytes "\x7b\x7d")] (by decide)

/-- The same descriptor behind one that is no JSON. -/
def behindMalformed : WorkerState Int importDirectory :=
  stagedFiles [("a.ready.json", asBytes "["), ("b.ready.json", asBytes "\x7b\"hash\":\"h\"\x7d"),
    ("h.json", asBytes "\x7b\x7d")] (by decide)

/-- A hook that reports a failure leaves a marker, and behind a malformed descriptor the next one is not tried. -/
theorem refused_marked_and_skipped :
    (¬∀ state : WorkerState Int importDirectory, ∀ ready, ¬state.HasMarker ready →
      (afterPasses decimalHost refusingHook state 1).HasMarker ready →
        ∃ history payload, (refusingHook.answer history payload).toOption = some .null ∨
          ∃ fields, (refusingHook.answer history payload).toOption = some (.dict fields) ∧
            fields.lookup "success" = some (.bool true)) ∧
    ¬∀ state : WorkerState Int importDirectory, ∀ ready ∈ state.pending,
      (stagedPayload decimalHost importDirectory state.disk ready).isOk = true →
        ready ∈ (afterPasses decimalHost refusingHook state 1).calls.map Prod.fst := by
  constructor
  · intro h
    have hbefore : ¬oneDescriptor.HasMarker "a.ready.json" := by decide +kernel
    have hafter : (afterPasses decimalHost refusingHook oneDescriptor 1).HasMarker "a.ready.json" := by
      decide +kernel
    obtain ⟨history, payload, hnull | ⟨fields, hdict, hsuccess⟩⟩ := h oneDescriptor _ hbefore hafter
    · cases hnull
    · cases hdict
      cases hsuccess
  · intro h
    have hpending : "b.ready.json" ∈ behindMalformed.pending := by decide +kernel
    have hstaged : (stagedPayload decimalHost importDirectory behindMalformed.disk "b.ready.json").isOk = true := by
      decide +kernel
    have huncalled : "b.ready.json" ∉ (afterPasses decimalHost refusingHook behindMalformed 1).calls.map Prod.fst := by
      decide +kernel
    exact huncalled (h behindMalformed _ hpending hstaged)

end Examples

end PermeantOS
