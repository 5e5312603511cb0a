import PermeantOS.Receiver

namespace PermeantOS

variable {P : Type}

/-- How far the thread of a request has come. -/
inductive Phase (P : Type)
  | idle
  | stored (hash : String)
  | consumed (hash : String) (result : Fields P)
  | loaded (hash : String) (result : Fields P) (hashes : Finset String)
  | saved (hash : String) (result : Fields P)
  | answered (hash : String) (result : Fields P)
  | failed (error : PyException)

/-- The steps of a request, each of which happens at once. -/
inductive Action (P : Type)
  | writePayload (payload : Fields P)
  | callConsumer (answer : ConsumerAnswer P)
  | readAcked
  | writeAcked
  | answer

/-- The receiver with a thread for every request. -/
structure ReceiverState (P : Type) where
  disk : Disk
  threads : Nat → Phase P

section Steps

variable (host : AdapterHost P) (parseFloat : List Char → P) (stateDir : Directory)

/-- One step of `_inject` from where its thread stands; `none` for a step that is not the next one. -/
def threadStep (disk : Disk) : Phase P → Action P → Option (Phase P × Disk)
  | .idle, .writePayload payload =>
    match injectedHash payload with
    | .error e => some (.failed e, disk)
    | .ok hash =>
      match (PermeantOS.writePayload host stateDir payload hash).run disk with
      | .ok _ disk => some (.stored hash, disk)
      | .error e disk => some (.failed e, disk)
  | .stored hash, .callConsumer answer =>
    match PermeantOS.callConsumer answer with
    | .ok result => some (.consumed hash result, disk)
    | .error e => some (.failed e, disk)
  | .consumed hash result, .readAcked =>
    if succeeded host result = true then
      match loadAcknowledged parseFloat stateDir disk with
      | .ok hashes => some (.loaded hash result hashes, disk)
      | .error e => some (.failed e, disk)
    else none
  | .consumed hash result, .answer =>
    if succeeded host result = true then none else some (.answered hash result, disk)
  | .loaded hash result hashes, .writeAcked =>
    match saveAcknowledged host.floatRepr stateDir (insert hash hashes) disk with
    | .ok disk => some (.saved hash result, disk)
    | .error e => some (.failed (.ofFileError e), disk)
  | .saved hash result, .answer => some (.answered hash result, disk)
  | _, _ => none

def receiverStep (state : ReceiverState P) (event : Nat × Action P) : Option (ReceiverState P) :=
  (threadStep host parseFloat stateDir state.disk (state.threads event.1) event.2).map fun next =>
    ⟨next.2, Function.update state.threads event.1 next.1⟩

def runReceiver (disk : Disk) (events : List (Nat × Action P)) : Option (ReceiverState P) :=
  events.foldlM (receiverStep host parseFloat stateDir) ⟨disk, fun _ => .idle⟩

/-- Some thread has answered a request for this hash with success. -/
def AnsweredWithSuccess (state : ReceiverState P) (hash : String) : Prop :=
  ∃ thread result, state.threads thread = .answered hash result ∧ succeeded host result = true

/-- A step that takes back no acknowledgement: no payload goes to the file of the acknowledgements once
there are some, and what a thread writes there still contains what the file holds. -/
def Careful (state : ReceiverState P) : Nat × Action P → Prop
  | (_, .writePayload payload) => ∀ hash, injectedHash payload = .ok hash →
      (∃ other, Acknowledged parseFloat stateDir state.disk other) →
        payloadLocation stateDir state.disk hash ≠ some (ackFile stateDir)
  | (thread, .writeAcked) => ∀ hash result hashes, state.threads thread = .loaded hash result hashes →
      ∀ other, Acknowledged parseFloat stateDir state.disk other → other ∈ insert hash hashes
  | _ => True

end Steps

section Runs

variable {host : AdapterHost P} {parseFloat : List Char → P} {stateDir : Directory}

/-- A thread that has saved its hash, or answered with success. -/
def Completed (host : AdapterHost P) : Phase P → String → Prop
  | .saved hash result, other => hash = other ∧ succeeded host result = true
  | .answered hash result, other => hash = other ∧ succeeded host result = true
  | _, _ => False

theorem acknowledged_writePayload {payload : Fields P} {hash other : String} {disk : Disk}
    (hcareful : payloadLocation stateDir disk hash ≠ some (ackFile stateDir))
    (h : Acknowledged parseFloat stateDir disk other) : Acknowledged parseFloat stateDir
      (leftState ((writePayload host stateDir payload hash).run disk)) other := by
  rcases run_writePayload host stateDir payload hash disk with
    ⟨mid, location, hfiles, hlocation, hdir, hrun⟩ | ⟨mid, e, hfiles, hrun⟩
  · rw [hrun, leftState_ok]
    apply acknowledged_update _ hdir (acknowledged_sameFiles hfiles h)
    rintro rfl
    exact hcareful hlocation
  · rw [hrun, leftState_error]
    exact acknowledged_sameFiles hfiles h

/-- What a step does to its thread and the disk, as far as acknowledgements go. -/
structure StepKeeps (host : AdapterHost P) (parseFloat : List Char → P) (stateDir : Directory)
    (disk disk' : Disk) (before after : Phase P) : Prop where
  acknowledged : ∀ hash, Acknowledged parseFloat stateDir disk hash →
    Acknowledged parseFloat stateDir disk' hash
  completed : ∀ hash, Completed host after hash →
    Completed host before hash ∨ Acknowledged parseFloat stateDir disk' hash
  loaded : ∀ hash result hashes, after = .loaded hash result hashes → succeeded host result = true

/-- What a step of a thread can be. -/
inductive Stepped (host : AdapterHost P) (parseFloat : List Char → P) (stateDir : Directory) (disk : Disk) :
    Phase P → Action P → Phase P → Disk → Prop
  | written (payload : Fields P) (hash : String) (after : Phase P) (hhash : injectedHash payload = .ok hash)
      (hafter : after = .stored hash ∨ ∃ e, after = .failed e) :
      Stepped host parseFloat stateDir disk .idle (.writePayload payload) after
        (leftState ((writePayload host stateDir payload hash).run disk))
  | failed (before : Phase P) (action : Action P) (e : PyException) :
      Stepped host parseFloat stateDir disk before action (.failed e) disk
  | consumed (hash : String) (answer : ConsumerAnswer P) (result : Fields P) :
      Stepped host parseFloat stateDir disk (.stored hash) (.callConsumer answer) (.consumed hash result) disk
  | loaded (hash : String) (result : Fields P) (hashes : Finset String) (hsuccess : succeeded host result = true) :
      Stepped host parseFloat stateDir disk (.consumed hash result) .readAcked (.loaded hash result hashes) disk
  | refused (hash : String) (result : Fields P) (hrefused : ¬succeeded host result = true) :
      Stepped host parseFloat stateDir disk (.consumed hash result) .answer (.answered hash result) disk
  | saved (hash : String) (result : Fields P) (hashes : Finset String) (disk' : Disk)
      (hsave : saveAcknowledged host.floatRepr stateDir (insert hash hashes) disk = .ok disk') :
      Stepped host parseFloat stateDir disk (.loaded hash result hashes) .writeAcked (.saved hash result) disk'
  | answered (hash : String) (result : Fields P) :
      Stepped host parseFloat stateDir disk (.saved hash result) .answer (.answered hash result) disk

theorem stepped_of_threadStep {disk disk' : Disk} {before after : Phase P} {action : Action P}
    (h : threadStep host parseFloat stateDir disk before action = some (after, disk')) :
    Stepped host parseFloat stateDir disk before action after disk' := by
  unfold threadStep at h
  split at h
  next payload =>
    split at h
    next e _ =>
      cases h
      exact .failed _ _ e
    next hash hhash =>
      have hleft : ∀ next, leftState ((writePayload host stateDir payload hash).run disk) = next →
          (after = .stored hash ∨ ∃ e, after = .failed e) →
          Stepped host parseFloat stateDir disk .idle (.writePayload payload) after next := by
        rintro _ rfl hafter
        exact .written payload hash after hhash hafter
      split at h
      next _ mid hrun =>
        cases h
        exact hleft _ (by rw [hrun, leftState_ok]) (.inl rfl)
      next e mid hrun =>
        cases h
        exact hleft _ (by rw [hrun, leftState_error]) (.inr ⟨e, rfl⟩)
  next hash answer =>
    split at h
    next result _ =>
      cases h
      exact .consumed hash answer result
    next e _ =>
      cases h
      exact .failed _ _ e
  next hash result =>
    split at h
    next hsuccess =>
      split at h
      next hashes _ =>
        cases h
        exact .loaded hash result hashes hsuccess
      next e _ =>
        cases h
        exact .failed _ _ e
    next => cases h
  next hash result =>
    split at h
    next => cases h
    next hrefused =>
      cases h
      exact .refused hash result hrefused
  next hash result hashes =>
    split at h
    next mid hsave =>
      cases h
      exact .saved hash result hashes _ hsave
    next e _ =>
      cases h
      exact .failed _ _ (.ofFileError e)
  next hash result =>
    cases h
    exact .answered hash result
  next => cases h

theorem threadStep_keeps {state : ReceiverState P} {event : Nat × Action P} {after : Phase P} {disk' : Disk}
    (hcareful : Careful parseFloat stateDir state event)
    (h : threadStep host parseFloat stateDir state.disk (state.threads event.1) event.2 =
      some (after, disk')) :
    StepKeeps host parseFloat stateDir state.disk disk' (state.threads event.1) after := by
  obtain ⟨thread, action⟩ := event
  have hstep := stepped_of_threadStep h
  dsimp only at hstep ⊢
  generalize hphase : state.threads thread = before at hstep ⊢
  cases hstep with
  | written payload hash _ hhash hafter =>
    refine ⟨fun other hack => acknowledged_writePayload (hcareful hash hhash ⟨other, hack⟩) hack, ?_, ?_⟩
    · rcases hafter with rfl | ⟨e, rfl⟩
      · exact fun _ hdone => hdone.elim
      · exact fun _ hdone => hdone.elim
    · rintro _ _ _ rfl
      rcases hafter with hafter | ⟨e, hafter⟩
      · cases hafter
      · cases hafter
  | failed _ _ e => exact ⟨fun _ hack => hack, fun _ hdone => hdone.elim, fun _ _ _ heq => by cases heq⟩
  | consumed hash answer result =>
    exact ⟨fun _ hack => hack, fun _ hdone => hdone.elim, fun _ _ _ heq => by cases heq⟩
  | loaded hash result hashes hsuccess =>
    refine ⟨fun _ hack => hack, fun _ hdone => hdone.elim, ?_⟩
    intro _ _ _ heq
    cases heq
    exact hsuccess
  | refused hash result hrefused =>
    exact ⟨fun _ hack => hack, fun _ hdone => absurd hdone.2 hrefused, fun _ _ _ heq => by cases heq⟩
  | saved hash result hashes _ hsave =>
    have hkept := hcareful hash result hashes hphase
    have hload := loadAcknowledged_saved parseFloat hsave
    refine ⟨?_, ?_, fun _ _ _ heq => by cases heq⟩
    · intro other hack
      exact ⟨_, hload, hkept other hack⟩
    · intro other hdone
      right
      rw [← hdone.1]
      exact ⟨_, hload, Finset.mem_insert_self hash hashes⟩
  | answered hash result =>
    exact ⟨fun _ hack => hack, fun _ hdone => .inl hdone, fun _ _ _ heq => by cases heq⟩

/-- Every hash that is saved or answered is acknowledged, and no thread has read the file unless its
consumer succeeded. -/
structure Keeping (host : AdapterHost P) (parseFloat : List Char → P) (stateDir : Directory)
    (state : ReceiverState P) : Prop where
  completed : ∀ thread hash, Completed host (state.threads thread) hash →
    Acknowledged parseFloat stateDir state.disk hash
  loaded : ∀ thread hash result hashes, state.threads thread = .loaded hash result hashes →
    succeeded host result = true

theorem keeping_step {state next : ReceiverState P} {event : Nat × Action P}
    (hkeeping : Keeping host parseFloat stateDir state) (hcareful : Careful parseFloat stateDir state event)
    (h : receiverStep host parseFloat stateDir state event = some next) :
    Keeping host parseFloat stateDir next := by
  unfold receiverStep at h
  obtain ⟨⟨after, disk⟩, hstep, rfl⟩ := Option.map_eq_some_iff.mp h
  have hkeeps := threadStep_keeps hcareful hstep
  refine ⟨?_, ?_⟩
  · intro thread hash hdone
    by_cases heq : thread = event.1
    · rw [heq] at hdone
      dsimp only at hdone
      rw [Function.update_self] at hdone
      rcases hkeeps.completed hash hdone with hbefore | hack
      · exact hkeeps.acknowledged hash (hkeeping.completed event.1 hash hbefore)
      · exact hack
    · dsimp only at hdone
      rw [Function.update_of_ne heq] at hdone
      exact hkeeps.acknowledged hash (hkeeping.completed thread hash hdone)
  · intro thread hash result hashes hphase
    by_cases heq : thread = event.1
    · rw [heq] at hphase
      dsimp only at hphase
      rw [Function.update_self] at hphase
      exact hkeeps.loaded hash result hashes hphase
    · dsimp only at hphase
      rw [Function.update_of_ne heq] at hphase
      exact hkeeping.loaded thread hash result hashes hphase

theorem runReceiver_concat {disk : Disk} {events : List (Nat × Action P)} {event : Nat × Action P}
    {state : ReceiverState P} (h : runReceiver host parseFloat stateDir disk (events ++ [event]) = some state) :
    ∃ mid, runReceiver host parseFloat stateDir disk events = some mid ∧
      receiverStep host parseFloat stateDir mid event = some state := by
  rw [runReceiver, List.foldlM_append] at h
  obtain ⟨mid, hmid, hlast⟩ := Option.bind_eq_some_iff.mp h
  obtain ⟨next, hnext, hend⟩ := Option.bind_eq_some_iff.mp hlast
  cases hend
  exact ⟨mid, hmid, hnext⟩

theorem keeping_run {disk : Disk} {events : List (Nat × Action P)} {state : ReceiverState P}
    (hrun : runReceiver host parseFloat stateDir disk events = some state)
    (hcareful : ∀ front event mid, front ++ [event] <+: events →
      runReceiver host parseFloat stateDir disk front = some mid → Careful parseFloat stateDir mid event) :
    Keeping host parseFloat stateDir state := by
  induction events using List.reverseRecOn generalizing state with
  | nil =>
    cases hrun
    exact ⟨fun _ _ hdone => hdone.elim, fun _ _ _ _ heq => by cases heq⟩
  | append_singleton events event ih =>
    obtain ⟨mid, hmid, hstep⟩ := runReceiver_concat hrun
    have hbefore := ih hmid fun front last state hfront =>
      hcareful front last state (hfront.trans (List.prefix_append _ _))
    exact keeping_step hbefore (hcareful events event mid (List.prefix_refl _) hmid) hstep

/-- In a run of careful steps nothing that was answered with success is missing later. -/
theorem runReceiver_acknowledges {disk : Disk} {events : List (Nat × Action P)} {state : ReceiverState P}
    (hrun : runReceiver host parseFloat stateDir disk events = some state)
    (hcareful : ∀ front event mid, front ++ [event] <+: events →
      runReceiver host parseFloat stateDir disk front = some mid → Careful parseFloat stateDir mid event) :
    (∀ hash, AnsweredWithSuccess host state hash → Acknowledged parseFloat stateDir state.disk hash) ∧
      ∀ payload hashes, payload.lookup "block_hashes" = some (.list (hashes.map .str)) → hashes ≠ [] →
        (∀ hash ∈ hashes, AnsweredWithSuccess host state hash) →
          ∀ answer, verify host parseFloat stateDir payload answer state.disk = consumerVerdict host answer := by
  have hkeeping := keeping_run hrun hcareful
  have hall : ∀ hash, AnsweredWithSuccess host state hash →
      Acknowledged parseFloat stateDir state.disk hash := by
    intro hash hanswered
    obtain ⟨thread, result, hphase, hsuccess⟩ := hanswered
    apply hkeeping.completed thread hash
    rw [hphase]
    exact ⟨rfl, hsuccess⟩
  refine ⟨hall, ?_⟩
  intro payload hashes hpayload hne hanswered answer
  exact verify_of_acknowledged host parseFloat stateDir hpayload hne
    (fun hash hmem => hall hash (hanswered hash hmem)) answer

def rootDisk : Disk := fun location => if location = [] then some .dir else none

def stateFolder : Directory := ⟨["state"], by decide⟩

/-- Two requests without a consumer hook that both read the file before either of them writes it. -/
def crossedEvents : List (Nat × Action F32) :=
  [(0, .writePayload [("hash", .str "a")]), (1, .writePayload [("hash", .str "b")]),
    (0, .callConsumer none), (1, .callConsumer none), (0, .readAcked), (1, .readAcked),
    (0, .writeAcked), (1, .writeAcked), (0, .answer), (1, .answer)]

def answeredHash : Phase F32 → Option (String × Bool)
  | .answered hash result => some (hash, succeeded pythonAdapter result)
  | _ => none

theorem answeredWithSuccess_of_answeredHash {state : ReceiverState F32} {thread : Nat} {hash : String}
    (h : answeredHash (state.threads thread) = some (hash, true)) :
    AnsweredWithSuccess pythonAdapter state hash := by
  cases hphase : state.threads thread with
  | answered other result =>
    rw [hphase] at h
    obtain ⟨rfl, hsuccess⟩ := Prod.mk.inj (Option.some.inj h)
    exact ⟨thread, result, hphase, hsuccess⟩
  | idle | stored _ | consumed _ _ | loaded _ _ _ | saved _ _ | failed _ =>
    rw [hphase] at h
    cases h

/-- The second thread writes what it has read before the first one wrote. -/
theorem crossedEvents_lose_first :
    ∃ state, runReceiver pythonAdapter (fun _ => ⟨0⟩) stateFolder rootDisk crossedEvents = some state ∧
      AnsweredWithSuccess pythonAdapter state "a" ∧ AnsweredWithSuccess pythonAdapter state "b" ∧
      ¬Acknowledged (fun _ => (⟨0⟩ : F32)) stateFolder state.disk "a" := by
  have hrun : ((runReceiver pythonAdapter (fun _ => ⟨0⟩) stateFolder rootDisk crossedEvents).map
      fun state => (answeredHash (state.threads 0), answeredHash (state.threads 1),
        loadAcknowledged (fun _ => (⟨0⟩ : F32)) stateFolder state.disk)) =
      some (some ("a", true), some ("b", true), .ok {"b"}) := by
    decide +kernel
  obtain ⟨state, hstate, hfacts⟩ := Option.map_eq_some_iff.mp hrun
  simp only [Prod.mk.injEq] at hfacts
  obtain ⟨hfirst, hsecond, hload⟩ := hfacts
  refine ⟨state, hstate, answeredWithSuccess_of_answeredHash hfirst,
    answeredWithSuccess_of_answeredHash hsecond, ?_⟩
  intro hack
  obtain ⟨hashes, hagain, hmem⟩ := hack
  cases hload.symm.trans hagain
  exact absurd hmem (by decide)

/-- Whether a step is careful, from what is in the file of the acknowledgements. -/
def isCareful (parseFloat : List Char → P) (stateDir : Directory) (state : ReceiverState P) :
    Nat × Action P → Bool
  | (_, .writePayload payload) =>
    match injectedHash payload, loadAcknowledged parseFloat stateDir state.disk with
    | .ok hash, .ok present =>
      decide (present = ∅ ∨ payloadLocation stateDir state.disk hash ≠ some (ackFile stateDir))
    | _, _ => true
  | (thread, .writeAcked) =>
    match state.threads thread, loadAcknowledged parseFloat stateDir state.disk with
    | .loaded hash _ hashes, .ok present => decide (present ⊆ insert hash hashes)
    | _, _ => true
  | _ => true

theorem careful_of_isCareful {state : ReceiverState P} {event : Nat × Action P}
    (h : isCareful parseFloat stateDir state event = true) : Careful parseFloat stateDir state event := by
  obtain ⟨thread, action⟩ := event
  cases action with
  | writePayload payload =>
    intro hash hinjected hack
    obtain ⟨other, present, hload, hmem⟩ := hack
    rw [isCareful, hinjected, hload] at h
    exact (of_decide_eq_true h).resolve_left (Finset.ne_empty_of_mem hmem)
  | writeAcked =>
    intro hash result hashes hphase other hack
    obtain ⟨present, hload, hmem⟩ := hack
    rw [isCareful, hphase, hload] at h
    exact of_decide_eq_true h hmem
  | callConsumer _ | readAcked | answer => trivial

/-- Two requests of two threads, each of which reads the file after the other one has written it. -/
def orderedEvents : List (Nat × Action F32) :=
  [(0, .writePayload [("hash", .str "a")]), (1, .writePayload [("hash", .str "b")]),
    (1, .callConsumer none), (0, .callConsumer none), (0, .readAcked), (0, .writeAcked),
    (1, .readAcked), (0, .answer), (1, .writeAcked), (1, .answer)]

theorem orderedEvents_careful (front : List (Nat × Action F32)) (event : Nat × Action F32)
    (mid : ReceiverState F32) (hfront : front ++ [event] <+: orderedEvents)
    (hmid : runReceiver pythonAdapter (fun _ => ⟨0⟩) stateFolder rootDisk front = some mid) :
    Careful (fun _ => (⟨0⟩ : F32)) stateFolder mid event := by
  have hchecks : ∀ k < orderedEvents.length, ((runReceiver pythonAdapter (fun _ => ⟨0⟩) stateFolder rootDisk
      (orderedEvents.take k)).bind fun state => (orderedEvents[k]?).map
        (isCareful (fun _ => (⟨0⟩ : F32)) stateFolder state)) = some true := by
    decide +kernel
  have htake := List.prefix_iff_eq_take.mp ((List.prefix_append front [event]).trans hfront)
  obtain ⟨rest, hrest⟩ := hfront
  have hevent : orderedEvents[front.length]? = some event := by
    rw [← hrest]
    simp
  have hcheck := hchecks front.length (List.getElem?_eq_some_iff.mp hevent).1
  rw [← htake, hmid, Option.bind_some, hevent, Option.map_some] at hcheck
  exact careful_of_isCareful (Option.some.inj hcheck)

theorem orderedEvents_acknowledged :
    ∃ state, runReceiver pythonAdapter (fun _ => ⟨0⟩) stateFolder rootDisk orderedEvents = some state ∧
      (∀ hash ∈ ["a", "b"], AnsweredWithSuccess pythonAdapter state hash ∧
        Acknowledged (fun _ => (⟨0⟩ : F32)) stateFolder state.disk hash) ∧
      ∀ answer, verify pythonAdapter (fun _ => (⟨0⟩ : F32)) stateFolder
        [("block_hashes", .list [.str "a", .str "b"])] answer state.disk = consumerVerdict pythonAdapter answer := by
  have hrun : ((runReceiver pythonAdapter (fun _ => ⟨0⟩) stateFolder rootDisk orderedEvents).map
      fun state => (answeredHash (state.threads 0), answeredHash (state.threads 1))) =
      some (some ("a", true), some ("b", true)) := by
    decide +kernel
  obtain ⟨state, hstate, hboth⟩ := Option.map_eq_some_iff.mp hrun
  obtain ⟨hfirst, hsecond⟩ := Prod.mk.inj hboth
  have hanswered : ∀ hash ∈ ["a", "b"], AnsweredWithSuccess pythonAdapter state hash := by
    rw [List.forall_mem_cons, List.forall_mem_singleton]
    exact ⟨answeredWithSuccess_of_answeredHash hfirst, answeredWithSuccess_of_answeredHash hsecond⟩
  obtain ⟨hall, hverify⟩ := runReceiver_acknowledges hstate orderedEvents_careful
  exact ⟨state, hstate, fun hash hmem => ⟨hanswered hash hmem, hall hash (hanswered hash hmem)⟩,
    hverify _ ["a", "b"] rfl (List.cons_ne_nil _ _) hanswered⟩

end Runs

end PermeantOS
