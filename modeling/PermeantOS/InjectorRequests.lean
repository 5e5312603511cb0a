import PermeantOS.DaemonFailures

namespace PermeantOS

variable {F : Type}

/-- `KVConnectorBase_V1::new` under the two environment variables that it reads. -/
def KVConnectorBaseV1.new (injectorMode injectorCmd : Option String) (blockSize : Usize) :
    KVConnectorBaseV1 F :=
  match injectorMode with
  | some value =>
    if value.toList.map Char.toLower = "json_command".toList then
      ⟨blockSize, .jsonCommand (injectorCmd.getD "")⟩
    else ⟨blockSize, .mock ∅⟩
  | none => ⟨blockSize, .mock ∅⟩

theorem KVConnectorBaseV1.new_cases (injectorMode injectorCmd : Option String) (blockSize : Usize) :
    (∃ command, KVConnectorBaseV1.new (F := F) injectorMode injectorCmd blockSize =
      ⟨blockSize, .jsonCommand command⟩) ∨
    KVConnectorBaseV1.new (F := F) injectorMode injectorCmd blockSize = ⟨blockSize, .mock ∅⟩ := by
  unfold KVConnectorBaseV1.new
  split
  next =>
    split
    next => exact Or.inl ⟨_, rfl⟩
    next => exact Or.inr rfl
  next => exact Or.inr rfl

def DaemonState.start (injectorMode injectorCmd : Option String) : DaemonState F :=
  ⟨.new .default, .new injectorMode injectorCmd 256⟩

def InjectorRequest.blockSize : InjectorRequest F → Usize
  | .injectBlock blockSize _ _ => blockSize
  | .verifyContinuation blockSize _ => blockSize

def injectRequest (host : Host F) (blockSize : Usize) (blocks : BlockMap F) (hash : String) :
    InjectorRequest F :=
  let tensors := (blocks.lookup hash).getD ∅
  .injectBlock blockSize hash <| (host.hashOrder.keys tensors).filterMap fun name =>
    (tensors.lookup name).map fun tensor => ⟨name, tensor.shape, tensor.data⟩

/-- The requests of the injection loop, up to and with the first that fails. -/
def injectRequests (host : Host F) (command : String) (blockSize : Usize) (blocks : BlockMap F) :
    List String → List (InjectorRequest F)
  | [] => []
  | hash :: rest =>
    let request := injectRequest host blockSize blocks hash
    if runInjectorCommand host.injectorHost command request = .ok () then
      request :: injectRequests host command blockSize blocks rest
    else [request]

/-- The request of the commit, once the blocks are injected. -/
def verifyRequests (host : Host F) (command : String) (blockSize : Usize) (header : UsxfHeader)
    (injects : List (InjectorRequest F)) : MigrationMessage → List (InjectorRequest F)
  | .commitRequest =>
    if ∀ request ∈ injects, runInjectorCommand host.injectorHost command request = .ok () then
      [.verifyContinuation blockSize header.blockHashes]
    else []
  | _ => []

/-- What a session asks of the injector command, from the injection on. A Mock backend and a blank
command are asked nothing. -/
def issuedRequests (host : Host F) (injector : KVConnectorBaseV1 F) (header : UsxfHeader)
    (blocks : BlockMap F) (final : MigrationMessage) : List (InjectorRequest F) :=
  match injector.backend with
  | .mock _ => []
  | .jsonCommand command =>
    if trimIsEmpty command = true then []
    else
      let injects := injectRequests host command injector.blockSize blocks (host.hashOrder.keys blocks)
      injects ++ verifyRequests host command injector.blockSize header injects final

section Adequacy

variable {host : Host F} {command : String} {blockSize : Usize} {blocks : BlockMap F}

theorem requireCommand_ok {command : String} (h : trimIsEmpty command = false) :
    requireCommand command = .ok () := by
  rw [requireCommand, bailIf_ok_iff, h]
  simp

theorem injectBlockTensors_command (h : trimIsEmpty command = false) (hash : String) :
    (⟨blockSize, .jsonCommand command⟩ : KVConnectorBaseV1 F).injectBlockTensors host.injectorHost
        host.hashOrder hash ((blocks.lookup hash).getD ∅) =
      (runInjectorCommand host.injectorHost command (injectRequest host blockSize blocks hash)).map
        fun _ => ⟨blockSize, .jsonCommand command⟩ := by
  simp only [KVConnectorBaseV1.injectBlockTensors]
  rw [except_bind_of_ok (requireCommand_ok h), injectRequest]
  cases runInjectorCommand host.injectorHost command _ with
  | error fault => rfl
  | ok => rfl

/-- The injection loop gets through exactly where every request it issues succeeds. -/
theorem injectBlocks_command (h : trimIsEmpty command = false) (hashes : List String) :
    (∃ injector, injectBlocks host blocks hashes ⟨blockSize, .jsonCommand command⟩ = .ok injector) ↔
      ∀ request ∈ injectRequests host command blockSize blocks hashes,
        runInjectorCommand host.injectorHost command request = .ok () := by
  induction hashes with
  | nil => simp [injectBlocks, injectRequests]
  | cons hash rest ih =>
    rw [injectBlocks, injectBlockTensors_command h, injectRequests]
    cases hrun : runInjectorCommand host.injectorHost command
        (injectRequest host blockSize blocks hash) with
    | error fault => simp [Except.map, bind, Except.bind, hrun]
    | ok =>
      rw [if_pos rfl, List.forall_mem_cons, ← ih, hrun]
      simp only [Except.map, true_and]
      rfl

/-- The same host with another command behind it. -/
def Host.withRun (host : Host F)
    (run : String → InjectorRequest F → Fallible (Bool × List UInt8 × String)) : Host F :=
  { host with injectorHost := { host.injectorHost with run } }

theorem runInjectorCommand_congr
    {run : String → InjectorRequest F → Fallible (Bool × List UInt8 × String)}
    {request : InjectorRequest F} (h : run command request = host.injectorHost.run command request) :
    runInjectorCommand (host.withRun run).injectorHost command request =
      runInjectorCommand host.injectorHost command request := by
  unfold runInjectorCommand
  show (run command request >>= _) = _
  rw [h]
  rfl

/-- The injection loop asks nothing but the listed requests. -/
theorem injectBlocks_congr (h : trimIsEmpty command = false)
    {run : String → InjectorRequest F → Fallible (Bool × List UInt8 × String)} {hashes : List String}
    (hrun : ∀ request ∈ injectRequests host command blockSize blocks hashes,
      run command request = host.injectorHost.run command request) :
    injectBlocks (host.withRun run) blocks hashes ⟨blockSize, .jsonCommand command⟩ =
      injectBlocks host blocks hashes ⟨blockSize, .jsonCommand command⟩ := by
  induction hashes with
  | nil => rfl
  | cons hash rest ih =>
    have hfirst : injectRequest host blockSize blocks hash ∈
        injectRequests host command blockSize blocks (hash :: rest) := by
      rw [injectRequests]
      split <;> simp
    have hsame : runInjectorCommand (host.withRun run).injectorHost command
        (injectRequest host blockSize blocks hash) =
          runInjectorCommand host.injectorHost command (injectRequest host blockSize blocks hash) :=
      runInjectorCommand_congr (hrun _ hfirst)
    rw [injectBlocks, injectBlocks, injectBlockTensors_command h, injectBlockTensors_command h]
    rw [show injectRequest (host.withRun run) blockSize blocks hash =
      injectRequest host blockSize blocks hash from rfl, hsame]
    cases hok : runInjectorCommand host.injectorHost command
        (injectRequest host blockSize blocks hash) with
    | error fault => rfl
    | ok =>
      refine ih ?_
      intro request hmem
      apply hrun
      rw [injectRequests, if_pos hok]
      exact List.mem_cons_of_mem _ hmem

theorem injectBlockTensors_keeps {injector : KVConnectorBaseV1 F} {hash : String}
    {tensors : TensorMap F}
    (h : (⟨blockSize, .jsonCommand command⟩ : KVConnectorBaseV1 F).injectBlockTensors
      host.injectorHost host.hashOrder hash tensors = .ok injector) :
    injector = ⟨blockSize, .jsonCommand command⟩ := by
  simp only [KVConnectorBaseV1.injectBlockTensors] at h
  obtain ⟨_, h⟩ := except_bind_unit_ok_iff.mp h
  obtain ⟨_, h⟩ := except_bind_unit_ok_iff.mp h
  cases h
  rfl

/-- A command backend has no state that the injection loop could change. -/
theorem injectStaged_command (host : Host F) (blocks : BlockMap F) {s : Session F}
    (hs : s.injector = ⟨blockSize, .jsonCommand command⟩) (hashes : List String) :
    (injectStaged host blocks hashes).run s =
      match injectBlocks host blocks hashes s.injector with
      | .ok _ => .ok () s
      | .error fault => .error fault s := by
  induction hashes with
  | nil => rfl
  | cons hash rest ih =>
    rw [injectStaged, injectBlocks]
    cases h : s.injector.injectBlockTensors host.injectorHost host.hashOrder hash
        ((blocks.lookup hash).getD ∅) with
    | error fault =>
      have hrun : (injectBlock host hash ((blocks.lookup hash).getD ∅)).run s = .error fault s := by
        rw [injectBlock, run_get_bind, h]
        rfl
      rw [run_bind_of_error hrun]
      rfl
    | ok injector =>
      have hsame : injector = s.injector := by
        rw [hs] at h ⊢
        exact injectBlockTensors_keeps h
      subst hsame
      have hrun : (injectBlock host hash ((blocks.lookup hash).getD ∅)).run s = .ok () s := by
        rw [injectBlock, run_get_bind, h]
        rfl
      rw [run_bind_of_ok hrun, ih]
      rfl

theorem injectStaged_commit_of_command {s : Session F}
    (hs : s.injector = ⟨blockSize, .jsonCommand command⟩) (h : trimIsEmpty command = false)
    {header : UsxfHeader} {final : MigrationMessage}
    {run : String → InjectorRequest F → Fallible (Bool × List UInt8 × String)}
    (hrun : ∀ request ∈ issuedRequests host s.injector header blocks final,
      run command request = host.injectorHost.run command request) :
    (do injectStaged (host.withRun run) blocks (host.hashOrder.keys blocks)
        commit (host.withRun run) header final : Daemon F Unit).run s =
      (do injectStaged host blocks (host.hashOrder.keys blocks)
          commit host header final : Daemon F Unit).run s := by
  simp only [hs, issuedRequests, h, Bool.false_eq_true, if_false] at hrun
  have hinject := injectBlocks_congr h fun request hmem =>
    hrun request (List.mem_append_left _ hmem)
  have hleft := injectStaged_command (host.withRun run) blocks hs (host.hashOrder.keys blocks)
  have hright := injectStaged_command host blocks hs (host.hashOrder.keys blocks)
  rw [hs] at hleft hright
  rw [hinject] at hleft
  cases hblocks : injectBlocks host blocks (host.hashOrder.keys blocks)
      ⟨blockSize, .jsonCommand command⟩ with
  | error fault =>
    rw [hblocks] at hleft hright
    rw [run_bind_of_error hleft, run_bind_of_error hright]
  | ok injector =>
    rw [hblocks] at hleft hright
    rw [run_bind_of_ok hleft, run_bind_of_ok hright]
    cases final with
    | commitRequest =>
      have hall := (injectBlocks_command h _).mp ⟨injector, hblocks⟩
      have hverify := runInjectorCommand_congr (hrun (.verifyContinuation blockSize header.blockHashes)
        (List.mem_append_right _ (by rw [verifyRequests, if_pos hall]; simp)))
      rw [commit, commit, run_get_bind, run_get_bind, hs]
      simp only [KVConnectorBaseV1.verifyContinuation]
      rw [hverify]
    | _ => rfl

/-- A Mock backend, or a blank command. -/
def AsksNothing (injector : KVConnectorBaseV1 F) : Prop :=
  ∀ command, injector.backend = .jsonCommand command → trimIsEmpty command = true

theorem requireCommand_blank {command : String} (h : trimIsEmpty command = true) :
    ∃ fault, requireCommand command = .error fault := by
  cases hrequire : requireCommand command with
  | error fault => exact ⟨fault, rfl⟩
  | ok =>
    rw [requireCommand, bailIf_ok_iff] at hrequire
    exact absurd h hrequire

section Quiet

variable {injector next : KVConnectorBaseV1 F}
  {run : String → InjectorRequest F → Fallible (Bool × List UInt8 × String)}
  {hash : String} {tensors : TensorMap F}

theorem AsksNothing.injectBlockTensors (hquiet : AsksNothing injector) :
    injector.injectBlockTensors (host.withRun run).injectorHost host.hashOrder hash tensors =
      injector.injectBlockTensors host.injectorHost host.hashOrder hash tensors := by
  unfold KVConnectorBaseV1.injectBlockTensors
  cases hbackend : injector.backend with
  | mock cache => rfl
  | jsonCommand command =>
    obtain ⟨fault, hblank⟩ := requireCommand_blank (hquiet command hbackend)
    dsimp only
    rw [hblank]
    rfl

theorem AsksNothing.kept (hquiet : AsksNothing injector)
    (h : injector.injectBlockTensors host.injectorHost host.hashOrder hash tensors = .ok next) :
    AsksNothing next := by
  unfold KVConnectorBaseV1.injectBlockTensors at h
  cases hbackend : injector.backend with
  | mock cache =>
    rw [hbackend] at h
    cases h
    intro command hcommand
    cases hcommand
  | jsonCommand command =>
    obtain ⟨fault, hblank⟩ := requireCommand_blank (hquiet command hbackend)
    rw [hbackend] at h
    dsimp only at h
    rw [hblank] at h
    cases h

theorem AsksNothing.verifyContinuation (hquiet : AsksNothing injector) (hashes : List String) :
    injector.verifyContinuation (host.withRun run).injectorHost hashes =
      injector.verifyContinuation host.injectorHost hashes := by
  unfold KVConnectorBaseV1.verifyContinuation
  cases hbackend : injector.backend with
  | mock cache => rfl
  | jsonCommand command =>
    obtain ⟨fault, hblank⟩ := requireCommand_blank (hquiet command hbackend)
    dsimp only
    rw [hblank]
    rfl

theorem AsksNothing.injectBlock {s : Session F} (hquiet : AsksNothing s.injector) :
    (injectBlock (host.withRun run) hash tensors).run s = (PermeantOS.injectBlock host hash tensors).run s := by
  rw [PermeantOS.injectBlock, PermeantOS.injectBlock, run_get_bind, run_get_bind,
    show (host.withRun run).hashOrder = host.hashOrder from rfl, hquiet.injectBlockTensors]

theorem AsksNothing.injectBlock_ok {s t : Session F} (hquiet : AsksNothing s.injector)
    (h : (PermeantOS.injectBlock host hash tensors).run s = .ok () t) : AsksNothing t.injector := by
  rw [PermeantOS.injectBlock, run_get_bind] at h
  obtain ⟨injector, hinjector, h⟩ := run_liftExcept_bind_ok_iff.mp h
  cases h
  exact hquiet.kept hinjector

/-- Without a command to ask, another one makes no difference. -/
theorem AsksNothing.run_congr {s : Session F} (hquiet : AsksNothing s.injector) (header : UsxfHeader)
    (final : MigrationMessage) (hashes : List String) :
    (do injectStaged (host.withRun run) blocks hashes
        commit (host.withRun run) header final : Daemon F Unit).run s =
      (do injectStaged host blocks hashes
          commit host header final : Daemon F Unit).run s := by
  induction hashes generalizing s with
  | nil =>
    rw [injectStaged, injectStaged, pure_bind, pure_bind]
    cases final with
    | commitRequest => rw [commit, commit, run_get_bind, run_get_bind, hquiet.verifyContinuation]
    | _ => rfl
  | cons hash rest ih =>
    rw [injectStaged, injectStaged, bind_assoc, bind_assoc]
    cases hrun : (PermeantOS.injectBlock host hash ((blocks.lookup hash).getD ∅)).run s with
    | error fault t => rw [run_bind_of_error hrun, run_bind_of_error (hquiet.injectBlock.trans hrun)]
    | ok _ t =>
      rw [run_bind_of_ok hrun, run_bind_of_ok (hquiet.injectBlock.trans hrun)]
      exact ih (hquiet.injectBlock_ok hrun)

end Quiet

/-- From the injection on, a session asks a command nothing but the issued requests: another command that
answers these alike makes no difference. -/
theorem injectStaged_commit_congr {s : Session F} {header : UsxfHeader} {final : MigrationMessage}
    {run : String → InjectorRequest F → Fallible (Bool × List UInt8 × String)}
    (hrun : ∀ command, ∀ request ∈ issuedRequests host s.injector header blocks final,
      run command request = host.injectorHost.run command request) :
    (do injectStaged (host.withRun run) blocks (host.hashOrder.keys blocks)
        commit (host.withRun run) header final : Daemon F Unit).run s =
      (do injectStaged host blocks (host.hashOrder.keys blocks)
          commit host header final : Daemon F Unit).run s := by
  by_cases hquiet : AsksNothing s.injector
  · exact hquiet.run_congr header final _
  unfold AsksNothing at hquiet
  push Not at hquiet
  obtain ⟨command, hbackend, hnotBlank⟩ := hquiet
  have hinjector : s.injector = ⟨s.injector.blockSize, .jsonCommand command⟩ := by rw [← hbackend]
  exact injectStaged_commit_of_command hinjector (Bool.eq_false_iff.mpr hnotBlank) (hrun command)

end Adequacy

section BlockSize

variable {host : Host F} {command : String} {blockSize : Usize} {blocks : BlockMap F}

theorem injectRequests_blockSize {hashes : List String} :
    ∀ request ∈ injectRequests host command blockSize blocks hashes, request.blockSize = blockSize := by
  induction hashes with
  | nil => simp [injectRequests]
  | cons hash rest ih =>
    rw [injectRequests]
    split
    next => exact List.forall_mem_cons.mpr ⟨rfl, ih⟩
    next => exact List.forall_mem_singleton.mpr rfl

/-- Every request carries the block size that the injector was made with. -/
theorem issuedRequests_blockSize (host : Host F) (injector : KVConnectorBaseV1 F) (header : UsxfHeader)
    (blocks : BlockMap F) (final : MigrationMessage) :
    ∀ request ∈ issuedRequests host injector header blocks final,
      request.blockSize = injector.blockSize := by
  intro request hmem
  unfold issuedRequests at hmem
  split at hmem
  next => cases hmem
  next command _ =>
    split at hmem
    next => cases hmem
    next =>
      rcases List.mem_append.mp hmem with hmem | hmem
      · exact injectRequests_blockSize request hmem
      · unfold verifyRequests at hmem
        split at hmem
        next =>
          split at hmem
          next =>
            obtain rfl := List.mem_singleton.mp hmem
            rfl
          next => cases hmem
        next => cases hmem

/-- A command is asked something exactly where there is a block to inject or a commit to verify. -/
theorem issuedRequests_ne_nil_iff (host : Host F) (blockSize : Usize) (header : UsxfHeader)
    (blocks : BlockMap F) (final : MigrationMessage) (h : trimIsEmpty command = false) :
    issuedRequests host ⟨blockSize, .jsonCommand command⟩ header blocks final ≠ [] ↔
      host.hashOrder.keys blocks ≠ [] ∨ final = .commitRequest := by
  simp only [issuedRequests, h, Bool.false_eq_true, if_false]
  cases hkeys : host.hashOrder.keys blocks with
  | nil =>
    cases final with
    | commitRequest => simp [injectRequests, verifyRequests]
    | _ => simp [injectRequests, verifyRequests]
  | cons hash rest =>
    have hne : injectRequests host command blockSize blocks (hash :: rest) ≠ [] := by
      rw [injectRequests]
      split <;> simp
    simp [hne]

end BlockSize

section Run

/-- A command backend stays as it is. -/
def KeepsCommand (s t : Session F) : Prop :=
  ∀ blockSize command, s.injector = ⟨blockSize, .jsonCommand command⟩ → t.injector = s.injector

variable [F32Bits F] [F32Arith F] {host : Host F} {daemon : DaemonState F}

theorem handleMigrationConnection_keepsCommand (host : Host F) :
    Keeps KeepsCommand (handleMigrationConnection host) := by
  intro s blockSize command hs
  rcases staged_or_quiet host s with ⟨⟨st⟩⟩ | hquiet
  swap
  · exact hquiet.1
  rw [handleMigrationConnection_of_staged st]
  have hinject := injectStaged_command host st.staging.accumulatedBlocks
    (s := s.advance st.rest st.answers) hs (host.hashOrder.keys st.staging.accumulatedBlocks)
  split at hinject
  next =>
    rw [run_bind_of_ok hinject]
    cases hcommit : (commit host st.header st.final).run (s.advance st.rest st.answers) with
    | error fault t =>
      rw [leftState_error, commit_error hcommit]
      rfl
    | ok _ t =>
      obtain ⟨_, _, _, rfl⟩ := commit_run_ok_iff.mp hcommit
      rfl
  next fault _ =>
    rw [run_bind_of_error hinject]
    rfl

/-- The injector of a command-backed daemon is the one it was started with, after any connections. -/
theorem runDaemon_injector {blockSize : Usize} {command : String}
    (h : daemon.injector = ⟨blockSize, .jsonCommand command⟩) (connections : List Connection) :
    (runDaemon host daemon connections).injector = ⟨blockSize, .jsonCommand command⟩ := by
  induction connections generalizing daemon with
  | nil => exact h
  | cons connection rest ih =>
    rw [runDaemon]
    apply ih
    exact (handleMigrationConnection_keepsCommand host (connection.start daemon) _ _ h).trans h

def StagedSession.requests {s : Session F} (st : StagedSession host s) : List (InjectorRequest F) :=
  issuedRequests host s.injector st.header st.staging.accumulatedBlocks st.final

section WithRun

variable {s : Session F} {run : String → InjectorRequest F → Fallible (Bool × List UInt8 × String)}

theorem Stages.withRun {header : UsxfHeader} {staging last : Staging F} {chunks : List PayloadChunk}
    (h : Stages host header staging chunks last) : Stages (host.withRun run) header staging chunks last := by
  induction h with
  | nil => exact .nil
  | cons hcrc hstage _ ih => exact .cons hcrc hstage ih

def StagedSession.withRun (st : StagedSession host s)
    (run : String → InjectorRequest F → Fallible (Bool × List UInt8 × String)) :
    StagedSession (host.withRun run) s :=
  ⟨st.modelArchitecture, st.attentionType, st.seqLen, st.envelope, st.header, st.chunks, st.binding, st.final,
    st.rest, st.staging, st.inbox_eq, st.admitted, st.opens, st.counted, st.staged.withRun, st.bound, st.unbound,
    st.delivered⟩

/-- A session asks the command nothing but its requests. -/
theorem StagedSession.run_congr (st : StagedSession host s)
    (hrun : ∀ command, ∀ request ∈ st.requests, run command request = host.injectorHost.run command request) :
    (handleMigrationConnection (host.withRun run)).run s = (handleMigrationConnection host).run s := by
  rw [handleMigrationConnection_of_staged (st.withRun run), handleMigrationConnection_of_staged st]
  exact injectStaged_commit_congr hrun

end WithRun

theorem StagedSession.keys_eq_nil_iff {s : Session F} (st : StagedSession host s) :
    host.hashOrder.keys st.staging.accumulatedBlocks = [] ↔ st.chunks = [] := by
  rw [List.eq_nil_iff_forall_not_mem]
  simp only [host.hashOrder.mem_keys_iff, st.staged.mem_blocks_iff]
  constructor
  · intro h
    apply List.eq_nil_iff_forall_not_mem.mpr
    intro chunk hchunk
    obtain ⟨hblock, _⟩ := mem_grid_iff.mp (st.staged.forall_accepted chunk hchunk).position
    exact h _ (Or.inr ⟨chunk, hchunk, List.getElem?_eq_getElem hblock⟩)
  · intro h hash
    rw [h]
    simp [Staging.empty, Finmap.notMem_empty]

/-- A session under a command asks it something exactly where it has chunks or asks for the commit,
and then under the injector's block size. -/
theorem StagedSession.requests_command_iff {s : Session F} (st : StagedSession host s)
    {blockSize : Usize} {command : String} (hs : s.injector = ⟨blockSize, .jsonCommand command⟩)
    (h : trimIsEmpty command = false) (size : Usize) :
    (∀ request ∈ st.requests, request.blockSize = size) ↔
      (st.chunks ≠ [] ∨ st.final = .commitRequest → size = blockSize) := by
  have hsizes := issuedRequests_blockSize host s.injector st.header st.staging.accumulatedBlocks
    st.final
  have hne := issuedRequests_ne_nil_iff host blockSize st.header st.staging.accumulatedBlocks
    st.final h
  rw [← hs, ne_eq (host.hashOrder.keys _), st.keys_eq_nil_iff] at hne
  constructor
  · intro hall hasks
    obtain ⟨request, hmem⟩ := List.exists_mem_of_ne_nil _ (hne.mpr hasks)
    rw [← hall request hmem, hsizes request hmem, hs]
  · intro hsize request hmem
    have hasks := hne.mp (List.ne_nil_of_mem hmem)
    rw [hsizes request hmem, hsize hasks, hs]

/-- The requests of a session carry the block size of its header exactly where that is 256, which the
daemon is started with, or where no command is asked anything. The daemon asks nothing else: another command
that answers the requests alike makes no difference. -/
theorem requests_blockSize_iff (injectorMode injectorCmd : Option String)
    (earlier : List Connection) (connection : Connection)
    (st : StagedSession host
      (connection.start (runDaemon host (.start injectorMode injectorCmd) earlier))) :
    ((∀ request ∈ st.requests, request.blockSize = st.header.blockSize) ↔
      ∀ command,
        (KVConnectorBaseV1.new injectorMode injectorCmd 256 : KVConnectorBaseV1 F).backend =
          .jsonCommand command →
        trimIsEmpty command = false → st.chunks ≠ [] ∨ st.final = .commitRequest →
          st.header.blockSize = 256) ∧
    ∀ run : String → InjectorRequest F → Fallible (Bool × List UInt8 × String),
      (∀ command, ∀ request ∈ st.requests, run command request = host.injectorHost.run command request) →
        serve (host.withRun run) (runDaemon host (.start injectorMode injectorCmd) earlier) connection =
          serve host (runDaemon host (.start injectorMode injectorCmd) earlier) connection := by
  refine ⟨?_, fun run hrun => congrArg leftState (st.run_congr hrun)⟩
  rcases KVConnectorBaseV1.new_cases (F := F) injectorMode injectorCmd 256 with ⟨command, hnew⟩ | hnew
  · have hinjector : (runDaemon host (.start injectorMode injectorCmd) earlier).injector =
        ⟨256, .jsonCommand command⟩ := runDaemon_injector hnew earlier
    rw [hnew]
    cases hblank : trimIsEmpty command with
    | true =>
      have hnone : st.requests = [] := by
        rw [StagedSession.requests]
        show issuedRequests host (runDaemon host _ earlier).injector _ _ _ = []
        rw [hinjector, issuedRequests]
        simp only [hblank, if_true]
      simp [hnone, hblank]
    | false =>
      rw [st.requests_command_iff hinjector hblank]
      simp [hblank]
  · obtain ⟨orchestrator, cache, hrun, _⟩ := runDaemon_mock host (.new .default) 256 ∅ earlier
    have hstart : DaemonState.start (F := F) injectorMode injectorCmd =
        .mock (.new .default) 256 ∅ := by
      rw [DaemonState.start, hnew]
      rfl
    have hinjector : (runDaemon host (.start injectorMode injectorCmd) earlier).injector =
        ⟨256, .mock cache⟩ := by
      rw [hstart, hrun]
      rfl
    have hnone : st.requests = [] := by
      rw [StagedSession.requests]
      show issuedRequests host (runDaemon host _ earlier).injector _ _ _ = []
      rw [hinjector]
      rfl
    rw [hnone, hnew]
    simp

end Run

def commandSession : StagedSession (F := F32) testRecording.host
    (Connection.start ⟨oneTokenInbox testEntry (List.replicate 4 ⟨0⟩) .commitRequest, fun _ => true⟩
      (.start (some "json_command") (some "python3 adapters/pytorch_runtime_bridge.py"))) :=
  oneTokenSession (List.mem_singleton_self testEntry) rfl rfl .commitRequest (by simp) _

/-- Its blocks of one token are announced as blocks of 256. -/
theorem commandSession_other_blockSize :
    commandSession.header.Valid ∧
      ¬∀ request ∈ commandSession.requests,
        request.blockSize = commandSession.header.blockSize := by
  refine ⟨oneTokenHeader_valid "test", ?_⟩
  have hinjector : (DaemonState.start (F := F32) (some "json_command")
      (some "python3 adapters/pytorch_runtime_bridge.py")).injector =
        ⟨256, .jsonCommand "python3 adapters/pytorch_runtime_bridge.py"⟩ := by
    have hmode : "json_command".toList.map Char.toLower = "json_command".toList := by decide
    simp only [DaemonState.start, KVConnectorBaseV1.new, hmode, if_true, Option.getD_some]
  rw [commandSession.requests_command_iff hinjector (by decide)]
  intro h
  exact absurd (h (Or.inr rfl)) (by decide)

end PermeantOS
