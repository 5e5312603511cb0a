import PermeantOS.HttpBridge
import PermeantOS.StepRuns

namespace PermeantOS

variable {P : Type} {host : BridgeHost P}

/-- The bytes that have gone through a client's lane: read from the source, sent to the target, taken from
the target and delivered to the source. -/
structure Flow where
  asked : List UInt8
  forwarded : List UInt8
  answered : List UInt8
  delivered : List UInt8

def flow (source target : TcpStream) : Flow :=
  ⟨source.inbound.received, target.outbound, target.inbound.received, source.outbound⟩

def Flow.empty : Flow := ⟨[], [], [], []⟩

/-- Both directions carry what came, in order, and nothing else. -/
structure Relayed (flow : Flow) : Prop where
  forth : flow.forwarded <+: flow.asked
  back : flow.delivered <+: flow.answered

/-- Whole frames went forth and whole answers came back, `unsent` and `undelivered` being on the way. -/
structure Exchanged (host : BridgeHost P) (flow : Flow) (frames answers : List (List UInt8))
    (unsent undelivered : List UInt8) : Prop where
  frames_whole : ∀ frame ∈ frames, WholeFrame host.clientMaxFrameBytes frame
  answers_whole : ∀ answer ∈ answers, WholeFrame host.serverMaxFrameBytes answer
  asked : flow.asked = frames.flatten ++ unsent
  forwarded : flow.forwarded = frames.flatten
  answered : flow.answered = answers.flatten ++ undelivered
  delivered : flow.delivered = answers.flatten

def Ledger (host : BridgeHost P) (flow : Flow) (unsent undelivered : List UInt8) (outstanding : Nat) : Prop :=
  ∃ frames answers, Exchanged host flow frames answers unsent undelivered ∧
    frames.length = answers.length + outstanding

theorem ledger_empty : Ledger host .empty [] [] 0 :=
  ⟨[], [], ⟨by simp, by simp, rfl, rfl, rfl, rfl⟩, rfl⟩

theorem Ledger.relayed {flow : Flow} {unsent undelivered : List UInt8} {outstanding : Nat}
    (h : Ledger host flow unsent undelivered outstanding) : Relayed flow := by
  obtain ⟨frames, answers, hexchanged, _⟩ := h
  refine ⟨?_, ?_⟩
  · rw [hexchanged.forwarded, hexchanged.asked]
    exact List.prefix_append _ _
  · rw [hexchanged.delivered, hexchanged.answered]
    exact List.prefix_append _ _

theorem relayed_empty : Relayed .empty := ⟨List.prefix_refl _, List.prefix_refl _⟩

section Moves

variable {asked forwarded answered delivered unsent undelivered : List UInt8} {outstanding : Nat}

/-- More of the next frame is read. -/
theorem Ledger.ask (h : Ledger host ⟨asked, forwarded, answered, delivered⟩ unsent undelivered outstanding)
    (chunk : List UInt8) : Ledger host ⟨asked ++ chunk, forwarded, answered, delivered⟩ (unsent ++ chunk)
      undelivered outstanding := by
  obtain ⟨frames, answers, hexchanged, hcount⟩ := h
  refine ⟨frames, answers, ⟨hexchanged.frames_whole, hexchanged.answers_whole, ?_, hexchanged.forwarded,
    hexchanged.answered, hexchanged.delivered⟩, hcount⟩
  have hasked : asked = frames.flatten ++ unsent := hexchanged.asked
  rw [hasked, List.append_assoc]

/-- A whole frame is sent to the target. -/
theorem Ledger.forward {frame : List UInt8} (hwhole : WholeFrame host.clientMaxFrameBytes frame)
    (h : Ledger host ⟨asked, forwarded, answered, delivered⟩ frame undelivered outstanding) :
    Ledger host ⟨asked, forwarded ++ frame, answered, delivered⟩ [] undelivered (outstanding + 1) := by
  obtain ⟨frames, answers, hexchanged, hcount⟩ := h
  have hflatten : (frames ++ [frame]).flatten = frames.flatten ++ frame := by simp
  refine ⟨frames ++ [frame], answers, ⟨?_, hexchanged.answers_whole, ?_, ?_, hexchanged.answered,
    hexchanged.delivered⟩, ?_⟩
  · intro other hmem
    rcases List.mem_append.mp hmem with hold | hnew
    · exact hexchanged.frames_whole other hold
    · rw [List.mem_singleton.mp hnew]
      exact hwhole
  · rw [hflatten, List.append_nil]
    exact hexchanged.asked
  · have hforwarded : forwarded = frames.flatten := hexchanged.forwarded
    rw [hflatten, hforwarded]
  · rw [List.length_append, List.length_singleton]
    omega

/-- More of the next answer is taken from the target. -/
theorem Ledger.answer (h : Ledger host ⟨asked, forwarded, answered, delivered⟩ unsent undelivered outstanding)
    (chunk : List UInt8) : Ledger host ⟨asked, forwarded, answered ++ chunk, delivered⟩ unsent
      (undelivered ++ chunk) outstanding := by
  obtain ⟨frames, answers, hexchanged, hcount⟩ := h
  refine ⟨frames, answers, ⟨hexchanged.frames_whole, hexchanged.answers_whole, hexchanged.asked,
    hexchanged.forwarded, ?_, hexchanged.delivered⟩, hcount⟩
  have hanswered : answered = answers.flatten ++ undelivered := hexchanged.answered
  rw [hanswered, List.append_assoc]

/-- A whole answer is delivered to the source. -/
theorem Ledger.deliver {answer : List UInt8} (hwhole : WholeFrame host.serverMaxFrameBytes answer)
    (h : Ledger host ⟨asked, forwarded, answered, delivered⟩ unsent answer (outstanding + 1)) :
    Ledger host ⟨asked, forwarded, answered, delivered ++ answer⟩ unsent [] outstanding := by
  obtain ⟨frames, answers, hexchanged, hcount⟩ := h
  have hflatten : (answers ++ [answer]).flatten = answers.flatten ++ answer := by simp
  refine ⟨frames, answers ++ [answer], ⟨hexchanged.frames_whole, ?_, hexchanged.asked, hexchanged.forwarded,
    ?_, ?_⟩, ?_⟩
  · intro other hmem
    rcases List.mem_append.mp hmem with hold | hnew
    · exact hexchanged.answers_whole other hold
    · rw [List.mem_singleton.mp hnew]
      exact hwhole
  · rw [hflatten, List.append_nil]
    exact hexchanged.answered
  · have hdelivered : delivered = answers.flatten := hexchanged.delivered
    rw [hflatten, hdelivered]
  · rw [List.length_append, List.length_singleton]
    omega

end Moves

section Invariant

/-- An id that was given to client `i`: the registry has it for the connection of that client or not at
all. -/
def Registered (registry : Registry) (i : Nat) (sessionId : String) : Prop :=
  sessionId ∈ registry.issued ∧ ∀ target, registry.sessions sessionId = some target → target = i

/-- The thread of an `/open`, before its answer is looked at. -/
def OpeningOk (known : String → Prop) (i : Nat) : HandlerPhase host → Prop
  | .openPosted => True
  | .connected target => target = i
  | .answered (.ok body) => ∃ sessionId, body = sessionBody host sessionId ∧ known sessionId
  | .answered (.error _ _) => True
  | _ => False

/-- The thread of an `/exchange`, before its answer is looked at. -/
def AskingOk (i : Nat) (flow : Flow) (sessionId : String) : HandlerPhase host → Prop
  | .exchangePosted posted frame => posted = sessionId ∧ WholeFrame host.clientMaxFrameBytes frame ∧
      Ledger host flow frame [] 0
  | .found target frame => target = i ∧ WholeFrame host.clientMaxFrameBytes frame ∧ Ledger host flow frame [] 0
  | .reading target read => target = i ∧ Ledger host flow [] read.got 1
  | .answered (.ok answer) => WholeFrame host.serverMaxFrameBytes answer ∧ Ledger host flow [] answer 1
  | .answered (.error _ _) => Relayed flow
  | _ => False

/-- What the loop leaves behind. After the end of the stream every whole frame has gone forth and its answer
has come back; after an exception a request may still be under way. -/
def EndedOk (known : String → Prop) (i : Nat) (source : TcpStream) (flow : Flow) (handler : HandlerPhase host) :
    LoopEnd → Prop
  | .eof => handler = .idle ∧ source.inbound.pending = [] ∧ source.peerClosed = true ∧
      ∃ leftover, (∀ limit frame, WholeFrame limit frame → ¬frame <+: leftover) ∧ Ledger host flow leftover [] 0
  | .raised _ => handler = .idle ∧ Relayed flow ∨
      ∃ sessionId, known sessionId ∧ AskingOk i flow sessionId handler

def PhaseOk (known : String → Prop) (i : Nat) (source : TcpStream) (flow : Flow) (handler : HandlerPhase host) :
    ClientPhase host → Prop
  | .accepted => handler = .idle ∧ flow = .empty
  | .opening => OpeningOk known i handler ∧ flow = .empty
  | .refused _ => (handler = .idle ∨ OpeningOk known i handler) ∧ flow = .empty
  | .reading sessionId read => handler = .idle ∧ known sessionId ∧ Ledger host flow read.got [] 0
  | .exchanging sessionId => known sessionId ∧ AskingOk i flow sessionId handler
  | .delivering sessionId answer => handler = .idle ∧ known sessionId ∧
      WholeFrame host.serverMaxFrameBytes answer ∧ Ledger host flow [] answer 1
  | .closing sessionId loopEnd => known sessionId ∧ EndedOk known i source flow handler loopEnd
  | .shutting loopEnd => EndedOk known i source flow handler loopEnd
  | .finished loopEnd => EndedOk known i source flow handler loopEnd

def CloserOk (known : String → Prop) (i : Nat) : CloserPhase → Prop
  | .posted sessionId => known sessionId
  | .popped target => ∀ t, target = some t → t = i
  | _ => True

structure LaneOk (registry : Registry) (i : Nat) (lane : Lane host) : Prop where
  phase : PhaseOk (Registered registry i) i lane.source (flow lane.source (registry.targets i)) lane.handler
    lane.client
  closer : CloserOk (Registered registry i) i lane.closer
  closed : lane.source.closed = true → ∃ loopEnd, lane.client = .finished loopEnd

end Invariant

section Known

variable {known known' : String → Prop} {i : Nat} {source : TcpStream} {flow : Flow}

theorem OpeningOk.mono (hknown : ∀ sessionId, known sessionId → known' sessionId) {handler : HandlerPhase host}
    (h : OpeningOk known i handler) : OpeningOk known' i handler := by
  cases handler with
  | answered answer =>
    cases answer with
    | ok body =>
      obtain ⟨sessionId, hbody, hid⟩ := h
      exact ⟨sessionId, hbody, hknown sessionId hid⟩
    | error code message => trivial
  | openPosted => trivial
  | connected target => exact h
  | _ => exact h.elim

theorem EndedOk.mono (hknown : ∀ sessionId, known sessionId → known' sessionId) {handler : HandlerPhase host}
    {loopEnd : LoopEnd} (h : EndedOk known i source flow handler loopEnd) :
    EndedOk known' i source flow handler loopEnd := by
  cases loopEnd with
  | eof => exact h
  | raised error =>
    rcases h with hidle | ⟨sessionId, hid, hasking⟩
    · exact .inl hidle
    · exact .inr ⟨sessionId, hknown sessionId hid, hasking⟩

theorem PhaseOk.mono (hknown : ∀ sessionId, known sessionId → known' sessionId) {handler : HandlerPhase host}
    {client : ClientPhase host} (h : PhaseOk known i source flow handler client) :
    PhaseOk known' i source flow handler client := by
  cases client with
  | accepted => exact h
  | opening => exact ⟨h.1.mono hknown, h.2⟩
  | refused error => exact ⟨h.1.imp_right (OpeningOk.mono hknown), h.2⟩
  | reading sessionId read => exact ⟨h.1, hknown sessionId h.2.1, h.2.2⟩
  | exchanging sessionId => exact ⟨hknown sessionId h.1, h.2⟩
  | delivering sessionId answer => exact ⟨h.1, hknown sessionId h.2.1, h.2.2⟩
  | closing sessionId loopEnd => exact ⟨hknown sessionId h.1, h.2.mono hknown⟩
  | shutting loopEnd => exact EndedOk.mono hknown h
  | finished loopEnd => exact EndedOk.mono hknown h

theorem CloserOk.mono (hknown : ∀ sessionId, known sessionId → known' sessionId) {closer : CloserPhase}
    (h : CloserOk known i closer) : CloserOk known' i closer := by
  cases closer with
  | posted sessionId => exact hknown sessionId h
  | _ => exact h

end Known

section Streams

variable {stream stream' : TcpStream} {n : Nat}

/-- What a read leaves of a stream. -/
structure Took (stream : TcpStream) (chunk : List UInt8) (stream' : TcpStream) : Prop where
  received : stream'.inbound.received = stream.inbound.received ++ chunk
  outbound : stream'.outbound = stream.outbound
  closed : stream'.closed = stream.closed
  ended : chunk = [] → stream' = stream ∧ stream.inbound.pending = [] ∧
    (stream.peerClosed = true ∨ stream.closed = true)

theorem recv_took {chunk : List UInt8} (h : stream.recv n = some (chunk, stream')) :
    Took stream chunk stream' := by
  unfold TcpStream.recv at h
  split at h
  next =>
    split at h
    next hend =>
      cases h
      exact ⟨(List.append_nil _).symm, rfl, rfl, fun _ => ⟨rfl, hend⟩⟩
    next => cases h
  next hn =>
    split at h
    next hle =>
      cases h
      refine ⟨rfl, rfl, rfl, ?_⟩
      intro hnil
      have hlength := congrArg List.length hnil
      rw [List.length_take, List.length_nil] at hlength
      omega
    next => cases h

theorem readRound_took {maxFrameBytes : Nat} {read : FrameRead maxFrameBytes}
    {result : Except PyException (FrameStatus maxFrameBytes)}
    (h : readRound read stream n = some (result, stream')) :
    ∃ chunk hfit, result = read.round chunk hfit ∧ Took stream chunk stream' := by
  unfold readRound at h
  split at h
  next => cases h
  next chunk mid hrecv =>
    split at h
    next hfit =>
      cases h
      exact ⟨chunk, hfit, rfl, recv_took hrecv⟩
    next => cases h

theorem sendall_eq {bytes : List UInt8} (h : stream.sendall bytes = some stream') :
    stream' = { stream with outbound := stream.outbound ++ bytes } := by
  unfold TcpStream.sendall at h
  split at h
  next => cases h
  next =>
    cases h
    rfl

theorem sendPart_eq {bytes : List UInt8} (h : stream.sendPart bytes n = some stream') :
    stream' = { stream with outbound := stream.outbound ++ bytes.take n } := by
  unfold TcpStream.sendPart at h
  split at h
  next =>
    cases h
    rfl
  next => cases h

end Streams

/-- The body that the server writes for an id is read back as that id. -/
theorem openedSession_sessionBody (host : BridgeHost P) (sessionId : String) :
    openedSession host (.ok (sessionBody host sessionId)) =
      if sessionId = "" then .error (.runtimeError "remote bridge returned invalid session id")
      else .ok sessionId := by
  have hprintable : Printable host.floatRepr host.parseFloat (.dict [("session_id", .str sessionId)]) :=
    ⟨List.nodup_singleton _, trivial, trivial⟩
  have hloads := jsonLoads_jsonDumps hprintable
  unfold openedSession sessionBody
  rw [except_bind_of_ok (show postBytes host "/open" (.ok _) = .ok _ from rfl)]
  simp only [fromUtf8_asBytes]
  rw [except_bind_of_ok hloads]
  simp only [List.lookup_cons, beq_self_eq_true]

section Steps

variable {registry registry' : Registry} {i : Nat} {lane lane' : Lane host}

/-- A round of the client's `read_frame`. -/
theorem readRound_asked {read : FrameRead host.clientMaxFrameBytes} {n : Nat} {source source' target : TcpStream}
    {result : Except PyException (FrameStatus host.clientMaxFrameBytes)}
    (hledger : Ledger host (flow source target) read.got [] 0)
    (h : readRound read source n = some (result, source')) :
    (∀ next, result = .ok (.more next) → Ledger host (flow source' target) next.got [] 0) ∧
    (∀ frame, result = .ok (.frame frame) →
      WholeFrame host.clientMaxFrameBytes frame ∧ Ledger host (flow source' target) frame [] 0) ∧
    (∀ message, result = .error (.eofError message) → source' = source ∧ source.inbound.pending = [] ∧
      (source.peerClosed = true ∨ source.closed = true)) ∧
    Relayed (flow source' target) ∧ source'.closed = source.closed := by
  obtain ⟨chunk, hfit, rfl, htook⟩ := readRound_took h
  have hflow : flow source' target =
      ⟨source.inbound.received ++ chunk, target.outbound, target.inbound.received, source.outbound⟩ := by
    rw [flow, htook.received, htook.outbound]
  have hasked := hledger.ask chunk
  rw [← hflow] at hasked
  refine ⟨?_, ?_, ?_, hasked.relayed, htook.closed⟩
  · intro next hnext
    rw [round_more hnext]
    exact hasked
  · intro frame hframe
    obtain ⟨rfl, hwhole⟩ := round_frame hframe
    exact ⟨hwhole, hasked⟩
  · intro message hmessage
    exact htook.ended (round_eof hmessage)

theorem clientStep_keeps {action : ClientAction} (hok : LaneOk registry i lane)
    (h : clientStep lane action = some lane') : LaneOk registry i lane' := by
  obtain ⟨source, client, handler, closer⟩ := lane
  obtain ⟨hphase, hcloser, hclosed⟩ := hok
  dsimp only at hphase hcloser hclosed
  have hopen : (∀ loopEnd, client ≠ .finished loopEnd) → source.closed ≠ true := by
    intro hne hc
    obtain ⟨loopEnd, hfinished⟩ := hclosed hc
    exact hne loopEnd hfinished
  unfold clientStep at h
  dsimp only at h
  split at h
  next =>
    cases h
    exact ⟨⟨trivial, hphase.2⟩, hcloser, fun hc => absurd hc (hopen (by simp))⟩
  next =>
    split at h
    next answer =>
      split at h
      next sessionId hopened =>
        cases h
        refine ⟨⟨rfl, ?_, ?_⟩, hcloser, fun hc => absurd hc (hopen (by simp))⟩
        · cases answer with
          | ok body =>
            obtain ⟨given, rfl, hgiven⟩ := hphase.1
            rw [openedSession_sessionBody] at hopened
            split at hopened
            next => cases hopened
            next =>
              cases hopened
              exact hgiven
          | error code message => cases hopened
        · dsimp only
          rw [hphase.2]
          exact ledger_empty
      next e _ =>
        cases h
        exact ⟨⟨.inl rfl, hphase.2⟩, hcloser, fun hc => absurd hc (hopen (by simp))⟩
    next => cases h
  next e =>
    cases h
    exact ⟨⟨.inr hphase.1, hphase.2⟩, hcloser, fun hc => absurd hc (hopen (by simp))⟩
  next sessionId read n =>
    have hsource := hopen (by simp)
    obtain ⟨rfl, hid, hledger⟩ := hphase
    split at h
    next => cases h
    next next' source' hround =>
      cases h
      obtain ⟨hmore, _, _, _, hc⟩ := readRound_asked hledger hround
      exact ⟨⟨rfl, hid, hmore _ rfl⟩, hcloser, fun hc' => absurd (hc ▸ hc') hsource⟩
    next frame source' hround =>
      cases h
      obtain ⟨_, hframe, _, _, hc⟩ := readRound_asked hledger hround
      exact ⟨⟨hid, rfl, hframe _ rfl⟩, hcloser, fun hc' => absurd (hc ▸ hc') hsource⟩
    next message source' hround =>
      cases h
      obtain ⟨_, _, heof, _, _⟩ := readRound_asked hledger hround
      obtain ⟨rfl, hpending, hend⟩ := heof _ rfl
      exact ⟨⟨hid, rfl, hpending, hend.resolve_right hsource, _, fun _ _ => read.not_whole_prefix, hledger⟩,
        hcloser, fun hc => absurd hc hsource⟩
    next e source' _ hround =>
      cases h
      obtain ⟨_, _, _, hrelayed, hc⟩ := readRound_asked hledger hround
      exact ⟨⟨hid, .inl ⟨rfl, hrelayed⟩⟩, hcloser, fun hc' => absurd (hc ▸ hc') hsource⟩
  next sessionId read e =>
    cases h
    obtain ⟨rfl, hid, hledger⟩ := hphase
    exact ⟨⟨hid, .inl ⟨rfl, hledger.relayed⟩⟩, hcloser, fun hc => absurd hc (hopen (by simp))⟩
  next sessionId =>
    obtain ⟨hid, hasking⟩ := hphase
    split at h
    next answer =>
      split at h
      next responseFrame hpost =>
        cases h
        cases answer with
        | ok body =>
          cases hpost
          exact ⟨⟨rfl, hid, hasking⟩, hcloser, fun hc => absurd hc (hopen (by simp))⟩
        | error code message => cases hpost
      next e hpost =>
        cases h
        cases answer with
        | ok body => cases hpost
        | error code message =>
          exact ⟨⟨hid, .inl ⟨rfl, hasking⟩⟩, hcloser, fun hc => absurd hc (hopen (by simp))⟩
    next => cases h
  next sessionId e =>
    cases h
    exact ⟨⟨hphase.1, .inr ⟨sessionId, hphase⟩⟩, hcloser, fun hc => absurd hc (hopen (by simp))⟩
  next sessionId responseFrame =>
    have hsource := hopen (by simp)
    obtain ⟨rfl, hid, hwhole, hledger⟩ := hphase
    obtain ⟨source', hsend, rfl⟩ := Option.map_eq_some_iff.mp h
    rw [sendall_eq hsend]
    exact ⟨⟨rfl, hid, hledger.deliver hwhole⟩, hcloser, fun hc => absurd hc hsource⟩
  next sessionId responseFrame n e =>
    have hsource := hopen (by simp)
    obtain ⟨rfl, hid, hwhole, hledger⟩ := hphase
    obtain ⟨source', hsend, rfl⟩ := Option.map_eq_some_iff.mp h
    rw [sendPart_eq hsend]
    refine ⟨⟨hid, .inl ⟨rfl, hledger.relayed.forth, ?_⟩⟩, hcloser, fun hc => absurd hc hsource⟩
    exact (List.prefix_append_right_inj _).mpr (List.take_prefix _ _) |>.trans
      (hledger.deliver hwhole).relayed.back
  next sessionId loopEnd =>
    cases h
    exact ⟨hphase.2, hphase.1, fun hc => absurd hc (hopen (by simp))⟩
  next loopEnd =>
    cases h
    exact ⟨hphase, hcloser, fun _ => ⟨loopEnd, rfl⟩⟩
  next => cases h

/-- What a thread of client `i` leaves alone: the ids of all clients and the connections of the others. -/
structure RegistryKept (i : Nat) (registry registry' : Registry) : Prop where
  registered : ∀ k sessionId, Registered registry k sessionId → Registered registry' k sessionId
  others : ∀ k, k ≠ i → registry'.targets k = registry.targets k

theorem RegistryKept.refl (i : Nat) (registry : Registry) : RegistryKept i registry registry :=
  ⟨fun _ _ h => h, fun _ _ => rfl⟩

@[simp] theorem setTarget_targets (registry : Registry) (i : Nat) (stream : TcpStream) :
    (registry.setTarget i stream).targets i = stream := Function.update_self ..

theorem registryKept_setTarget (registry : Registry) (i : Nat) (stream : TcpStream) :
    RegistryKept i registry (registry.setTarget i stream) :=
  ⟨fun _ _ h => h, fun _ hk => Function.update_of_ne hk ..⟩

/-- A new id becomes that of client `i`, and no id of anyone changes its owner. -/
theorem registered_new {sessionId : String} (hfresh : sessionId ∉ registry.issued) :
    RegistryKept i registry
        { registry with
          sessions := Function.update registry.sessions sessionId (some i)
          issued := sessionId :: registry.issued } ∧
      Registered { registry with
          sessions := Function.update registry.sessions sessionId (some i)
          issued := sessionId :: registry.issued } i sessionId := by
  refine ⟨⟨?_, fun _ _ => rfl⟩, List.mem_cons_self, ?_⟩
  · rintro k other ⟨hmem, howner⟩
    refine ⟨List.mem_cons_of_mem _ hmem, ?_⟩
    intro target htarget
    have hne : other ≠ sessionId := by
      rintro rfl
      exact hfresh hmem
    dsimp only at htarget
    rw [Function.update_of_ne hne] at htarget
    exact howner target htarget
  · intro target htarget
    dsimp only at htarget
    rw [Function.update_self] at htarget
    exact (Option.some.inj htarget).symm

theorem opening_step {source : TcpStream} {handler handler' : HandlerPhase host} {action : HandlerAction}
    (hok : OpeningOk (Registered registry i) i handler) (hflow : flow source (registry.targets i) = .empty)
    (hfresh : ∀ sessionId, action = .register sessionId → sessionId ∉ registry.issued)
    (h : handlerStep registry i handler action = some (registry', handler')) :
    (OpeningOk (Registered registry' i) i handler' ∧ flow source (registry'.targets i) = .empty) ∧
      RegistryKept i registry registry' := by
  unfold handlerStep at h
  split at h
  next =>
    cases h
    refine ⟨⟨rfl, ?_⟩, registryKept_setTarget _ _ _⟩
    rw [setTarget_targets]
    injection hflow with hasked _ _ hdelivered
    rw [flow, hasked, hdelivered]
    rfl
  next e =>
    cases h
    refine ⟨⟨?_, hflow⟩, .refl _ _⟩
    cases e <;> exact trivial
  next target sessionId =>
    cases h
    obtain rfl : target = i := hok
    obtain ⟨hkept, hgiven⟩ := registered_new (i := target) (hfresh sessionId rfl)
    exact ⟨⟨⟨sessionId, rfl, hgiven⟩, hflow⟩, hkept⟩
  next => exact hok.elim
  next => exact hok.elim
  next => exact hok.elim
  next => exact hok.elim
  next => exact hok.elim
  next => exact hok.elim
  next => cases h

/-- A round of the server's `read_frame`. -/
theorem readRound_answered {read : FrameRead host.serverMaxFrameBytes} {n : Nat} {source target target' : TcpStream}
    {result : Except PyException (FrameStatus host.serverMaxFrameBytes)}
    (hledger : Ledger host (flow source target) [] read.got 1)
    (h : readRound read target n = some (result, target')) :
    (∀ next, result = .ok (.more next) → Ledger host (flow source target') [] next.got 1) ∧
    (∀ frame, result = .ok (.frame frame) →
      WholeFrame host.serverMaxFrameBytes frame ∧ Ledger host (flow source target') [] frame 1) ∧
    Relayed (flow source target') := by
  obtain ⟨chunk, hfit, rfl, htook⟩ := readRound_took h
  have hflow : flow source target' =
      ⟨source.inbound.received, target.outbound, target.inbound.received ++ chunk, source.outbound⟩ := by
    rw [flow, htook.received, htook.outbound]
  have hanswer := hledger.answer chunk
  rw [← hflow] at hanswer
  refine ⟨?_, ?_, hanswer.relayed⟩
  · intro next hnext
    rw [round_more hnext]
    exact hanswer
  · intro frame hframe
    obtain ⟨rfl, hwhole⟩ := round_frame hframe
    exact ⟨hwhole, hanswer⟩

theorem askingOk_error {flow : Flow} {sessionId : String} (hrelayed : Relayed flow) (e : PyException) :
    AskingOk i flow sessionId (.answered (errorAnswer host e) : HandlerPhase host) := by
  cases e <;> exact hrelayed

theorem asking_step {source : TcpStream} {handler handler' : HandlerPhase host} {action : HandlerAction}
    {sessionId : String} (hid : Registered registry i sessionId)
    (hok : AskingOk i (flow source (registry.targets i)) sessionId handler)
    (h : handlerStep registry i handler action = some (registry', handler')) :
    AskingOk i (flow source (registry'.targets i)) sessionId handler' ∧ RegistryKept i registry registry' := by
  unfold handlerStep at h
  split at h
  next => exact hok.elim
  next => exact hok.elim
  next => exact hok.elim
  next posted frame =>
    obtain ⟨rfl, hwhole, hledger⟩ := hok
    split at h
    next =>
      cases h
      exact ⟨hledger.relayed, .refl _ _⟩
    next =>
      split at h
      next =>
        cases h
        exact ⟨askingOk_error hledger.relayed _, .refl _ _⟩
      next target htarget =>
        cases h
        exact ⟨⟨hid.2 target htarget, hwhole, hledger⟩, .refl _ _⟩
  next posted frame e =>
    cases h
    exact ⟨askingOk_error hok.2.2.relayed e, .refl _ _⟩
  next target frame =>
    obtain ⟨rfl, hwhole, hledger⟩ := hok
    obtain ⟨stream, hsend, heq⟩ := Option.map_eq_some_iff.mp h
    cases heq
    refine ⟨?_, registryKept_setTarget _ _ _⟩
    rw [setTarget_targets, sendall_eq hsend]
    exact ⟨rfl, hledger.forward hwhole⟩
  next target frame n e =>
    obtain ⟨rfl, hwhole, hledger⟩ := hok
    obtain ⟨stream, hsend, heq⟩ := Option.map_eq_some_iff.mp h
    cases heq
    refine ⟨askingOk_error ?_ e, registryKept_setTarget _ _ _⟩
    rw [setTarget_targets, sendPart_eq hsend]
    refine ⟨?_, hledger.relayed.back⟩
    exact ((List.prefix_append_right_inj _).mpr (List.take_prefix n frame)).trans
      (hledger.forward hwhole).relayed.forth
  next target read n =>
    obtain ⟨rfl, hledger⟩ := hok
    split at h
    next => cases h
    next next' stream hround =>
      cases h
      refine ⟨?_, registryKept_setTarget _ _ _⟩
      rw [setTarget_targets]
      exact ⟨rfl, (readRound_answered hledger hround).1 _ rfl⟩
    next frame stream hround =>
      cases h
      refine ⟨?_, registryKept_setTarget _ _ _⟩
      rw [setTarget_targets]
      exact (readRound_answered hledger hround).2.1 _ rfl
    next e stream hround =>
      cases h
      refine ⟨askingOk_error ?_ e, registryKept_setTarget _ _ _⟩
      rw [setTarget_targets]
      exact (readRound_answered hledger hround).2.2
  next target read e =>
    cases h
    exact ⟨askingOk_error hok.2.relayed e, .refl _ _⟩
  next => cases h

theorem idle_step {action : HandlerAction} {handler' : HandlerPhase host}
    (h : handlerStep registry i .idle action = some (registry', handler')) : False := by
  cases action <;> cases h

theorem ended_step {source : TcpStream} {handler handler' : HandlerPhase host} {action : HandlerAction}
    {loopEnd : LoopEnd}
    (hok : EndedOk (Registered registry i) i source (flow source (registry.targets i)) handler loopEnd)
    (h : handlerStep registry i handler action = some (registry', handler')) :
    EndedOk (Registered registry' i) i source (flow source (registry'.targets i)) handler' loopEnd ∧
      RegistryKept i registry registry' := by
  cases loopEnd with
  | eof =>
    obtain ⟨rfl, _⟩ := hok
    exact (idle_step h).elim
  | raised error =>
    rcases hok with ⟨rfl, _⟩ | ⟨sessionId, hid, hasking⟩
    · exact (idle_step h).elim
    · obtain ⟨hnext, hkept⟩ := asking_step hid hasking h
      exact ⟨.inr ⟨sessionId, hkept.registered _ _ hid, hnext⟩, hkept⟩

theorem handlerStep_keeps {action : HandlerAction} {handler' : HandlerPhase host} (hok : LaneOk registry i lane)
    (hfresh : ∀ sessionId, action = .register sessionId → sessionId ∉ registry.issued)
    (h : handlerStep registry i lane.handler action = some (registry', handler')) :
    LaneOk registry' i { lane with handler := handler' } ∧ RegistryKept i registry registry' := by
  obtain ⟨source, client, handler, closer⟩ := lane
  obtain ⟨hphase, hcloser, hclosed⟩ := hok
  dsimp only at hphase hcloser hclosed h
  suffices hnext : PhaseOk (Registered registry' i) i source (flow source (registry'.targets i)) handler' client ∧
      RegistryKept i registry registry' from
    ⟨⟨hnext.1, hcloser.mono (hnext.2.registered i), hclosed⟩, hnext.2⟩
  cases client with
  | accepted =>
    obtain ⟨rfl, _⟩ := hphase
    exact (idle_step h).elim
  | opening => exact opening_step hphase.1 hphase.2 hfresh h
  | refused error =>
    obtain ⟨rfl | hopening, hflow⟩ := hphase
    · exact (idle_step h).elim
    · obtain ⟨⟨hnext, hflow'⟩, hkept⟩ := opening_step hopening hflow hfresh h
      exact ⟨⟨.inr hnext, hflow'⟩, hkept⟩
  | reading sessionId read =>
    obtain ⟨rfl, _⟩ := hphase
    exact (idle_step h).elim
  | exchanging sessionId =>
    obtain ⟨hnext, hkept⟩ := asking_step hphase.1 hphase.2 h
    exact ⟨⟨hkept.registered _ _ hphase.1, hnext⟩, hkept⟩
  | delivering sessionId answer =>
    obtain ⟨rfl, _⟩ := hphase
    exact (idle_step h).elim
  | closing sessionId loopEnd =>
    obtain ⟨hnext, hkept⟩ := ended_step hphase.2 h
    exact ⟨⟨hkept.registered _ _ hphase.1, hnext⟩, hkept⟩
  | shutting loopEnd => exact ended_step hphase h
  | finished loopEnd => exact ended_step hphase h

theorem closerStep_keeps {action : CloserAction} {closer closer' : CloserPhase}
    (hok : CloserOk (Registered registry i) i closer)
    (h : closerStep registry closer action = some (registry', closer')) :
    CloserOk (Registered registry' i) i closer' ∧ RegistryKept i registry registry' ∧
      ∀ source, flow source (registry'.targets i) = flow source (registry.targets i) := by
  unfold closerStep at h
  split at h
  next sessionId =>
    split at h
    next =>
      cases h
      exact ⟨trivial, .refl _ _, fun _ => rfl⟩
    next =>
      cases h
      refine ⟨hok.2, ⟨?_, fun _ _ => rfl⟩, fun _ => rfl⟩
      rintro k other ⟨hmem, howner⟩
      refine ⟨hmem, ?_⟩
      intro target htarget
      dsimp only at htarget
      by_cases heq : other = sessionId
      · rw [heq, Function.update_self] at htarget
        cases htarget
      · rw [Function.update_of_ne heq] at htarget
        exact howner target htarget
  next =>
    cases h
    exact ⟨trivial, .refl _ _, fun _ => rfl⟩
  next target =>
    cases h
    obtain rfl := hok target rfl
    refine ⟨trivial, registryKept_setTarget _ _ _, ?_⟩
    intro source
    rw [setTarget_targets]
    rfl
  next => cases h

/-- A peer that sends or closes changes nothing that was read. -/
theorem peerStep_eq {stream stream' : TcpStream} {action : PeerAction} (h : stream.peerStep action = some stream') :
    stream'.inbound.received = stream.inbound.received ∧ stream'.outbound = stream.outbound ∧
      stream'.closed = stream.closed ∧
      (stream.peerClosed = true → stream'.inbound = stream.inbound ∧ stream'.peerClosed = true) := by
  cases action with
  | sends bytes =>
    rw [TcpStream.peerStep] at h
    split at h
    next => cases h
    next hopen =>
      cases h
      exact ⟨rfl, rfl, rfl, fun hc => absurd hc hopen⟩
  | closes =>
    cases h
    exact ⟨rfl, rfl, rfl, fun _ => ⟨rfl, rfl⟩⟩

theorem endedOk_source {known : String → Prop} {source source' : TcpStream} {flow : Flow}
    {handler : HandlerPhase host} {loopEnd : LoopEnd}
    (hkept : source.peerClosed = true → source'.inbound = source.inbound ∧ source'.peerClosed = true)
    (h : EndedOk known i source flow handler loopEnd) : EndedOk known i source' flow handler loopEnd := by
  cases loopEnd with
  | eof =>
    obtain ⟨hidle, hpending, hclosed, hledger⟩ := h
    obtain ⟨hinbound, hclosed'⟩ := hkept hclosed
    exact ⟨hidle, by rw [hinbound, hpending], hclosed', hledger⟩
  | raised error => exact h

theorem laneOk_source {source' : TcpStream} {action : PeerAction} (hok : LaneOk registry i lane)
    (h : lane.source.peerStep action = some source') : LaneOk registry i { lane with source := source' } := by
  obtain ⟨source, client, handler, closer⟩ := lane
  obtain ⟨hphase, hcloser, hclosed⟩ := hok
  dsimp only at hphase hcloser hclosed h
  obtain ⟨hreceived, houtbound, hc, hkept⟩ := peerStep_eq h
  have hflow : flow source' (registry.targets i) = flow source (registry.targets i) := by
    rw [flow, hreceived, houtbound]
    rfl
  refine ⟨?_, hcloser, fun hc' => hclosed (hc ▸ hc')⟩
  dsimp only
  rw [hflow]
  cases client with
  | closing sessionId loopEnd => exact ⟨hphase.1, endedOk_source hkept hphase.2⟩
  | shutting loopEnd => exact endedOk_source hkept hphase
  | finished loopEnd => exact endedOk_source hkept hphase
  | _ => exact hphase

theorem LaneOk.kept (hok : LaneOk registry i lane)
    (hknown : ∀ sessionId, Registered registry i sessionId → Registered registry' i sessionId)
    (hflow : ∀ source, flow source (registry'.targets i) = flow source (registry.targets i)) :
    LaneOk registry' i lane := by
  refine ⟨?_, hok.closer.mono hknown, hok.closed⟩
  rw [hflow]
  exact hok.phase.mono hknown

/-- Every lane is in order as long as `uuid4` gives no id twice. -/
def BridgeOk (bridge : Bridge host) : Prop :=
  bridge.registry.issued.Nodup → ∀ i, LaneOk bridge.registry i (bridge.lanes i)

theorem laneOk_initial (i : Nat) : LaneOk .empty i (.initial host) :=
  ⟨⟨rfl, rfl⟩, trivial, fun h => by cases h⟩

/-- A step of client `i` that keeps its own lane keeps all of them. -/
theorem bridgeOk_setLane {bridge : Bridge host} (hok : ∀ k, LaneOk bridge.registry k (bridge.lanes k))
    (hkept : RegistryKept i bridge.registry registry') (hlane : LaneOk registry' i lane) (k : Nat) :
    LaneOk registry' k ((({ bridge with registry := registry' } : Bridge host).setLane i lane).lanes k) := by
  by_cases heq : k = i
  · subst heq
    have hself : (({ bridge with registry := registry' } : Bridge host).setLane k lane).lanes k = lane :=
      Function.update_self ..
    rw [hself]
    exact hlane
  · have hsame : (({ bridge with registry := registry' } : Bridge host).setLane i lane).lanes k =
        bridge.lanes k := Function.update_of_ne heq ..
    rw [hsame]
    exact (hok k).kept (hkept.registered k) fun source => by rw [hkept.others k heq]

theorem closerStep_issued {action : CloserAction} {closer closer' : CloserPhase}
    (h : closerStep registry closer action = some (registry', closer')) : registry'.issued = registry.issued := by
  unfold closerStep at h
  split at h
  next =>
    split at h <;>
      cases h <;> rfl
  next => cases h; rfl
  next => cases h; rfl
  next => cases h

/-- The ids that have been given with those that a step adds. -/
def issuedBy (issued : List String) : HandlerAction → List String
  | .register sessionId => sessionId :: issued
  | _ => issued

theorem handlerStep_issued {action : HandlerAction} {handler handler' : HandlerPhase host}
    (h : handlerStep registry i handler action = some (registry', handler')) :
    registry'.issued = issuedBy registry.issued action := by
  unfold handlerStep at h
  split at h
  next => cases h; rfl
  next => cases h; rfl
  next => cases h; rfl
  next =>
    split at h
    next => cases h; rfl
    next => split at h <;> cases h <;> rfl
  next => cases h; rfl
  next =>
    obtain ⟨stream, _, heq⟩ := Option.map_eq_some_iff.mp h
    cases heq
    rfl
  next =>
    obtain ⟨stream, _, heq⟩ := Option.map_eq_some_iff.mp h
    cases heq
    rfl
  next => split at h <;> cases h <;> rfl
  next => cases h; rfl
  next => cases h

/-- Ids that are given once up to a step were given once before it, and are new. -/
theorem fresh_of_nodup {action : HandlerAction} (hids : (issuedBy registry.issued action).Nodup) :
    registry.issued.Nodup ∧
      ∀ sessionId, action = .register sessionId → sessionId ∉ registry.issued := by
  cases action with
  | register sessionId =>
    obtain ⟨hnew, hold⟩ := List.nodup_cons.mp hids
    refine ⟨hold, ?_⟩
    intro _ heq
    cases heq
    exact hnew
  | _ => exact ⟨hids, fun _ heq => by cases heq⟩

theorem bridgeStep_keeps (bridge : Bridge host) (event : BridgeEvent) (bridge' : Bridge host)
    (hok : BridgeOk bridge) (h : bridgeStep bridge event = some bridge') : BridgeOk bridge' := by
  intro hids
  cases event with
  | client k action =>
    obtain ⟨lane, hstep, rfl⟩ := Option.map_eq_some_iff.mp h
    exact bridgeOk_setLane (hok hids) (.refl k _) (clientStep_keeps (hok hids k) hstep)
  | handler k action =>
    obtain ⟨⟨registry, handler⟩, hstep, rfl⟩ := Option.map_eq_some_iff.mp h
    have hids' : registry.issued.Nodup := hids
    rw [handlerStep_issued hstep] at hids'
    obtain ⟨hold, hfresh⟩ := fresh_of_nodup hids'
    obtain ⟨hlane, hkept⟩ := handlerStep_keeps (hok hold k) hfresh hstep
    exact bridgeOk_setLane (hok hold) hkept hlane
  | closer k action =>
    obtain ⟨⟨registry, closer⟩, hstep, rfl⟩ := Option.map_eq_some_iff.mp h
    have hold : bridge.registry.issued.Nodup := closerStep_issued hstep ▸ hids
    obtain ⟨hcloser, hkept, hflow⟩ := closerStep_keeps (hok hold k).closer hstep
    refine bridgeOk_setLane (hok hold) hkept ?_
    exact ⟨((hok hold k).kept (hkept.registered k) hflow).phase, hcloser, (hok hold k).closed⟩
  | source k action =>
    obtain ⟨source, hstep, rfl⟩ := Option.map_eq_some_iff.mp h
    exact bridgeOk_setLane (hok hids) (.refl k _) (laneOk_source (hok hids k) hstep)
  | target k action =>
    obtain ⟨stream, hstep, rfl⟩ := Option.map_eq_some_iff.mp h
    obtain ⟨hreceived, houtbound, _, _⟩ := peerStep_eq hstep
    intro i
    refine (hok hids i).kept (fun _ hid => hid) ?_
    intro source
    by_cases heq : i = k
    · subst heq
      rw [setTarget_targets, flow, hreceived, houtbound]
      rfl
    · rw [(registryKept_setTarget bridge.registry k stream).others i heq]

theorem laneOk_of_runBridge {events : List BridgeEvent} {bridge : Bridge host} (hrun : runBridge events = some bridge)
    (hids : bridge.registry.issued.Nodup) (i : Nat) : LaneOk bridge.registry i (bridge.lanes i) :=
  foldlM_invariant bridgeStep_keeps (fun _ => laneOk_initial) hrun hids i

theorem AskingOk.relayed {bytes : Flow} {sessionId : String} {handler : HandlerPhase host}
    (h : AskingOk i bytes sessionId handler) : Relayed bytes := by
  cases handler with
  | exchangePosted posted frame => exact h.2.2.relayed
  | found target frame => exact h.2.2.relayed
  | reading target read => exact h.2.relayed
  | answered answer =>
    cases answer with
    | ok body => exact h.2.relayed
    | error code message => exact h
  | _ => exact h.elim

theorem EndedOk.relayed {known : String → Prop} {source : TcpStream} {bytes : Flow} {handler : HandlerPhase host}
    {loopEnd : LoopEnd} (h : EndedOk known i source bytes handler loopEnd) : Relayed bytes := by
  cases loopEnd with
  | eof =>
    obtain ⟨_, _, _, _, _, hledger⟩ := h
    exact hledger.relayed
  | raised error =>
    rcases h with ⟨_, hrelayed⟩ | ⟨_, _, hasking⟩
    · exact hrelayed
    · exact hasking.relayed

theorem PhaseOk.relayed {known : String → Prop} {source : TcpStream} {bytes : Flow} {handler : HandlerPhase host}
    {client : ClientPhase host} (h : PhaseOk known i source bytes handler client) : Relayed bytes := by
  cases client with
  | accepted => exact h.2 ▸ relayed_empty
  | opening => exact h.2 ▸ relayed_empty
  | refused error => exact h.2 ▸ relayed_empty
  | reading sessionId read => exact h.2.2.relayed
  | exchanging sessionId => exact h.2.relayed
  | delivering sessionId answer => exact h.2.2.2.relayed
  | closing sessionId loopEnd => exact h.2.relayed
  | shutting loopEnd => exact EndedOk.relayed h
  | finished loopEnd => exact EndedOk.relayed h

/-- In every interleaving of any number of clients, whatever is lost, late or cut off, each client's source and
its own connection to the target are the two ends of one pair of pipes: each end gets nothing but what the
other has sent, in order and from the beginning. -/
theorem runBridge_relays {events : List BridgeEvent} {bridge : Bridge host} (hrun : runBridge events = some bridge)
    (hids : bridge.registry.issued.Nodup) (i : Nat) :
    (bridge.registry.targets i).outbound <+: (bridge.lanes i).source.inbound.sent ∧
      (bridge.lanes i).source.outbound <+: (bridge.registry.targets i).inbound.sent := by
  have hrelayed := (laneOk_of_runBridge hrun hids i).phase.relayed
  exact ⟨hrelayed.forth.trans (Pipe.received_prefix _), hrelayed.back.trans (Pipe.received_prefix _)⟩

/-- How the loop of a client has ended. -/
def ClientPhase.loopEnd : ClientPhase host → Option LoopEnd
  | .closing _ loopEnd => some loopEnd
  | .shutting loopEnd => some loopEnd
  | .finished loopEnd => some loopEnd
  | _ => none

theorem laneComplete (hok : LaneOk registry i lane) (hend : lane.client.loopEnd = some .eof) :
    ∃ (frames answers : List (List UInt8)) (leftover : List UInt8),
      lane.source.inbound.sent = frames.flatten ++ leftover ∧
      (∀ limit frame, WholeFrame limit frame → ¬frame <+: leftover) ∧
      (∀ frame ∈ frames, WholeFrame host.clientMaxFrameBytes frame) ∧
      (∀ answer ∈ answers, WholeFrame host.serverMaxFrameBytes answer) ∧
      frames.length = answers.length ∧ (registry.targets i).outbound = frames.flatten ∧
      (registry.targets i).inbound.received = answers.flatten ∧ lane.source.outbound = answers.flatten := by
  obtain ⟨source, client, handler, closer⟩ := lane
  have hended : EndedOk (Registered registry i) i source (flow source (registry.targets i)) handler .eof := by
    have hphase := hok.phase
    cases client with
    | closing sessionId loopEnd =>
      cases hend
      exact hphase.2
    | shutting loopEnd =>
      cases hend
      exact hphase
    | finished loopEnd =>
      cases hend
      exact hphase
    | _ => cases hend
  obtain ⟨_, hpending, _, leftover, hleftover, frames, answers, hexchanged, hcount⟩ := hended
  refine ⟨frames, answers, leftover, ?_, hleftover, hexchanged.frames_whole, hexchanged.answers_whole, hcount,
    hexchanged.forwarded, ?_, hexchanged.delivered⟩
  · rw [Pipe.sent_of_pending_nil hpending]
    exact hexchanged.asked
  · rw [← List.append_nil answers.flatten]
    exact hexchanged.answered

/-- When the loop of a client has ended with its source, every whole frame of the source has reached the
target, each has been answered by one whole frame, and every answer has been delivered; what is left of the
source is no whole frame. -/
theorem runBridge_complete {events : List BridgeEvent} {bridge : Bridge host} (hrun : runBridge events = some bridge)
    (hids : bridge.registry.issued.Nodup) {i : Nat} (hend : (bridge.lanes i).client.loopEnd = some .eof) :
    ∃ (frames answers : List (List UInt8)) (leftover : List UInt8),
      (bridge.lanes i).source.inbound.sent = frames.flatten ++ leftover ∧
      (∀ limit frame, WholeFrame limit frame → ¬frame <+: leftover) ∧
      (∀ frame ∈ frames, WholeFrame host.clientMaxFrameBytes frame) ∧
      (∀ answer ∈ answers, WholeFrame host.serverMaxFrameBytes answer) ∧
      frames.length = answers.length ∧
      (bridge.registry.targets i).outbound = frames.flatten ∧
      (bridge.registry.targets i).inbound.received = answers.flatten ∧
      (bridge.lanes i).source.outbound = answers.flatten :=
  laneComplete (laneOk_of_runBridge hrun hids i) hend

end Steps

def loopbackHost : BridgeHost Unit where
  remoteUrl := "http://127.0.0.1:19123"
  clientMaxFrameBytes := 500 * 1024 * 1024
  serverMaxFrameBytes := 500 * 1024 * 1024
  floatRepr _ := "0.0"
  parseFloat _ := ()
  exceptionText _ := "exception"
  errorPage _ message := message

/-- Two clients of one bridge open a session, the second before the first has its id. -/
def twoOpenings : List BridgeEvent :=
  [.client 0 .postOpen, .client 1 .postOpen, .handler 0 .connect, .handler 1 .connect,
    .handler 1 (.register "b"), .handler 0 (.register "a")]

/-- The source of the first sends an empty frame and one byte more, gets its answer and closes. -/
def oneExchange : List BridgeEvent :=
  [.source 0 (.sends [0, 0, 0, 0, 9]), .client 0 (.recv 3), .client 0 (.recv 1), .handler 0 .lookUp,
    .handler 0 .sendall, .target 0 (.sends [0, 0, 0, 1, 7]), .handler 0 (.recv 4), .handler 0 (.recv 1),
    .client 0 .takeAnswer, .client 0 .sendall, .source 0 .closes, .client 0 (.recv 1), .client 0 (.recv 0)]

def openedBridge : Bridge loopbackHost := (runBridge twoOpenings).get rfl

def openedLane : Lane loopbackHost := ⟨.new, .opening, .answered (.ok (sessionBody loopbackHost "a")), .idle⟩

theorem takeAnswer_openedLane :
    clientStep openedLane .takeAnswer = some ⟨.new, .reading "a" .start, .idle, .idle⟩ := by
  have hopened := openedSession_sessionBody loopbackHost "a"
  rw [if_neg (by decide)] at hopened
  unfold clientStep openedLane
  dsimp only
  rw [hopened]

/-- The two openings, the first client's look at its id and the exchange of its source. -/
def twoClients : List BridgeEvent := twoOpenings ++ .client 0 .takeAnswer :: oneExchange

theorem runBridge_opened (events : List BridgeEvent) :
    runBridge (twoOpenings ++ .client 0 .takeAnswer :: events) =
      events.foldlM bridgeStep (openedBridge.setLane 0 ⟨.new, .reading "a" .start, .idle, .idle⟩) := by
  have hopen : twoOpenings.foldlM bridgeStep (.initial loopbackHost) = some openedBridge := rfl
  have htake : bridgeStep openedBridge (.client 0 .takeAnswer) =
      some (openedBridge.setLane 0 ⟨.new, .reading "a" .start, .idle, .idle⟩) := by
    have hstep : bridgeStep openedBridge (.client 0 .takeAnswer) =
        (clientStep openedLane .takeAnswer).map (openedBridge.setLane 0) := rfl
    rw [hstep, takeAnswer_openedLane]
    rfl
  rw [runBridge, List.foldlM_append, hopen, Option.bind_eq_bind, Option.bind_some, List.foldlM_cons,
    htake, Option.bind_eq_bind, Option.bind_some]

theorem runBridge_twoClients : ∃ bridge : Bridge loopbackHost, runBridge twoClients = some bridge ∧
    bridge.registry.issued = ["a", "b"] ∧ (bridge.registry.targets 0).outbound = [0, 0, 0, 0] ∧
      (bridge.lanes 0).client.loopEnd = some .eof := by
  have hrest : ∃ bridge : Bridge loopbackHost, oneExchange.foldlM bridgeStep
      (openedBridge.setLane 0 ⟨.new, .reading "a" .start, .idle, .idle⟩) = some bridge ∧
        bridge.registry.issued = ["a", "b"] ∧ (bridge.registry.targets 0).outbound = [0, 0, 0, 0] ∧
          (bridge.lanes 0).client.loopEnd = some .eof := ⟨_, rfl, rfl, rfl, rfl⟩
  obtain ⟨bridge, hexchange, hfacts⟩ := hrest
  exact ⟨bridge, (runBridge_opened oneExchange).trans hexchange, hfacts⟩

theorem runBridge_relays_twoClients : ∃ bridge : Bridge loopbackHost, runBridge twoClients = some bridge ∧
    (bridge.registry.targets 0).outbound = [0, 0, 0, 0] ∧
      (bridge.registry.targets 0).outbound <+: (bridge.lanes 0).source.inbound.sent ∧
      (bridge.lanes 0).source.outbound <+: (bridge.registry.targets 0).inbound.sent := by
  obtain ⟨bridge, hrun, hissued, hbytes, _⟩ := runBridge_twoClients
  have hids : bridge.registry.issued.Nodup := by
    rw [hissued]
    decide
  exact ⟨bridge, hrun, hbytes, runBridge_relays hrun hids 0⟩

theorem runBridge_complete_twoClients : ∃ bridge : Bridge loopbackHost, runBridge twoClients = some bridge ∧
    ∃ (frames answers : List (List UInt8)) (leftover : List UInt8),
      (bridge.lanes 0).source.inbound.sent = frames.flatten ++ leftover ∧
      (∀ limit frame, WholeFrame limit frame → ¬frame <+: leftover) ∧
      (∀ frame ∈ frames, WholeFrame loopbackHost.clientMaxFrameBytes frame) ∧
      (∀ answer ∈ answers, WholeFrame loopbackHost.serverMaxFrameBytes answer) ∧
      frames.length = answers.length ∧
      (bridge.registry.targets 0).outbound = frames.flatten ∧
      (bridge.registry.targets 0).inbound.received = answers.flatten ∧
      (bridge.lanes 0).source.outbound = answers.flatten := by
  obtain ⟨bridge, hrun, hissued, _, hend⟩ := runBridge_twoClients
  have hids : bridge.registry.issued.Nodup := by
    rw [hissued]
    decide
  exact ⟨bridge, hrun, runBridge_complete hrun hids hend⟩

end PermeantOS
