import PermeantOS.BridgeFrames
import PermeantOS.JsonLine
import PermeantOS.Message
import PermeantOS.Pipes

namespace PermeantOS

variable {P : Type}

/-- What the two processes of the bridge are configured by and run on: `exceptionText` is `str(exc)`, and
`errorPage` the page that `send_error` writes for a code and a message. -/
structure BridgeHost (P : Type) where
  remoteUrl : String
  clientMaxFrameBytes : Nat
  serverMaxFrameBytes : Nat
  floatRepr : P → String
  parseFloat : List Char → P
  exceptionText : PyException → String
  errorPage : Nat → String → String

section Streams

/-- A TCP connection at the bridge's end. -/
structure TcpStream where
  inbound : Pipe UInt8
  peerClosed : Bool
  outbound : List UInt8
  closed : Bool

def TcpStream.new : TcpStream := ⟨.empty, false, [], false⟩

/-- A `recv` that returns `n` bytes; no bytes are the end of the stream. -/
def TcpStream.recv (stream : TcpStream) (n : Nat) : Option (List UInt8 × TcpStream) :=
  if n = 0 then
    if stream.inbound.pending = [] ∧ (stream.peerClosed ∨ stream.closed) then some ([], stream) else none
  else if n ≤ stream.inbound.pending.length then
    some (stream.inbound.pending.take n, { stream with inbound := stream.inbound.read n })
  else none

/-- A `sendall` that returns. -/
def TcpStream.sendall (stream : TcpStream) (bytes : List UInt8) : Option TcpStream :=
  if stream.closed then none else some { stream with outbound := stream.outbound ++ bytes }

/-- A `sendall` that raises after the first `n` bytes. -/
def TcpStream.sendPart (stream : TcpStream) (bytes : List UInt8) (n : Nat) : Option TcpStream :=
  if n < bytes.length ∧ (stream.closed → n = 0) then
    some { stream with outbound := stream.outbound ++ bytes.take n }
  else none

def TcpStream.close (stream : TcpStream) : TcpStream := { stream with closed := true }

inductive PeerAction
  | sends (bytes : List UInt8)
  | closes

def TcpStream.peerStep (stream : TcpStream) : PeerAction → Option TcpStream
  | .sends bytes =>
    if stream.peerClosed then none else some { stream with inbound := stream.inbound.write bytes }
  | .closes => some { stream with peerClosed := true }

/-- One `recv` of a `read_frame` on this stream. -/
def readRound {maxFrameBytes : Nat} (read : FrameRead maxFrameBytes) (stream : TcpStream) (n : Nat) :
    Option (Except PyException (FrameStatus maxFrameBytes) × TcpStream) :=
  match stream.recv n with
  | none => none
  | some (chunk, stream) =>
    if h : chunk.length ≤ read.remaining then some (read.round chunk h, stream) else none

end Streams

section Http

variable (host : BridgeHost P)

inductive HttpAnswer
  | ok (body : List UInt8)
  | error (code : Nat) (message : String)

/-- The `except` clauses of `do_POST`. -/
def errorAnswer : PyException → HttpAnswer
  | .eofError message => .error 502 (host.exceptionText (.eofError message))
  | .keyError key => .error 404 (host.exceptionText (.keyError key))
  | e => .error 500 (host.exceptionText e)

def sessionBody (sessionId : String) : List UInt8 :=
  asBytes (jsonDumps host.floatRepr (.dict [("session_id", .str sessionId)]))

/-- `post_bytes` once the answer is there. -/
def postBytes (path : String) : HttpAnswer → Except PyException (List UInt8)
  | .ok body => .ok body
  | .error code message =>
    .error (.runtimeError s!"HTTP {code} from {host.remoteUrl}{path}: {host.errorPage code message}")

/-- `open_remote_session` once the answer is there. -/
def openedSession (answer : HttpAnswer) : Except PyException String := do
  let raw ← postBytes host "/open" answer
  match fromUtf8 raw with
  | none => .error .unicodeDecodeError
  | some text =>
    match ← jsonLoads host.parseFloat text with
    | .dict payload =>
      match payload.lookup "session_id" with
      | some (.str sessionId) =>
        if sessionId = "" then .error (.runtimeError "remote bridge returned invalid session id")
        else .ok sessionId
      | _ => .error (.runtimeError "remote bridge returned invalid session id")
    | _ => .error .attributeError

end Http

section Threads

/-- How the loop of `handle_local_client` ends. -/
inductive LoopEnd
  | eof
  | raised (error : PyException)

/-- Where `handle_local_client` stands; `refused` is an exception of `open_remote_session`, which no
`finally` follows. -/
inductive ClientPhase (host : BridgeHost P)
  | accepted
  | opening
  | refused (error : PyException)
  | reading (sessionId : String) (read : FrameRead host.clientMaxFrameBytes)
  | exchanging (sessionId : String)
  | delivering (sessionId : String) (responseFrame : List UInt8)
  | closing (sessionId : String) (loopEnd : LoopEnd)
  | shutting (loopEnd : LoopEnd)
  | finished (loopEnd : LoopEnd)

/-- The server's thread for the client's last `/open` or `/exchange`. -/
inductive HandlerPhase (host : BridgeHost P)
  | idle
  | openPosted
  | connected (target : Nat)
  | exchangePosted (sessionId : String) (frame : List UInt8)
  | found (target : Nat) (frame : List UInt8)
  | reading (target : Nat) (read : FrameRead host.serverMaxFrameBytes)
  | answered (answer : HttpAnswer)

/-- The server's thread for the client's `/close`, whose answer the client does not look at. -/
inductive CloserPhase
  | idle
  | posted (sessionId : String)
  | popped (target : Option Nat)
  | done

/-- A local client with the requests it has posted. -/
structure Lane (host : BridgeHost P) where
  source : TcpStream
  client : ClientPhase host
  handler : HandlerPhase host
  closer : CloserPhase

def Lane.initial (host : BridgeHost P) : Lane host := ⟨.new, .accepted, .idle, .idle⟩

/-- The `SessionRegistry`, the ids that `uuid4` has given so far, the last first, and the connections to the
target; `targets i` is the one that is opened for the `/open` of client `i`. -/
structure Registry where
  sessions : String → Option Nat
  issued : List String
  targets : Nat → TcpStream

def Registry.empty : Registry := ⟨fun _ => none, [], fun _ => .new⟩

def Registry.setTarget (registry : Registry) (target : Nat) (stream : TcpStream) : Registry :=
  { registry with targets := Function.update registry.targets target stream }

inductive ClientAction
  | postOpen
  | takeAnswer
  | recv (n : Nat)
  | sendall
  | sendFails (n : Nat) (error : PyException)
  | raise (error : PyException)
  | postClose
  | finish

inductive HandlerAction
  | connect
  | register (sessionId : String)
  | lookUp
  | sendall
  | sendFails (n : Nat) (error : PyException)
  | recv (n : Nat)
  | raise (error : PyException)

inductive CloserAction
  | pop
  | shutdown

variable {host : BridgeHost P}

/-- One step of `handle_local_client`. A request is posted in the same step as what leads to it. -/
def clientStep (lane : Lane host) (action : ClientAction) : Option (Lane host) :=
  match lane.client, action with
  | .accepted, .postOpen => some { lane with client := .opening, handler := .openPosted }
  | .opening, .takeAnswer =>
    match lane.handler with
    | .answered answer =>
      match openedSession host answer with
      | .ok sessionId => some { lane with client := .reading sessionId .start, handler := .idle }
      | .error e => some { lane with client := .refused e, handler := .idle }
    | _ => none
  | .opening, .raise e => some { lane with client := .refused e }
  | .reading sessionId read, .recv n =>
    match readRound read lane.source n with
    | none => none
    | some (.ok (.more read), source) => some { lane with source, client := .reading sessionId read }
    | some (.ok (.frame frame), source) =>
      some { lane with source, client := .exchanging sessionId, handler := .exchangePosted sessionId frame }
    | some (.error (.eofError _), source) => some { lane with source, client := .closing sessionId .eof }
    | some (.error e, source) => some { lane with source, client := .closing sessionId (.raised e) }
  | .reading sessionId _, .raise e => some { lane with client := .closing sessionId (.raised e) }
  | .exchanging sessionId, .takeAnswer =>
    match lane.handler with
    | .answered answer =>
      match postBytes host "/exchange" answer with
      | .ok responseFrame => some { lane with client := .delivering sessionId responseFrame, handler := .idle }
      | .error e => some { lane with client := .closing sessionId (.raised e), handler := .idle }
    | _ => none
  | .exchanging sessionId, .raise e => some { lane with client := .closing sessionId (.raised e) }
  | .delivering sessionId responseFrame, .sendall =>
    (lane.source.sendall responseFrame).map fun source =>
      { lane with source, client := .reading sessionId .start }
  | .delivering sessionId responseFrame, .sendFails n e =>
    (lane.source.sendPart responseFrame n).map fun source =>
      { lane with source, client := .closing sessionId (.raised e) }
  | .closing sessionId loopEnd, .postClose =>
    some { lane with client := .shutting loopEnd, closer := .posted sessionId }
  | .shutting loopEnd, .finish => some { lane with source := lane.source.close, client := .finished loopEnd }
  | _, _ => none

/-- One step of `do_POST` for the `/open` and `/exchange` of client `i`. -/
def handlerStep (registry : Registry) (i : Nat) (handler : HandlerPhase host) (action : HandlerAction) :
    Option (Registry × HandlerPhase host) :=
  match handler, action with
  | .openPosted, .connect => some (registry.setTarget i .new, .connected i)
  | .openPosted, .raise e => some (registry, .answered (errorAnswer host e))
  | .connected target, .register sessionId =>
    some ({ registry with
      sessions := Function.update registry.sessions sessionId (some target)
      issued := sessionId :: registry.issued }, .answered (.ok (sessionBody host sessionId)))
  | .exchangePosted sessionId frame, .lookUp =>
    if sessionId = "" then some (registry, .answered (.error 400 "missing X-Session-Id"))
    else
      match registry.sessions sessionId with
      | none => some (registry, .answered (errorAnswer host (.keyError s!"unknown session '{sessionId}'")))
      | some target => some (registry, .found target frame)
  | .exchangePosted _ _, .raise e => some (registry, .answered (errorAnswer host e))
  | .found target frame, .sendall =>
    ((registry.targets target).sendall frame).map fun stream =>
      (registry.setTarget target stream, .reading target .start)
  | .found target frame, .sendFails n e =>
    ((registry.targets target).sendPart frame n).map fun stream =>
      (registry.setTarget target stream, .answered (errorAnswer host e))
  | .reading target read, .recv n =>
    match readRound read (registry.targets target) n with
    | none => none
    | some (.ok (.more read), stream) => some (registry.setTarget target stream, .reading target read)
    | some (.ok (.frame frame), stream) => some (registry.setTarget target stream, .answered (.ok frame))
    | some (.error e, stream) => some (registry.setTarget target stream, .answered (errorAnswer host e))
  | .reading _ _, .raise e => some (registry, .answered (errorAnswer host e))
  | _, _ => none

/-- One step of `do_POST` for a `/close`. -/
def closerStep (registry : Registry) (closer : CloserPhase) (action : CloserAction) :
    Option (Registry × CloserPhase) :=
  match closer, action with
  | .posted sessionId, .pop =>
    if sessionId = "" then some (registry, .done)
    else some ({ registry with sessions := Function.update registry.sessions sessionId none },
      .popped (registry.sessions sessionId))
  | .popped none, .shutdown => some (registry, .done)
  | .popped (some target), .shutdown =>
    some (registry.setTarget target (registry.targets target).close, .done)
  | _, _ => none

/-- What the threads and the peers of the bridge do. -/
inductive BridgeEvent
  | client (i : Nat) (action : ClientAction)
  | handler (i : Nat) (action : HandlerAction)
  | closer (i : Nat) (action : CloserAction)
  | source (i : Nat) (action : PeerAction)
  | target (i : Nat) (action : PeerAction)

structure Bridge (host : BridgeHost P) where
  registry : Registry
  lanes : Nat → Lane host

def Bridge.initial (host : BridgeHost P) : Bridge host := ⟨.empty, fun _ => .initial host⟩

def Bridge.setLane (bridge : Bridge host) (i : Nat) (lane : Lane host) : Bridge host :=
  { bridge with lanes := Function.update bridge.lanes i lane }

def bridgeStep (bridge : Bridge host) : BridgeEvent → Option (Bridge host)
  | .client i action => (clientStep (bridge.lanes i) action).map (bridge.setLane i)
  | .handler i action =>
    (handlerStep bridge.registry i (bridge.lanes i).handler action).map fun next =>
      { bridge with registry := next.1 }.setLane i { bridge.lanes i with handler := next.2 }
  | .closer i action =>
    (closerStep bridge.registry (bridge.lanes i).closer action).map fun next =>
      { bridge with registry := next.1 }.setLane i { bridge.lanes i with closer := next.2 }
  | .source i action =>
    ((bridge.lanes i).source.peerStep action).map fun source =>
      bridge.setLane i { bridge.lanes i with source }
  | .target i action =>
    ((bridge.registry.targets i).peerStep action).map fun stream =>
      { bridge with registry := bridge.registry.setTarget i stream }

def runBridge (events : List BridgeEvent) : Option (Bridge host) :=
  events.foldlM bridgeStep (.initial host)

end Threads

end PermeantOS
