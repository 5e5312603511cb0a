import PermeantOS.DaemonAnswers
import PermeantOS.FrameCuts
import PermeantOS.HttpBridgeRun
import PermeantOS.Reading
import PermeantOS.SessionAtomicity

namespace PermeantOS

section Frames

/-- A whole frame, however large a frame may be. -/
def SizedFrame (frame : List UInt8) : Prop := ∃ limit, WholeFrame limit frame

theorem sizedFrame_prefixFree : PrefixFree SizedFrame := by
  constructor
  · rintro frame ⟨limit, head, payload, rfl, hhead, _⟩ hnil
    have hlength := congrArg List.length hnil
    rw [List.length_append, List.length_nil] at hlength
    omega
  · rintro _ _ rest rest' ⟨_, head, payload, rfl, hhead, hlength, _⟩
      ⟨_, head', payload', rfl, hhead', hlength', _⟩ heq
    rw [List.append_assoc, List.append_assoc] at heq
    obtain ⟨rfl, hafter⟩ := List.append_inj heq (hhead.trans hhead'.symm)
    obtain ⟨rfl, hrest⟩ := List.append_inj hafter (hlength.symm.trans hlength')
    exact ⟨rfl, hrest⟩

theorem recvMessage_readsFrames (json : MessageJson) : ReadsFrames SizedFrame (recvMessage json) := by
  intro stream msg rest h
  simp only [recvMessage, except_bind_ok_iff] at h
  obtain ⟨⟨lenBytes, mid⟩, hlen, _, hfits, ⟨buffer, after⟩, hbuffer, _, hdecode, heq⟩ := h
  cases heq
  rw [contextOption_ok_iff] at hlen hbuffer
  obtain ⟨hfour, hstream⟩ := readExact_flatten hlen
  obtain ⟨hsize, hmid⟩ := readExact_flatten hbuffer
  have hlt := ofBigEndian_lt lenBytes
  rw [hfour] at hlt
  have hnat : (u32FromBeBytes lenBytes).toNat = ofBigEndian lenBytes := u32_ofNat_toNat hlt
  have hmax := Nat.le_of_not_lt (bailIf_ok_iff.mp hfits)
  refine ⟨lenBytes ++ buffer, ⟨maxFrameLen, lenBytes, buffer, rfl, hfour, ?_, ?_⟩, ?_, ?_⟩
  · rw [hsize, hnat]
  · rw [hsize]
    exact hmax
  · rw [hstream, hmid, List.append_assoc]
  · intro stream' after' hstream'
    rw [List.append_assoc] at hstream'
    obtain ⟨mid', hread, hmid'⟩ := readExact_append hstream'
    obtain ⟨rest', hread', hrest'⟩ := readExact_append hmid'
    rw [hfour] at hread
    rw [hsize] at hread'
    refine ⟨rest', ?_, hrest'⟩
    simp only [recvMessage, except_bind_ok_iff]
    exact ⟨_, contextOption_ok_iff.mpr hread, (), hfits, _, contextOption_ok_iff.mpr hread', msg, hdecode, rfl⟩

end Frames

section Daemon

variable {F : Type} [F32Bits F] [F32Arith F] (host : Host F) (json : MessageJson) (daemon : DaemonState F)
  (delivers : Nat → Bool)

/-- What the daemon's `recv_message` calls return on a connection that carries these bytes and then closes. -/
def daemonInbox (bytes : List UInt8) : List (Fallible MigrationMessage) := recvMany json (bytes.length + 1) [bytes]

def daemonAnswers (bytes : List UInt8) : List MigrationMessage :=
  (serve host daemon ⟨daemonInbox json bytes, delivers⟩).outbox

/-- More bytes leave the answers to what came before as they are. -/
theorem daemonAnswers_begins {bytes more : List UInt8} (h : bytes <+: more) :
    daemonAnswers host json daemon delivers bytes <+: daemonAnswers host json daemon delivers more := by
  obtain ⟨after, rfl⟩ := h
  have hmore : [bytes ++ after].flatten = [bytes].flatten ++ after := by simp
  have hn : [bytes].flatten.length < bytes.length + 1 := by simp
  have hn' : [bytes ++ after].flatten.length < (bytes ++ after).length + 1 := by simp
  obtain ⟨msgs, fault, tail, hshort, hlong⟩ :=
    (recvMessage_readsFrames json).receiveMany_extends sizedFrame_prefixFree hmore hn hn'
  have hstuck : Stuck [.error fault] := trivial
  unfold daemonAnswers daemonInbox
  rw [recvMany_eq, recvMany_eq, hshort, hlong, serve_stuck host daemon delivers _ tail hstuck]
  exact List.take_prefix _ _

/-- Each whole frame has at most one answer, and what begins with no frame behind them has none. -/
theorem daemonAnswers_leftover {frames : List (List UInt8)} {leftover : List UInt8}
    (hframes : ∀ frame ∈ frames, SizedFrame frame) (hleftover : ∀ frame, SizedFrame frame → ¬frame <+: leftover) :
    daemonAnswers host json daemon delivers (frames.flatten ++ leftover) =
        daemonAnswers host json daemon delivers frames.flatten ∧
      (daemonAnswers host json daemon delivers frames.flatten).length ≤ frames.length := by
  have hle := sizedFrame_prefixFree.length_le_flatten hframes
  have hstream : [frames.flatten].flatten = frames.flatten := by simp
  have hstream' : [frames.flatten ++ leftover].flatten = frames.flatten ++ leftover := by simp
  have hn : frames.length < frames.flatten.length + 1 := by omega
  have hn' : frames.length < (frames.flatten ++ leftover).length + 1 := by
    rw [List.length_append]
    omega
  obtain ⟨msgs, fault, fault', hcount, hshort, hlong⟩ := (recvMessage_readsFrames json).receiveMany_leftover
    sizedFrame_prefixFree hframes hleftover hstream hstream' hn hn'
  have hstuck : Stuck [.error fault] := trivial
  have hstuck' : Stuck [.error fault'] := trivial
  unfold daemonAnswers daemonInbox
  rw [recvMany_eq, recvMany_eq, hshort, hlong, serve_stuck host daemon delivers _ [] hstuck,
    serve_stuck host daemon delivers _ [] hstuck']
  refine ⟨rfl, ?_⟩
  rw [List.length_take, List.length_map]
  omega

end Daemon

section Frames

theorem mapM_begins {ε α β : Type} {f : α → Except ε β} {xs more : List α} {ys : List β} (hbegins : xs <+: more)
    (h : more.mapM f = .ok ys) : ∃ front, xs.mapM f = .ok front ∧ front <+: ys := by
  obtain ⟨after, rfl⟩ := hbegins
  rw [List.mapM_append] at h
  obtain ⟨front, hfront, h⟩ := except_bind_ok_iff.mp h
  obtain ⟨back, _, h⟩ := except_bind_ok_iff.mp h
  cases h
  exact ⟨front, hfront, List.prefix_append _ _⟩

theorem Framed.sizedFrames {json : MessageJson} {msgs : List MigrationMessage} {frames : List (List UInt8)}
    (h : Framed json msgs frames) : ∀ frame ∈ frames, SizedFrame frame := by
  induction h with
  | nil => simp
  | @cons msg bytes msgs frames _ hlen _ ih =>
    intro frame hmem
    rcases List.mem_cons.mp hmem with rfl | hmem
    · have hmax : maxFrameLen < 2 ^ 32 := by decide
      refine ⟨maxFrameLen, _, bytes, rfl, u32ToBeBytes_length _, ?_, hlen⟩
      rw [u32ToBeBytes, u32_ofNat_toNat (by omega), ofBigEndian_bigEndian (by omega)]
    · exact ih frame hmem

end Frames

section Bridged

variable {P F : Type} [F32Bits F] [F32Arith F] {bridgeHost : BridgeHost P} {host : Host F} {json : MessageJson}
  {daemon : DaemonState F} {delivers : Nat → Bool} {events : List BridgeEvent} {bridge : Bridge bridgeHost} {i : Nat}

/-- The target has sent no more than the frames of the daemon's answers to what it has received. -/
def AnswersAsDaemon (host : Host F) (json : MessageJson) (daemon : DaemonState F) (delivers : Nat → Bool)
    (target : TcpStream) : Prop :=
  ∀ frames, (daemonAnswers host json daemon delivers target.outbound).mapM (sendMessage json) = .ok frames →
    target.inbound.sent <+: frames.flatten

/-- At any moment of any run, behind the bridge a source has received a beginning of what the daemon would have
answered over a connection of their own. -/
theorem runBridge_daemon (hrun : runBridge events = some bridge) (hids : bridge.registry.issued.Nodup)
    (htarget : AnswersAsDaemon host json daemon delivers (bridge.registry.targets i))
    {frames : List (List UInt8)}
    (hframes : (daemonAnswers host json daemon delivers (bridge.lanes i).source.inbound.sent).mapM
      (sendMessage json) = .ok frames) :
    (bridge.lanes i).source.outbound <+: frames.flatten := by
  have hrelayed := (laneOk_of_runBridge hrun hids i).phase.relayed
  have hforth := hrelayed.forth.trans (Pipe.received_prefix _)
  obtain ⟨front, hfront, hbegins⟩ := mapM_begins (daemonAnswers_begins host json daemon delivers hforth) hframes
  exact (hrelayed.back.trans (Pipe.received_prefix _)).trans ((htarget front hfront).trans hbegins.flatten)

/-- A source that has closed and is done with the bridge has received exactly the frames that the daemon would
have answered over a connection of their own: none is missing, and the daemon is owed none. -/
theorem runBridge_daemon_complete (hrun : runBridge events = some bridge) (hids : bridge.registry.issued.Nodup)
    (htarget : AnswersAsDaemon host json daemon delivers (bridge.registry.targets i))
    (hend : (bridge.lanes i).client.loopEnd = some .eof) {frames : List (List UInt8)}
    (hframes : (daemonAnswers host json daemon delivers (bridge.lanes i).source.inbound.sent).mapM
      (sendMessage json) = .ok frames)
    (hlen : ∀ msg ∈ daemonAnswers host json daemon delivers (bridge.lanes i).source.inbound.sent, ∀ bytes,
      encodeMessage json msg = .ok bytes → bytes.length ≤ maxFrameLen) :
    (bridge.lanes i).source.outbound = frames.flatten := by
  obtain ⟨asked, answers, leftover, hsent, hleftover, hasked, hanswers, hcount, hforwarded, hreceived, hdelivered⟩ :=
    laneComplete (laneOk_of_runBridge hrun hids i) hend
  have hleftover' : ∀ frame, SizedFrame frame → ¬frame <+: leftover := by
    rintro frame ⟨limit, hwhole⟩
    exact hleftover limit frame hwhole
  obtain ⟨hsame, hle⟩ := daemonAnswers_leftover host json daemon delivers
    (fun frame hmem => ⟨_, hasked frame hmem⟩) hleftover'
  rw [← hsent] at hsame
  have hsized := (framed_of_mapM hframes hlen).sizedFrames
  have hmany := (framed_of_mapM hframes hlen).length_eq
  rw [hsame] at hframes hmany
  have hbegins := htarget frames (hforwarded ▸ hframes)
  have hbegins : answers.flatten <+: frames.flatten := by
    rw [← hreceived]
    exact (Pipe.received_prefix _).trans hbegins
  have hanswers' := sizedFrame_prefixFree.flatten_prefix (fun frame hmem => ⟨_, hanswers frame hmem⟩) hsized hbegins
  have hall : answers = frames := hanswers'.eq_of_length_le (by omega)
  rw [hdelivered, hall]

end Bridged

def admissionRequest : MigrationMessage := .capabilityRequest "test-model" "gqa" 1

def oneTokenAdmission : MigrationMessage := .capabilityResponse true none "cpu"

def requestText : String :=
  "\x7b\"CapabilityRequest\":\x7b\"model_architecture\":\"test-model\",\"attention_type\":\"gqa\",\"seq_len\":1\x7d\x7d"

def admissionText : String :=
  "\x7b\"CapabilityResponse\":\x7b\"accepted\":true,\"error_message\":null,\"target_device\":\"cpu\"\x7d\x7d"

/-- `serde_json` on one request and its answer. -/
def admissionJson : MessageJson where
  messageToVec msg :=
    if msg = admissionRequest then .ok (asBytes requestText)
    else if msg = oneTokenAdmission then .ok (asBytes admissionText)
    else bail "not serialized here"
  messageFromSlice bytes :=
    if bytes = asBytes requestText then .ok admissionRequest
    else if bytes = asBytes admissionText then .ok oneTokenAdmission
    else bail "expected value"
  codecToVec _ := bail "not serialized here"
  codecFromSlice _ := bail "expected value"

def jsonFrame (text : String) : List UInt8 :=
  u32ToBeBytes (UInt32.ofNat (frameKindJson :: asBytes text).length) ++ frameKindJson :: asBytes text

def admissionExchange : List BridgeEvent :=
  [.source 0 (.sends (jsonFrame requestText)), .client 0 (.recv 4), .client 0 (.recv 93), .handler 0 .lookUp,
    .handler 0 .sendall, .target 0 (.sends (jsonFrame admissionText)), .handler 0 (.recv 4), .handler 0 (.recv 84),
    .client 0 .takeAnswer, .client 0 .sendall, .source 0 .closes, .client 0 (.recv 0)]

theorem admissionJson_roundTrips : admissionJson.RoundTrips := by
  constructor
  · intro msg bytes h
    simp only [admissionJson] at h ⊢
    split at h
    next hm => cases h; rw [if_pos rfl, hm]
    next =>
      split at h
      next hm =>
        cases h
        rw [if_neg (by decide), if_pos rfl, hm]
      next => cases h
  · intro codec bytes h
    cases h

def emptyDaemon : DaemonState F32 := .mock (.new .default) 256 ∅

theorem daemonAnswers_request : daemonAnswers testRecording.host admissionJson emptyDaemon (fun _ => true)
    (jsonFrame requestText) = [oneTokenAdmission] := by
  have hencode : encodeMessage admissionJson admissionRequest = .ok (frameKindJson :: asBytes requestText) := rfl
  have hlen : (frameKindJson :: asBytes requestText).length ≤ maxFrameLen := by decide
  have hstream : [jsonFrame requestText].flatten = jsonFrame requestText ++ [] := by simp
  obtain ⟨rest, hrecv, hrest⟩ := recvMessage_frame admissionJson_roundTrips hencode hlen hstream
  obtain ⟨text, htext⟩ : ∃ text, recvMessage admissionJson rest = .error (.error text) := by
    refine ⟨"Failed to read frame length", ?_⟩
    rw [recvMessage, readExact_none (by rw [hrest]; decide)]
    rfl
  have hinbox : daemonInbox admissionJson (jsonFrame requestText) = [.ok admissionRequest, .error (.error text)] := by
    obtain ⟨k, hk⟩ : ∃ k, (jsonFrame requestText).length + 1 = k + 1 + 1 := ⟨96, by decide⟩
    rw [daemonInbox, recvMany_eq, hk, receiveMany_ok hrecv, receiveMany_error htext]
  rw [daemonAnswers, hinbox]
  rfl

theorem bridge_admission : ∃ bridge : Bridge loopbackHost,
    runBridge (twoOpenings ++ .client 0 .takeAnswer :: admissionExchange) = some bridge ∧
      bridge.registry.issued = ["a", "b"] ∧ (bridge.registry.targets 0).outbound = jsonFrame requestText ∧
      (bridge.registry.targets 0).inbound.sent = jsonFrame admissionText ∧
      (bridge.lanes 0).source.inbound.sent = jsonFrame requestText ∧
      (bridge.lanes 0).client.loopEnd = some .eof := by
  have hrest : ∃ bridge : Bridge loopbackHost, admissionExchange.foldlM bridgeStep
      (openedBridge.setLane 0 ⟨.new, .reading "a" .start, .idle, .idle⟩) = some bridge ∧
        bridge.registry.issued = ["a", "b"] ∧ (bridge.registry.targets 0).outbound = jsonFrame requestText ∧
        (bridge.registry.targets 0).inbound.sent = jsonFrame admissionText ∧
        (bridge.lanes 0).source.inbound.sent = jsonFrame requestText ∧
        (bridge.lanes 0).client.loopEnd = some .eof := ⟨_, rfl, rfl, rfl, rfl, rfl, rfl⟩
  obtain ⟨bridge, hexchange, hfacts⟩ := hrest
  exact ⟨bridge, (runBridge_opened admissionExchange).trans hexchange, hfacts⟩

theorem answersAsDaemon_admission {target : TcpStream} (hforwarded : target.outbound = jsonFrame requestText)
    (hanswered : target.inbound.sent = jsonFrame admissionText) :
    AnswersAsDaemon testRecording.host admissionJson emptyDaemon (fun _ => true) target := by
  intro frames hframes
  rw [hforwarded, daemonAnswers_request] at hframes
  have hsame : frames = [jsonFrame admissionText] := (Except.ok.inj hframes).symm
  rw [hsame, hanswered, List.flatten_singleton]

theorem runBridge_daemon_admission : ∃ bridge : Bridge loopbackHost,
    runBridge (twoOpenings ++ .client 0 .takeAnswer :: admissionExchange) = some bridge ∧
      (bridge.lanes 0).source.outbound <+: [jsonFrame admissionText].flatten := by
  obtain ⟨bridge, hrun, hissued, hforwarded, hanswered, hasked, _⟩ := bridge_admission
  have hids : bridge.registry.issued.Nodup := by
    rw [hissued]
    decide
  have hframes : (daemonAnswers testRecording.host admissionJson emptyDaemon (fun _ => true)
      (bridge.lanes 0).source.inbound.sent).mapM (sendMessage admissionJson) = .ok [jsonFrame admissionText] := by
    rw [hasked, daemonAnswers_request]
    rfl
  exact ⟨bridge, hrun, runBridge_daemon hrun hids (answersAsDaemon_admission hforwarded hanswered) hframes⟩

theorem runBridge_daemon_complete_admission : ∃ bridge : Bridge loopbackHost,
    runBridge (twoOpenings ++ .client 0 .takeAnswer :: admissionExchange) = some bridge ∧
      (bridge.lanes 0).source.outbound = [jsonFrame admissionText].flatten := by
  obtain ⟨bridge, hrun, hissued, hforwarded, hanswered, hasked, hend⟩ := bridge_admission
  have hids : bridge.registry.issued.Nodup := by
    rw [hissued]
    decide
  have hframes : (daemonAnswers testRecording.host admissionJson emptyDaemon (fun _ => true)
      (bridge.lanes 0).source.inbound.sent).mapM (sendMessage admissionJson) = .ok [jsonFrame admissionText] := by
    rw [hasked, daemonAnswers_request]
    rfl
  refine ⟨bridge, hrun, runBridge_daemon_complete hrun hids (answersAsDaemon_admission hforwarded hanswered) hend
    hframes ?_⟩
  rw [hasked, daemonAnswers_request]
  intro msg hmem bytes hencode
  obtain rfl := List.mem_singleton.mp hmem
  cases hencode
  decide

end PermeantOS
