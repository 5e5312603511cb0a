import PermeantOS.Message
import PermeantOS.Quant

namespace PermeantOS

inductive TransferCodec
  | none | fp8 | qatq
  deriving DecidableEq, Repr

def TransferCodec.headerScheme : TransferCodec → Option String
  | .none => Option.none
  | .fp8 => some "fp8"
  | .qatq => some "qatq"

structure EncodedPayload where
  data : List UInt8
  codec : Option PayloadCodecMetadata
  deriving DecidableEq, Repr

variable {F : Type} [F32Bits F] [F32Arith F]

/-- The source side of one chunk payload. -/
def encodePayload (qatq : Qatq F) (data : List F) : TransferCodec → Fallible EncodedPayload
  | .none => .ok ⟨data.flatMap f32ToBeBytes, Option.none⟩
  | .fp8 =>
    let scale := computeOptimalScale data (F32Arith.lit 448)
    match quantizeE4m3Scaled data scale with
    | some bytes => .ok ⟨bytes, Option.none⟩
    | Option.none => .error (.panic "stack overflow")
  | .qatq => do
    let transfer ← encodeQatqExactF32leTransfer qatq data
    pure ⟨transfer.payload, some ⟨"qatq", transfer.storage.name, transfer.storage.strategyName,
      transfer.rawF32leLen⟩⟩

/-- The target side: the `match` on the header's transfer scheme. -/
def decodePayload (qatq : Qatq F) (scheme : Option String) (codec : Option PayloadCodecMetadata)
    (data : List UInt8) (expectedFloatCount : Usize) : Fallible (List F) :=
  match scheme with
  | Option.none => .ok ((chunksExactFour data).map f32FromBeBytes)
  | some scheme =>
    if scheme = "fp8" then .ok (dequantizeE4m3Scaled data (F32Arith.lit (1 / 10)))
    else if scheme = "qatq" then do
      let codec ← contextOption "QATQ payload chunk is missing codec metadata" codec
      bailIf (codec.transferCodec ≠ "qatq")
        s!"QATQ header received payload codec metadata for {codec.transferCodec}"
      if codec.storage = qatqExactF32leStorage ∨ codec.storage = qatqPhase2Storage ∨
          codec.storage = rawF32lePassThroughStorage then
        decodeQatqPhase2Transfer qatq codec.storage data expectedFloatCount
      else bail s!"Unsupported QATQ payload storage: {codec.storage}"
    else bail s!"Unsupported transfer quantization scheme: {scheme}"

theorem chunksExactFour_flatMap {encode : F32 → List UInt8} {decode : List UInt8 → F32}
    (hlen : ∀ x, ∃ a b c d, encode x = [a, b, c, d]) (hinv : ∀ x, decode (encode x) = x)
    (xs : List F32) : (chunksExactFour (xs.flatMap encode)).map decode = xs := by
  induction xs with
  | nil => rfl
  | cons x xs ih =>
    obtain ⟨a, b, c, d, hb⟩ := hlen x
    have hx : decode [a, b, c, d] = x := by rw [← hb, hinv]
    rw [List.flatMap_cons, hb]
    simp only [List.cons_append, List.nil_append, chunksExactFour, List.map_cons, hx, ih]

theorem f32FromBeBytes_toBeBytes (x : F32) : f32FromBeBytes (f32ToBeBytes x) = x := by
  rw [f32FromBeBytes, f32ToBeBytes, u32FromBeBytes_toBeBytes]
  rfl

theorem f32FromLeBytes_toLeBytes (x : F32) : f32FromLeBytes (f32ToLeBytes x) = x := by
  rw [f32FromLeBytes, f32ToLeBytes, List.reverse_reverse, u32FromBeBytes_toBeBytes]
  rfl

theorem chunksExactFour_be (xs : List F32) :
    (chunksExactFour (xs.flatMap f32ToBeBytes)).map f32FromBeBytes = xs :=
  chunksExactFour_flatMap (fun _ => ⟨_, _, _, _, rfl⟩) f32FromBeBytes_toBeBytes xs

theorem chunksExactFour_le (xs : List F32) :
    (chunksExactFour (xs.flatMap f32ToLeBytes)).map f32FromLeBytes = xs :=
  chunksExactFour_flatMap (fun _ => ⟨_, _, _, _, rfl⟩) f32FromLeBytes_toLeBytes xs

/-- Without a codec the target reads back the bit patterns that were sent. -/
theorem decodePayload_plain (qatq : Qatq F32) (codec : Option PayloadCodecMetadata)
    (values : List F32) (n : Usize) :
    decodePayload qatq none codec (values.flatMap f32ToBeBytes) n = .ok values := by
  rw [decodePayload, chunksExactFour_be]

theorem decodeQatq_encodeQatq {qatq : Qatq F32} (hq : qatq.RoundTrips) {data values : List F32}
    {transfer : QatqPhase2Transfer} (henc : encodeQatqExactF32leTransfer qatq data = .ok transfer)
    {n : Usize}
    (hdec : decodeQatqPhase2Transfer qatq transfer.storage.name transfer.payload n = .ok values) :
    values = data := by
  obtain ⟨payload, hp, h⟩ := except_bind_ok_iff.mp henc
  cases h
  rw [decodeQatqPhase2Transfer, if_pos (show QatqTransferStorage.qatqExactF32Le.name =
    qatqExactF32leStorage from rfl)] at hdec
  obtain ⟨decoded, hd, h⟩ := except_bind_ok_iff.mp hdec
  obtain ⟨_, h⟩ := except_bind_unit_ok_iff.mp h
  obtain ⟨_, h⟩ := except_bind_unit_ok_iff.mp h
  cases (mapErr_ok_iff.mp hd).symm.trans (hq _ _ (mapErr_ok_iff.mp hp))
  cases h
  exact chunksExactFour_le data

/-- Without a codec or with `qatq`, what the target decodes is what the source encoded. -/
theorem decodePayload_encodePayload {qatq : Qatq F32} (hq : qatq.RoundTrips)
    {transferCodec : TransferCodec} (hc : transferCodec ≠ .fp8) {data values : List F32}
    {payload : EncodedPayload} (henc : encodePayload qatq data transferCodec = .ok payload) {n : Usize}
    (hdec : decodePayload qatq transferCodec.headerScheme payload.codec payload.data n = .ok values) :
    values = data := by
  cases transferCodec with
  | none =>
    cases henc
    exact (Except.ok.inj ((decodePayload_plain _ _ _ _).symm.trans hdec)).symm
  | fp8 => exact absurd rfl hc
  | qatq =>
    obtain ⟨transfer, ht, h⟩ := except_bind_ok_iff.mp henc
    cases h
    rw [TransferCodec.headerScheme, decodePayload, if_neg (by decide), if_pos rfl] at hdec
    obtain ⟨codec, hcodec, h⟩ := except_bind_ok_iff.mp hdec
    cases contextOption_ok_iff.mp hcodec
    obtain ⟨_, h⟩ := except_bind_unit_ok_iff.mp h
    split at h
    next => exact decodeQatq_encodeQatq hq ht h
    next => cases h

end PermeantOS
