import PermeantOS.Session
import Mathlib.Data.Finset.Sort
import Mathlib.Data.String.Basic

namespace PermeantOS

/-- One step of the reflected CRC-32 division. -/
def crc32Step (crc : UInt32) : UInt32 :=
  if crc &&& 1 = 1 then (crc >>> 1) ^^^ 0xedb88320 else crc >>> 1

/-- The CRC-32 that `crc32fast` computes. -/
def crc32Ieee (data : List UInt8) : UInt32 :=
  data.foldl (fun crc byte => crc32Step^[8] (crc ^^^ byte.toUInt32)) 0xffffffff ^^^ 0xffffffff

def daemonKey : List UInt8 := List.replicate 32 7

/-- The Ed25519 key of the recorded sender, whose seed is `01` repeated. -/
def senderPublicKey : List UInt8 :=
  bigEndian 32 0x8a88e3dd7409f195fd52db2d3cba5d72ca6709bf1d94121bf3748801b40f6f5c

theorem senderPublicKey_length : senderPublicKey.length = 32 := bigEndian_length _ _

/-- A header as it was sent once: its JSON text, and what sealed it under the daemon's key. -/
structure SealedHeader where
  header : UsxfHeader
  json : String
  nonce : List UInt8
  ciphertext : List UInt8
  signature : List UInt8

def SealedHeader.envelope (entry : SealedHeader) : EncryptedEnvelope :=
  ⟨entry.ciphertext, entry.nonce, entry.signature, senderPublicKey⟩

/-- Headers recorded from one sender. No nonce and no text occurs twice. -/
structure Recording where
  entries : List SealedHeader
  nonce_inj : ∀ a ∈ entries, ∀ b ∈ entries, a.nonce = b.nonce → a = b
  json_inj : ∀ a ∈ entries, ∀ b ∈ entries, a.json = b.json → a = b
  nonce_length : ∀ a ∈ entries, a.nonce.length = aesGcmNonceLen
  signature_length : ∀ a ∈ entries, a.signature.length = 64

namespace Recording

/-- The signature of a recorded message; others are signed with zeros. -/
def signatureOf (recording : Recording) (message : List UInt8) : List UInt8 :=
  ((recording.entries.find? fun a => a.ciphertext ++ a.nonce = message).map (·.signature)).getD
    (List.replicate 64 0)

/-- The two crates as far as they were recorded: nothing else encrypts, and only the sender's
signatures verify. -/
def crypto (recording : Recording) : Crypto where
  encrypt aesKey nonce plaintext := (recording.entries.find? fun a =>
    aesKey = daemonKey ∧ a.nonce = nonce ∧ asBytes a.json = plaintext).map (·.ciphertext)
  decrypt aesKey nonce ciphertext := (recording.entries.find? fun a =>
    aesKey = daemonKey ∧ a.nonce = nonce ∧ a.ciphertext = ciphertext).map fun a => asBytes a.json
  verifyingKeyOf _ := senderPublicKey
  acceptsKey publicKey := decide (publicKey = senderPublicKey)
  sign _ message := recording.signatureOf message
  verify publicKey message signature :=
    decide (publicKey = senderPublicKey ∧ signature = recording.signatureOf message)

def sortedOrder : HashOrder where
  keys m := m.keys.sort (· ≤ ·)
  nodup_keys m := Finset.sort_nodup _ _
  mem_keys_iff m k := by rw [Finset.mem_sort, Finmap.mem_keys]

def host {F : Type} (recording : Recording) : Host F where
  crc32 := crc32Ieee
  crypto := recording.crypto
  aesKey := daemonKey
  headerFromSlice bytes :=
    (recording.entries.find? fun a => asBytes a.json = bytes).map (·.header)
  qatq := Qatq.stored
  targetDevice := "cpu"
  injectorHost := ⟨fun _ _ => bail "Failed to start injector command", fun _ => none⟩
  hashOrder := sortedOrder

end Recording

theorem find?_eq_of_unique {α : Type} {xs : List α} {p : α → Bool} {x : α} (hx : x ∈ xs)
    (hp : p x = true) (hu : ∀ y ∈ xs, p y = true → y = x) : xs.find? p = some x := by
  cases hf : xs.find? p with
  | none => exact absurd hp (by simpa using List.find?_eq_none.mp hf x hx)
  | some y => rw [hu y (List.mem_of_find?_eq_some hf) (List.find?_some hf)]

section Lookup

variable {recording : Recording} {entry : SealedHeader}

theorem Recording.decrypt_eq (h : entry ∈ recording.entries) :
    recording.crypto.decrypt daemonKey entry.nonce entry.ciphertext = some (asBytes entry.json) := by
  have hf : (recording.entries.find? fun a => daemonKey = daemonKey ∧ a.nonce = entry.nonce ∧
      a.ciphertext = entry.ciphertext) = some entry :=
    find?_eq_of_unique h (by simp) fun a ha hp =>
      recording.nonce_inj a ha entry h (by simp at hp; exact hp.1)
  exact congrArg (Option.map fun a => asBytes a.json) hf

theorem Recording.signatureOf_eq (h : entry ∈ recording.entries) :
    recording.signatureOf (entry.ciphertext ++ entry.nonce) = entry.signature := by
  have hf : (recording.entries.find? fun a => a.ciphertext ++ a.nonce =
      entry.ciphertext ++ entry.nonce) = some entry := by
    refine find?_eq_of_unique h (by simp) fun a ha hp => recording.nonce_inj a ha entry h ?_
    have hlen : a.nonce.length = entry.nonce.length :=
      (recording.nonce_length a ha).trans (recording.nonce_length entry h).symm
    exact (List.append_inj' (by simpa using hp) hlen).2
  simp only [Recording.signatureOf, hf, Option.map_some, Option.getD_some]

theorem Recording.headerFromSlice_eq {F : Type} (h : entry ∈ recording.entries) :
    (recording.host (F := F)).headerFromSlice (asBytes entry.json) = some entry.header := by
  have hf : (recording.entries.find? fun a => asBytes a.json = asBytes entry.json) = some entry :=
    find?_eq_of_unique h (by simp) fun a ha hp =>
      recording.json_inj a ha entry h (asBytes_injective (by simpa using hp))
  exact congrArg (Option.map (·.header)) hf

end Lookup

theorem Recording.crypto_lawful (recording : Recording) : recording.crypto.Lawful where
  decrypt_encrypt key nonce plaintext ciphertext h := by
    obtain ⟨a, hf, rfl⟩ := Option.map_eq_some_iff.mp h
    have ha := List.mem_of_find?_eq_some hf
    have hp := List.find?_some hf
    simp only [decide_eq_true_eq] at hp
    obtain ⟨rfl, rfl, rfl⟩ := hp
    exact Recording.decrypt_eq ha
  publicKey_length _ := senderPublicKey_length
  publicKey_accepted _ := by simp [Recording.crypto]
  signature_length _ message := by
    show (recording.signatureOf message).length = 64
    unfold Recording.signatureOf
    cases hf : recording.entries.find? fun a => a.ciphertext ++ a.nonce = message with
    | none => simp
    | some a => simpa using recording.signature_length a (List.mem_of_find?_eq_some hf)
  verify_sign _ message := by simp [Recording.crypto]

theorem Recording.sealPacket_eq {recording : Recording} {entry : SealedHeader}
    (h : entry ∈ recording.entries) (signingKey : List UInt8) :
    sealPacket recording.crypto entry.nonce (asBytes entry.json) daemonKey signingKey =
      .ok entry.envelope := by
  have hf : (recording.entries.find? fun a => daemonKey = daemonKey ∧ a.nonce = entry.nonce ∧
      asBytes a.json = asBytes entry.json) = some entry :=
    find?_eq_of_unique h (by simp) fun a ha hp =>
      recording.nonce_inj a ha entry h (by simp at hp; exact hp.1)
  have hencrypt : recording.crypto.encrypt daemonKey entry.nonce (asBytes entry.json) =
      some entry.ciphertext := congrArg (Option.map SealedHeader.ciphertext) hf
  refine except_bind_ok_iff.mpr ⟨_, contextOption_ok_iff.mpr hencrypt, ?_⟩
  have hsign : recording.crypto.sign signingKey (entry.ciphertext ++ entry.nonce) = entry.signature :=
    Recording.signatureOf_eq h
  rw [hsign]
  rfl

theorem Recording.openHeader_eq {F : Type} {recording : Recording} {entry : SealedHeader}
    (h : entry ∈ recording.entries) (hv : entry.header.Valid) :
    openHeader (recording.host (F := F)) entry.envelope = .ok entry.header := by
  have hopen : openPacket recording.crypto entry.envelope daemonKey = .ok (asBytes entry.json) := by
    simp only [openPacket, except_bind_unit_ok_iff, bailIf_ok_iff, contextOption_ok_iff, ne_eq,
      not_not, Bool.not_eq_false]
    refine ⟨recording.nonce_length entry h, senderPublicKey_length,
      by simp [Recording.crypto, SealedHeader.envelope], recording.signature_length entry h, ?_,
      Recording.decrypt_eq h⟩
    simp [Recording.crypto, SealedHeader.envelope, Recording.signatureOf_eq h]
  unfold openHeader
  refine except_bind_ok_iff.mpr ⟨asBytes entry.json, context_ok_iff.mpr hopen, ?_⟩
  refine except_bind_ok_iff.mpr ⟨entry.header,
    contextOption_ok_iff.mpr (Recording.headerFromSlice_eq h), ?_⟩
  exact except_bind_unit_ok_iff.mpr ⟨context_ok_iff.mpr hv, rfl⟩

end PermeantOS
