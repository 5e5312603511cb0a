import PermeantOS.Usxf

namespace PermeantOS

structure EncryptedEnvelope where
  ciphertext : List UInt8
  nonce : List UInt8
  signature : List UInt8
  publicKey : List UInt8
  deriving DecidableEq, Repr

/-- The AES-256-GCM and Ed25519 operations of the `aes_gcm` and `ed25519_dalek` crates, with keys
and signatures as their byte encodings. -/
structure Crypto where
  encrypt : List UInt8 → List UInt8 → List UInt8 → Option (List UInt8)
  decrypt : List UInt8 → List UInt8 → List UInt8 → Option (List UInt8)
  verifyingKeyOf : List UInt8 → List UInt8
  acceptsKey : List UInt8 → Bool
  sign : List UInt8 → List UInt8 → List UInt8
  verify : List UInt8 → List UInt8 → List UInt8 → Bool

/-- What the two crates document: decryption undoes encryption, a signing key's own verifying key
parses and accepts its signatures, and keys and signatures have their fixed widths. -/
structure Crypto.Lawful (crypto : Crypto) : Prop where
  decrypt_encrypt : ∀ key nonce plaintext ciphertext,
    crypto.encrypt key nonce plaintext = some ciphertext →
    crypto.decrypt key nonce ciphertext = some plaintext
  publicKey_length : ∀ signingKey, (crypto.verifyingKeyOf signingKey).length = 32
  publicKey_accepted : ∀ signingKey, crypto.acceptsKey (crypto.verifyingKeyOf signingKey) = true
  signature_length : ∀ signingKey message, (crypto.sign signingKey message).length = 64
  verify_sign : ∀ signingKey message,
    crypto.verify (crypto.verifyingKeyOf signingKey) message (crypto.sign signingKey message) = true

def aesGcmNonceLen : Nat := 12

/-- `nonce` is what the thread's random generator filled in. -/
def sealPacket (crypto : Crypto) (nonce plaintext aesKey signingKey : List UInt8) :
    Fallible EncryptedEnvelope := do
  let ciphertext ← contextOption "Encryption failed: Error" (crypto.encrypt aesKey nonce plaintext)
  let signature := crypto.sign signingKey (ciphertext ++ nonce)
  pure ⟨ciphertext, nonce, signature, crypto.verifyingKeyOf signingKey⟩

def openPacket (crypto : Crypto) (envelope : EncryptedEnvelope) (aesKey : List UInt8) :
    Fallible (List UInt8) := do
  bailIf (envelope.nonce.length ≠ aesGcmNonceLen)
    s!"Invalid nonce length: expected {aesGcmNonceLen}, got {envelope.nonce.length}"
  bailIf (envelope.publicKey.length ≠ 32) "Invalid public key length"
  bailIf (crypto.acceptsKey envelope.publicKey = false) "Failed to parse verifying key"
  bailIf (envelope.signature.length ≠ 64) "Invalid signature length"
  bailIf (crypto.verify envelope.publicKey (envelope.ciphertext ++ envelope.nonce)
      envelope.signature = false) "Signature verification failed (integrity check failed)"
  contextOption "Decryption failed (ciphertext may be corrupted): Error"
    (crypto.decrypt aesKey envelope.nonce envelope.ciphertext)

theorem openPacket_sealPacket {crypto : Crypto} (lawful : crypto.Lawful)
    {nonce plaintext aesKey signingKey : List UInt8} {envelope : EncryptedEnvelope}
    (hn : nonce.length = aesGcmNonceLen)
    (h : sealPacket crypto nonce plaintext aesKey signingKey = .ok envelope) :
    openPacket crypto envelope aesKey = .ok plaintext := by
  obtain ⟨ciphertext, hc, he⟩ := except_bind_ok_iff.mp h
  cases he
  rw [contextOption_ok_iff] at hc
  simp only [openPacket, except_bind_unit_ok_iff, bailIf_ok_iff, contextOption_ok_iff, ne_eq,
    not_not, Bool.not_eq_false]
  exact ⟨hn, lawful.publicKey_length _, lawful.publicKey_accepted _, lawful.signature_length _ _,
    lawful.verify_sign _ _, lawful.decrypt_encrypt _ _ _ _ hc⟩

end PermeantOS
