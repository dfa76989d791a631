import PeerChannelEncryptor.Bytes

/-!
# PeerChannelEncryptor.Crypto

The external collaborators of `peer_channel_encryptor.rs`, and the error its checks return.

The curve, SHA-256, HMAC and ChaCha20-Poly1305 are outside the source tree (the spec lists them
as external collaborators). `Crypto` takes them as parameters, with the facts their Rust types
fix as fields: a compressed point is `[u8; 33]`, a tag `[u8; 16]`, and the AEAD writes exactly
into the buffer it is given. What the protocol needs of them beyond their types is stated as
laws (`EcdhCommutes`, `AeadInverts`, `ParseInverts`), which a theorem takes as hypotheses where
it needs them.

`Crypto.toy` satisfies every law, so that a theorem with laws among its hypotheses can be
instantiated on concrete keys.
-/

namespace Lightning
namespace PeerChannelEncryptor

/-- The curve, hash and AEAD primitives, over the types of secret and public keys. -/
structure Crypto (SecretKey PublicKey : Type) where
  /-- `PublicKey::from_secret_key`: the point `G·s`. -/
  fromSecretKey : SecretKey → PublicKey
  /-- `PublicKey::serialize`: the compressed encoding. -/
  serialize : PublicKey → Bytes
  serialize_length : ∀ p, (serialize p).length = 33
  /-- `PublicKey::from_slice`: `none` on bytes that encode no point. -/
  fromSlice : Bytes → Option PublicKey
  /-- `SharedSecret::new(point, scalar)`: the ECDH secret. -/
  sharedSecret : PublicKey → SecretKey → Bytes
  /-- SHA-256 of everything one engine was fed. -/
  sha256 : Bytes → Bytes
  /-- HMAC-SHA-256 keyed by the first argument. -/
  hmac : Bytes → Bytes → Bytes
  /-- `ChaCha20Poly1305RFC::new(key, nonce, ad).encrypt`: the ciphertext and the tag. -/
  encrypt : (key nonce ad plaintext : Bytes) → Bytes × Bytes
  encrypt_length : ∀ key nonce ad p, (encrypt key nonce ad p).1.length = p.length
  tag_length : ∀ key nonce ad p, (encrypt key nonce ad p).2.length = 16
  /-- `ChaCha20Poly1305RFC::new(key, nonce, ad).decrypt`: the plaintext, or `none` when the tag
  does not verify. -/
  decrypt : (key nonce ad ciphertext tag : Bytes) → Option Bytes
  decrypt_length : ∀ key nonce ad c t p, decrypt key nonce ad c t = some p → p.length = c.length

section Laws

variable {SecretKey PublicKey : Type} (C : Crypto SecretKey PublicKey)

/-- ECDH: both ends of an exchange derive the same secret, `ECDH(a, G·b) = ECDH(b, G·a)`. -/
def Crypto.EcdhCommutes : Prop :=
  ∀ a b, C.sharedSecret (C.fromSecretKey b) a = C.sharedSecret (C.fromSecretKey a) b

/-- Decryption inverts encryption under the same key, nonce and associated data. -/
def Crypto.AeadInverts : Prop :=
  ∀ key nonce ad p,
    C.decrypt key nonce ad (C.encrypt key nonce ad p).1 (C.encrypt key nonce ad p).2 = some p

/-- Parsing inverts compressed serialization. -/
def Crypto.ParseInverts : Prop := ∀ p, C.fromSlice (C.serialize p) = some p

end Laws

/-- A toy instance: keys are bytes with `G·s = s`, ECDH multiplies, the cipher is the identity
with an all-zero tag, and each hash keeps at most 32 bytes of its input. -/
def Crypto.toy : Crypto UInt8 UInt8 where
  fromSecretKey s := s
  serialize p := p :: List.replicate 32 0
  serialize_length _ := rfl
  fromSlice b := if b.tail = List.replicate 32 0 then b.head? else none
  sharedSecret p s := [UInt8.ofNat (p.toNat * s.toNat)]
  sha256 b := b.take 32
  hmac k m := (k ++ m).take 32
  encrypt _ _ _ p := (p, List.replicate 16 0)
  encrypt_length _ _ _ _ := rfl
  tag_length _ _ _ _ := rfl
  decrypt _ _ _ c t := if t = List.replicate 16 0 then some c else none
  decrypt_length _ _ _ c t p h := by
    by_cases ht : t = List.replicate 16 0 <;> simp_all

theorem Crypto.toy_ecdhCommutes : Crypto.toy.EcdhCommutes := by
  intro a b; simp [Crypto.toy, Nat.mul_comm]

theorem Crypto.toy_aeadInverts : Crypto.toy.AeadInverts := by
  intro _ _ _ _; simp [Crypto.toy]

theorem Crypto.toy_parseInverts : Crypto.toy.ParseInverts := by
  intro _; simp [Crypto.toy]

/-! ## Errors -/

/-- The message a disconnection may carry; this file never sends one. -/
structure ErrorMessage where
  data : String
  deriving DecidableEq, Repr

/-- `msgs::ErrorAction`: what the peer handler should do about an error. -/
inductive ErrorAction where
  | disconnectPeer (msg : Option ErrorMessage)
  deriving DecidableEq, Repr

/-- `msgs::HandleError`. -/
structure HandleError where
  err : String
  action : Option ErrorAction
  deriving DecidableEq, Repr

/-- The error of every check in this file: `err`, and disconnect the peer without a message. -/
def HandleError.disconnect (err : String) : HandleError :=
  { err, action := some (.disconnectPeer none) }

/-- A call returning `Result<T, HandleError>`, or panicking. -/
abbrev Result (α : Type) := ExceptT HandleError (Except Panic) α

@[simp] theorem result_lift_ok {α : Type} (a : α) :
    (monadLift (Except.ok a : Except Panic α) : Result α) = pure a := rfl

@[simp] theorem except_mapError_ok {ε ε' α : Type} (f : ε → ε') (a : α) :
    (Except.ok a : Except ε α).mapError f = .ok a := rfl

@[simp] theorem except_mapError_error {ε ε' α : Type} (f : ε → ε') (e : ε) :
    (Except.error e : Except ε α).mapError f = .error (f e) := rfl

@[simp] theorem result_run_lift_error {α β : Type} (p : Panic) (f : α → Result β) :
    ExceptT.run ((monadLift (Except.error p : Except Panic α) : Result α) >>= f) = .error p := rfl

end PeerChannelEncryptor
end Lightning
