import PeerChannelEncryptor.State

/-!
# PeerChannelEncryptor.Bolt8

The handshake and the transport key schedule as the spec describes them (BOLT 8: Noise_XK over
secp256k1 with ChaCha20-Poly1305 and SHA-256), over the same primitives as the code.

These definitions follow the spec's words, not the Rust code: acts are built by concatenation
and read by `take` and `drop`, a rejected act names the spec's error kind (`Reject`), and
nothing panics. `Conformance` proves that each transition of the code computes exactly this
reference, `Agreement` that an honest run of it ends with matching keys, and `Schedule` that
the transport follows `keyChain`.
-/

namespace Lightning
namespace PeerChannelEncryptor
namespace Bolt8

variable {SecretKey PublicKey : Type} (C : Crypto SecretKey PublicKey)

/-! ## The primitives as the protocol uses them -/

/-- The 12-byte AEAD nonce: four zero bytes, then `n` little-endian over 8 bytes. -/
def nonce (n : UInt64) : Bytes := List.replicate 4 0 ++ le64ToArray n

/-- `encrypt_with_ad(n, key, ad, plaintext)`: the ciphertext, then the 16-byte tag. -/
def encryptWithAd (n : UInt64) (key ad plaintext : Bytes) : Bytes :=
  (C.encrypt key (nonce n) ad plaintext).1 ++ (C.encrypt key (nonce n) ad plaintext).2

/-- `decrypt_with_ad(n, key, ad, ciphertext || tag)`: `none` when the tag does not verify. -/
def decryptWithAd (n : UInt64) (key ad ct : Bytes) : Option Bytes :=
  C.decrypt key (nonce n) ad (ct.take (ct.length - 16)) (ct.drop (ct.length - 16))

theorem encryptWithAd_length (n : UInt64) (key ad plaintext : Bytes) :
    (encryptWithAd C n key ad plaintext).length = plaintext.length + 16 := by
  simp [encryptWithAd, C.encrypt_length, C.tag_length]

/-- Decryption of a sealed plaintext under the same key, nonce and associated data. -/
theorem decryptWithAd_encryptWithAd (hA : C.AeadInverts) (n : UInt64) (key ad plaintext : Bytes) :
    decryptWithAd C n key ad (encryptWithAd C n key ad plaintext) = some plaintext := by
  have h1 := C.encrypt_length key (nonce n) ad plaintext
  have h2 := C.tag_length key (nonce n) ad plaintext
  have hlen : (encryptWithAd C n key ad plaintext).length - 16 =
      (C.encrypt key (nonce n) ad plaintext).1.length := by
    rw [encryptWithAd_length, h1]; omega
  rw [decryptWithAd, hlen, encryptWithAd, List.take_left, List.drop_left]
  exact hA key (nonce n) ad plaintext

/-- `hkdf_extract_expand(salt, ikm)`: `PRK = HMAC(salt, ikm)`, `T1 = HMAC(PRK, 0x01)`,
`T2 = HMAC(PRK, T1 || 0x02)`. -/
def hkdfExtractExpand (salt ikm : Bytes) : Bytes × Bytes :=
  let prk := C.hmac salt ikm
  let t1 := C.hmac prk [1]
  (t1, C.hmac prk (t1 ++ [2]))

/-- `h ← SHA-256(h || data)`. -/
def mixHash (s : BidirectionalNoiseState) (data : Bytes) : BidirectionalNoiseState :=
  { s with h := C.sha256 (s.h ++ data) }

/-- `hkdf_mix(state, ss)`: derives `(new_ck, temp_k)` from `ck` and `ss`, keeps `new_ck`, returns
`temp_k`. -/
def mixKey (s : BidirectionalNoiseState) (ss : Bytes) : Bytes × BidirectionalNoiseState :=
  ((hkdfExtractExpand C s.ck ss).2, { s with ck := (hkdfExtractExpand C s.ck ss).1 })

/-- Why a received act is rejected (spec §7). -/
inductive Reject where
  | unknownHandshakeVersion
  | invalidPublicKey
  | badMac
  | badRemoteStatic
  deriving DecidableEq, Repr

/-- The error reported for each rejection. -/
def Reject.toHandleError : Reject → HandleError
  | .unknownHandshakeVersion => .disconnect "Unknown handshake version number"
  | .invalidPublicKey => .disconnect "Invalid public key"
  | .badMac => .disconnect "Bad MAC"
  | .badRemoteStatic => .disconnect "Bad node_id from peer"

/-! ## The handshake -/

/-- The initiator's initial state, for the responder's static key `rs`: `ck = NOISE_CK`,
`h = SHA-256(NOISE_H || rs)`. -/
def initiatorState (rs : PublicKey) : BidirectionalNoiseState :=
  { h := C.sha256 (noiseH ++ C.serialize rs), ck := noiseCk }

/-- The responder's initial state, for its static secret `s`: `h = SHA-256(NOISE_H || G·s)`. -/
def responderState (s : SecretKey) : BidirectionalNoiseState :=
  initiatorState C (C.fromSecretKey s)

/-- Writing an ephemeral act with secret `e` to the peer key `r`: `E = G·e`, `h ← SHA-256(h || E)`,
`temp_k = hkdf_mix(ck, ECDH(e, r))`, `c = encrypt_with_ad(0, temp_k, h, ∅)`,
`h ← SHA-256(h || c)`; the act is `0x00 || E || c`, returned with `temp_k`. -/
def writeEphemeral (s : BidirectionalNoiseState) (e : SecretKey) (r : PublicKey) :
    (Bytes × Bytes) × BidirectionalNoiseState :=
  let E := C.serialize (C.fromSecretKey e)
  let s := mixHash C s E
  let (tempK, s) := mixKey C s (C.sharedSecret r e)
  let c := encryptWithAd C 0 tempK s.h []
  (([0] ++ E ++ c, tempK), mixHash C s c)

/-- Reading an ephemeral act with the local secret `k`: version byte `0x00`, the point `re` in
bytes `1..34`, `h ← SHA-256(h || re)`, `temp_k = hkdf_mix(ck, ECDH(k, re))`, the tag verified
with `ad = h`, `h ← SHA-256(h || tag)`. Returns `re` and `temp_k`. -/
def readEphemeral (s : BidirectionalNoiseState) (act : Bytes) (k : SecretKey) :
    Except Reject ((PublicKey × Bytes) × BidirectionalNoiseState) :=
  if act.head? ≠ some 0 then .error .unknownHandshakeVersion else
  match C.fromSlice ((act.drop 1).take 33) with
  | none => .error .invalidPublicKey
  | some re =>
    let s := mixHash C s (C.serialize re)
    let (tempK, s) := mixKey C s (C.sharedSecret re k)
    match decryptWithAd C 0 tempK s.h (act.drop 34) with
    | none => .error .badMac
    | some _ => .ok ((re, tempK), mixHash C s (act.drop 34))

/-- Act one, written by the initiator (spec §4.2). -/
def getActOne (st : InProgress SecretKey PublicKey (.preActOne .outbound)) :
    InProgress SecretKey PublicKey (.postActOne .outbound) × Bytes :=
  let ((act, _), s) := writeEphemeral C st.bidirectionalState st.directionalState.ie
    st.directionalState.theirNodeId
  (⟨st.directionalState, s⟩, act)

/-- Act one read by the responder, and act two written with its ephemeral secret (spec §4.3). -/
def processActOneWithKeys (st : InProgress SecretKey PublicKey (.preActOne .inbound))
    (actOne : Bytes) (ourNodeSecret ourEphemeral : SecretKey) :
    Except Reject (InProgress SecretKey PublicKey (.postActTwo .inbound) × Bytes) := do
  let ((ie, _), s) ← readEphemeral C st.bidirectionalState actOne ourNodeSecret
  let ((act, tempK2), s) := writeEphemeral C s ourEphemeral ie
  pure (⟨⟨ie, ourEphemeral, tempK2⟩, s⟩, act)

/-- Act two read by the initiator, then act three: `c = encrypt_with_ad(1, temp_k2, h, G·s)`,
`h ← SHA-256(h || c)`, `temp_k3 = hkdf_mix(ck, ECDH(s, re))`,
`t = encrypt_with_ad(0, temp_k3, h, ∅)`, act three `0x00 || c || t`, and
`(sk, rk) = hkdf_extract_expand(ck, ∅)` (spec §4.2). -/
def processActTwo (st : InProgress SecretKey PublicKey (.postActOne .outbound)) (actTwo : Bytes)
    (ourNodeSecret : SecretKey) : Except Reject (Finished × Bytes × PublicKey) := do
  let ((re, tempK2), s) ← readEphemeral C st.bidirectionalState actTwo st.directionalState.ie
  let c := encryptWithAd C 1 tempK2 s.h (C.serialize (C.fromSecretKey ourNodeSecret))
  let s := mixHash C s c
  let (tempK3, s) := mixKey C s (C.sharedSecret re ourNodeSecret)
  let t := encryptWithAd C 0 tempK3 s.h []
  let (sk, rk) := hkdfExtractExpand C s.ck []
  pure (⟨sk, 0, s.ck, rk, 0, s.ck⟩, [0] ++ c ++ t, st.directionalState.theirNodeId)

/-- Act three read by the responder: version byte, the static key decrypted from bytes `1..50`
at nonce 1 and parsed, `h ← SHA-256(h || c)`, `temp_k = hkdf_mix(ck, ECDH(e, rs))`, the final
tag verified at nonce 0, and `(rk, sk) = hkdf_extract_expand(ck, ∅)`, in the opposite order
from the initiator (spec §4.3). -/
def processActThree (st : InProgress SecretKey PublicKey (.postActTwo .inbound))
    (actThree : Bytes) : Except Reject (Finished × PublicKey) :=
  if actThree.head? ≠ some 0 then .error .unknownHandshakeVersion else
  let c := (actThree.drop 1).take 49
  match decryptWithAd C 1 st.directionalState.tempK2 st.bidirectionalState.h c with
  | none => .error .badMac
  | some rsBytes =>
    match C.fromSlice rsBytes with
    | none => .error .badRemoteStatic
    | some rs =>
      let s := mixHash C st.bidirectionalState c
      let (tempK, s) := mixKey C s (C.sharedSecret rs st.directionalState.re)
      match decryptWithAd C 0 tempK s.h (actThree.drop 50) with
      | none => .error .badMac
      | some _ =>
        let (rk, sk) := hkdfExtractExpand C s.ck []
        .ok (⟨sk, 0, s.ck, rk, 0, s.ck⟩, rs)

/-! ## The transport key schedule -/

/-- The chaining key and key of epoch `i` of one direction: `(C_0, K_0) = (ck, k)` and
`(C_{i+1}, K_{i+1}) = hkdf_extract_expand(C_i, K_i)`. -/
def keyChain (ck k : Bytes) : Nat → Bytes × Bytes
  | 0 => (ck, k)
  | i + 1 => hkdfExtractExpand C (keyChain ck k i).1 (keyChain ck k i).2

/-- The key of the `t`-th AEAD operation of a direction: that of epoch `t / 1000`. -/
def opKey (ck k : Bytes) (t : Nat) : Bytes := (keyChain C ck k (t / 1000)).2

/-- The nonce of the `t`-th AEAD operation of a direction: `t mod 1000`. -/
def opNonce (t : Nat) : UInt64 := UInt64.ofNat (t % 1000)

/-- Frame `j` of a direction whose epoch 0 is `(ck, k)`: the length header is AEAD operation
`2j` and the payload operation `2j + 1`. -/
def frame (ck k : Bytes) (j : Nat) (m : Bytes) : Bytes :=
  encryptWithAd C (opNonce (2 * j)) (opKey C ck k (2 * j)) [] (be16ToArray (UInt16.ofNat m.length)) ++
    encryptWithAd C (opNonce (2 * j + 1)) (opKey C ck k (2 * j + 1)) [] m

/-- Frames `j, j + 1, …` of a direction: one per message, in order. -/
def frames (ck k : Bytes) : Nat → List Bytes → List Bytes
  | _, [] => []
  | j, m :: ms => frame C ck k j m :: frames ck k (j + 1) ms

/-- Reading frames `j, j + 1, …` given as (header, payload) pairs: the length and the payload of
each, or `none` from the first tag that does not verify. -/
def openStream (ck k : Bytes) : Nat → List (Bytes × Bytes) → Option (List (UInt16 × Bytes))
  | _, [] => some []
  | j, (x, y) :: rest => do
    let p ← decryptWithAd C (opNonce (2 * j)) (opKey C ck k (2 * j)) [] x
    let m ← decryptWithAd C (opNonce (2 * j + 1)) (opKey C ck k (2 * j + 1)) [] y
    return (sliceToBe16 p, m) :: (← openStream ck k (j + 1) rest)

end Bolt8
end PeerChannelEncryptor
end Lightning
