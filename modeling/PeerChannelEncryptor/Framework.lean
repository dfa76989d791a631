import PeerChannelEncryptor.Bolt8

/-!
# PeerChannelEncryptor.Framework

The handshake of the Noise Protocol Framework, generic over handshake patterns: what
`peer_channel_encryptor.rs` is an instance of. The source names its protocol in the comment on
`NOISE_CK`, `Noise_XK_secp256k1_ChaChaPoly_SHA256`, with the prologue `lightning` in the
comment on `NOISE_H`.

The framework's symmetric state (`mixHash`, `mixKey`, `encryptAndHash`, `decryptAndHash`,
`split`), the meaning of each token of a message pattern for either role (`writeToken`,
`readToken`), `start` (the framework's `Initialize`) with the pre-messages, and `writeMessage`
and `readMessage`, which consume the message patterns in turn. The cipher is ChaChaPoly and the
hash SHA-256, so `ENCRYPT`, `DECRYPT` and `HKDF` are `Bolt8.encryptWithAd`,
`Bolt8.decryptWithAd` and `Bolt8.hkdfExtractExpand`; a public key is 33 bytes, a compressed
point. `writeToken_dh` and `readToken_dh` say once what a DH token does, for every role.

Two choices the framework leaves to an implementation are made as BOLT 8 makes them: the key
pair the `e` token generates is supplied by the caller, and a public key read from a message is
parsed where it is read, so that bytes that encode no point fail there. Pre-messages may name
static keys only; ephemeral pre-messages, which only fallback patterns use, are not modelled.

BOLT 8 frames each message behind a version byte 0 and sends empty payloads (`writeAct`,
`readAct`), and keeps `ck` next to each transport key for its key rotation (`transport`).
`XK` proves that the code's transitions are these functions at the pattern `XK`.
-/

namespace Lightning
namespace PeerChannelEncryptor
namespace Noise

variable {SecretKey PublicKey : Type} (C : Crypto SecretKey PublicKey)

/-- A token of a message pattern. -/
inductive Token where
  | e
  | s
  | ee
  | es
  | se
  | ss
  deriving DecidableEq, Repr

/-- The two roles of a handshake. -/
inductive Role where
  | initiator
  | responder
  deriving DecidableEq, Repr

/-- A handshake pattern: the pre-messages of each role, then the message patterns, the first
written by the initiator and the others by each role in turn. -/
structure Pattern where
  preInitiator : List Token
  preResponder : List Token
  messages : List (List Token)

/-- `XK`: `<- s`, then `-> e, es`, `<- e, ee`, `-> s, se`. -/
def Pattern.xk : Pattern := ⟨[], [.s], [[.e, .es], [.e, .ee], [.s, .se]]⟩

/-- `Noise_XK_secp256k1_ChaChaPoly_SHA256` in ASCII. -/
def bolt8Name : Bytes :=
  [0x4e, 0x6f, 0x69, 0x73, 0x65, 0x5f, 0x58, 0x4b, 0x5f, 0x73, 0x65, 0x63, 0x70, 0x32, 0x35, 0x36,
   0x6b, 0x31, 0x5f, 0x43, 0x68, 0x61, 0x43, 0x68, 0x61, 0x50, 0x6f, 0x6c, 0x79, 0x5f, 0x53, 0x48,
   0x41, 0x32, 0x35, 0x36]

/-- BOLT 8's prologue, `lightning` in ASCII. -/
def bolt8Prologue : Bytes := [0x6c, 0x69, 0x67, 0x68, 0x74, 0x6e, 0x69, 0x6e, 0x67]

/-- A cipher state: the key, once one has been mixed in, and the nonce. -/
structure CipherState where
  k : Option Bytes
  n : UInt64
  deriving DecidableEq, Repr

/-- A symmetric state: the cipher state, the chaining key and the handshake hash. -/
structure SymmetricState where
  cs : CipherState
  ck : Bytes
  h : Bytes
  deriving DecidableEq, Repr

/-- Why a handshake step fails. -/
inductive Error where
  /-- A token needs a key the state does not hold. -/
  | missingKey
  /-- Every message of the pattern has been processed. -/
  | noMessage
  /-- The message ends before the bytes of a token. -/
  | tooShort
  /-- The bytes of an `e` token encode no public key. -/
  | invalidEphemeral
  /-- The decrypted bytes of an `s` token encode no public key. -/
  | invalidStatic
  /-- A tag does not verify. -/
  | decryptFailed
  deriving DecidableEq, Repr

/-- A handshake state: the symmetric state, the role, the local static and ephemeral secrets,
the peer's static and ephemeral keys, and the message patterns still to process. -/
structure HandshakeState (SecretKey PublicKey : Type) where
  ss : SymmetricState
  role : Role
  s : Option SecretKey
  e : Option SecretKey
  rs : Option PublicKey
  re : Option PublicKey
  pending : List (List Token)

/-! ## The symmetric state -/

/-- `MixHash(data)`: `h ← HASH(h || data)`. -/
def SymmetricState.mixHash (ss : SymmetricState) (data : Bytes) : SymmetricState :=
  { ss with h := C.sha256 (ss.h ++ data) }

/-- `MixKey(ikm)`: `(ck, temp_k) ← HKDF(ck, ikm)`, and the cipher state restarts with `temp_k` at
nonce 0. -/
def SymmetricState.mixKey (ss : SymmetricState) (ikm : Bytes) : SymmetricState :=
  ⟨⟨some (Bolt8.hkdfExtractExpand C ss.ck ikm).2, 0⟩, (Bolt8.hkdfExtractExpand C ss.ck ikm).1, ss.h⟩

/-- `EncryptAndHash(plaintext)`: encrypted with `ad = h` once a key is set, then mixed into
`h`. -/
def SymmetricState.encryptAndHash (ss : SymmetricState) (p : Bytes) : Bytes × SymmetricState :=
  match ss.cs.k with
  | none => (p, ss.mixHash C p)
  | some k =>
    let c := Bolt8.encryptWithAd C ss.cs.n k ss.h p
    (c, ({ ss with cs := ⟨some k, ss.cs.n + 1⟩ } : SymmetricState).mixHash C c)

/-- `DecryptAndHash(ciphertext)`: decrypted with `ad = h` once a key is set, then the ciphertext
is mixed into `h`. A ciphertext shorter than a tag does not verify. -/
def SymmetricState.decryptAndHash (ss : SymmetricState) (c : Bytes) :
    Except Error (Bytes × SymmetricState) :=
  match ss.cs.k with
  | none => .ok (c, ss.mixHash C c)
  | some k =>
    if c.length < 16 then .error .decryptFailed else
    match Bolt8.decryptWithAd C ss.cs.n k ss.h c with
    | none => .error .decryptFailed
    | some p => .ok (p, ({ ss with cs := ⟨some k, ss.cs.n + 1⟩ } : SymmetricState).mixHash C c)

/-- `Split()`: the keys of the two transport cipher states, the initiator's sending key first. -/
def SymmetricState.split (ss : SymmetricState) : Bytes × Bytes :=
  Bolt8.hkdfExtractExpand C ss.ck []

/-! ## Tokens -/

/-- `DH(key_pair, public_key)`, on keys the state may not hold. -/
def dh : Option SecretKey × Option PublicKey → Except Error Bytes
  | (some k, some p) => .ok (C.sharedSecret p k)
  | _ => .error .missingKey

/-- The local secret and the peer key a DH token combines, for the state's role: `es` is the
initiator's ephemeral with the responder's static, `se` the initiator's static with the
responder's ephemeral. `e` and `s` combine nothing. -/
def HandshakeState.dhKeys (hs : HandshakeState SecretKey PublicKey) :
    Token → Option SecretKey × Option PublicKey
  | .ee => (hs.e, hs.re)
  | .ss => (hs.s, hs.rs)
  | .es =>
    match hs.role with
    | .initiator => (hs.e, hs.rs)
    | .responder => (hs.s, hs.re)
  | .se =>
    match hs.role with
    | .initiator => (hs.s, hs.re)
    | .responder => (hs.e, hs.rs)
  | .e | .s => (none, none)

/-- Writing a token: `e` sends the public key of the generated key pair `gen` and mixes it into
`h`, `s` sends the static public key through `EncryptAndHash`, and a DH token mixes its secret
into the chaining key. -/
def writeToken (hs : HandshakeState SecretKey PublicKey) (gen : Option SecretKey) :
    Token → Except Error (Bytes × HandshakeState SecretKey PublicKey)
  | .e =>
    match gen with
    | none => .error .missingKey
    | some e =>
      let pub := C.serialize (C.fromSecretKey e)
      .ok (pub, { hs with e := some e, ss := hs.ss.mixHash C pub })
  | .s =>
    match hs.s with
    | none => .error .missingKey
    | some s =>
      let r := hs.ss.encryptAndHash C (C.serialize (C.fromSecretKey s))
      .ok (r.1, { hs with ss := r.2 })
  | t => do
    let ikm ← dh C (hs.dhKeys t)
    pure ([], { hs with ss := hs.ss.mixKey C ikm })

/-- Reading a token from the front of `msg`, returning the rest: `e` takes the peer's ephemeral
key and mixes its bytes into `h`, `s` takes the peer's static key through `DecryptAndHash`,
and a DH token mixes its secret into the chaining key. -/
def readToken (hs : HandshakeState SecretKey PublicKey) (msg : Bytes) :
    Token → Except Error (HandshakeState SecretKey PublicKey × Bytes)
  | .e =>
    if msg.length < 33 then .error .tooShort else
    match C.fromSlice (msg.take 33) with
    | none => .error .invalidEphemeral
    | some re => .ok ({ hs with re := some re, ss := hs.ss.mixHash C (msg.take 33) }, msg.drop 33)
  | .s =>
    let len := if hs.ss.cs.k.isSome then 33 + 16 else 33
    if msg.length < len then .error .tooShort else do
    let (p, ss) ← hs.ss.decryptAndHash C (msg.take len)
    match C.fromSlice p with
    | none => .error .invalidStatic
    | some rs => pure ({ hs with rs := some rs, ss }, msg.drop len)
  | t => do
    let ikm ← dh C (hs.dhKeys t)
    pure ({ hs with ss := hs.ss.mixKey C ikm }, msg)

/-- The tokens of one message pattern, written in order. -/
def writeTokens (gen : Option SecretKey) :
    HandshakeState SecretKey PublicKey → List Token →
      Except Error (Bytes × HandshakeState SecretKey PublicKey)
  | hs, [] => .ok ([], hs)
  | hs, t :: ts => do
    let (b, hs) ← writeToken C hs gen t
    let (bs, hs) ← writeTokens gen hs ts
    pure (b ++ bs, hs)

/-- The tokens of one message pattern, read in order from `msg`. -/
def readTokens :
    HandshakeState SecretKey PublicKey → List Token → Bytes →
      Except Error (HandshakeState SecretKey PublicKey × Bytes)
  | hs, [], msg => .ok (hs, msg)
  | hs, t :: ts, msg => do
    let (hs, msg) ← readToken C hs msg t
    readTokens hs ts msg

/-- An `e` token sends the generated key pair's public key and mixes it into `h`. -/
theorem writeToken_e (hs : HandshakeState SecretKey PublicKey) (e : SecretKey) :
    writeToken C hs (some e) .e =
      .ok (C.serialize (C.fromSecretKey e),
        { hs with e := some e, ss := hs.ss.mixHash C (C.serialize (C.fromSecretKey e)) }) := rfl

/-- A DH token whose keys the state holds mixes their shared secret into the chaining key and
writes nothing. -/
theorem writeToken_dh {hs : HandshakeState SecretKey PublicKey} {t : Token} {k : SecretKey}
    {p : PublicKey} (h : hs.dhKeys t = (some k, some p)) (gen : Option SecretKey) :
    writeToken C hs gen t = .ok ([], { hs with ss := hs.ss.mixKey C (C.sharedSecret p k) }) := by
  cases t
  case e | s => simp [HandshakeState.dhKeys] at h
  all_goals simp only [writeToken, h, dh, except_ok_bind, except_pure]

/-- A DH token whose keys the state holds mixes their shared secret into the chaining key and
reads nothing. -/
theorem readToken_dh {hs : HandshakeState SecretKey PublicKey} {t : Token} {k : SecretKey}
    {p : PublicKey} (h : hs.dhKeys t = (some k, some p)) (msg : Bytes) :
    readToken C hs msg t = .ok ({ hs with ss := hs.ss.mixKey C (C.sharedSecret p k) }, msg) := by
  cases t
  case e | s => simp [HandshakeState.dhKeys] at h
  all_goals simp only [readToken, h, dh, except_ok_bind, except_pure]

/-! ## Messages -/

/-- `WriteMessage(payload)`: the tokens of the next message pattern, then the payload through
`EncryptAndHash`. -/
def writeMessage (hs : HandshakeState SecretKey PublicKey) (gen : Option SecretKey)
    (payload : Bytes) : Except Error (Bytes × HandshakeState SecretKey PublicKey) :=
  match hs.pending with
  | [] => .error .noMessage
  | p :: rest => do
    let (buf, hs) ← writeTokens C gen hs p
    let (c, ss) := hs.ss.encryptAndHash C payload
    pure (buf ++ c, { hs with ss, pending := rest })

/-- `ReadMessage(message)`: the tokens of the next message pattern, then the rest of the message
through `DecryptAndHash`, which gives the payload. -/
def readMessage (hs : HandshakeState SecretKey PublicKey) (msg : Bytes) :
    Except Error (Bytes × HandshakeState SecretKey PublicKey) :=
  match hs.pending with
  | [] => .error .noMessage
  | p :: rest => do
    let (hs, msg) ← readTokens C hs p msg
    let (payload, ss) ← hs.ss.decryptAndHash C msg
    pure (payload, { hs with ss, pending := rest })

/-- The key a pre-message token names, for `role`: its own when the pre-message is its own
(`owner = role`), the peer's otherwise. -/
def preKey (role owner : Role) (s : Option SecretKey) (rs : Option PublicKey) :
    Token → Option PublicKey
  | .s => if role = owner then C.fromSecretKey <$> s else rs
  | _ => none

/-- The keys of one role's pre-message, mixed into `h` in order. -/
def mixPre (role owner : Role) (s : Option SecretKey) (rs : Option PublicKey) :
    SymmetricState → List Token → Except Error SymmetricState
  | ss, [] => .ok ss
  | ss, t :: ts =>
    match preKey C role owner s rs t with
    | none => .error .missingKey
    | some p => mixPre role owner s rs (ss.mixHash C (C.serialize p)) ts

/-- `Initialize`: `h` is the protocol name, padded, or its hash if longer than 32 bytes, and
`ck = h`; the prologue is mixed in, then the initiator's pre-message keys and the responder's. -/
def start (pat : Pattern) (protocolName prologue : Bytes) (role : Role)
    (s : Option SecretKey) (rs : Option PublicKey) :
    Except Error (HandshakeState SecretKey PublicKey) := do
  let h := if protocolName.length ≤ 32
    then protocolName ++ List.replicate (32 - protocolName.length) 0 else C.sha256 protocolName
  let ss := (SymmetricState.mk ⟨none, 0⟩ h h).mixHash C prologue
  let ss ← mixPre C role .initiator s rs ss pat.preInitiator
  let ss ← mixPre C role .responder s rs ss pat.preResponder
  pure ⟨ss, role, s, none, rs, none, pat.messages⟩

/-! ## BOLT 8 on Noise -/

/-- Why BOLT 8 rejects an act: a version byte other than 0, or a failed Noise step. -/
inductive ActError where
  | version
  | noise (err : Error)
  deriving DecidableEq, Repr

/-- The rejection each failure is reported as; `none` for failures no act of BOLT 8's length
can cause. -/
def ActError.toReject : ActError → Option Bolt8.Reject
  | .version => some .unknownHandshakeVersion
  | .noise .invalidEphemeral => some .invalidPublicKey
  | .noise .invalidStatic => some .badRemoteStatic
  | .noise .decryptFailed => some .badMac
  | .noise _ => none

/-- The error the peer handler is given for each failure, as BOLT 8 names it. -/
def ActError.toHandleError (e : ActError) : Option HandleError :=
  e.toReject.map Bolt8.Reject.toHandleError

/-- An act: the version byte 0, then the next message with an empty payload. -/
def writeAct (hs : HandshakeState SecretKey PublicKey) (gen : Option SecretKey) :
    Except ActError (Bytes × HandshakeState SecretKey PublicKey) := do
  let (m, hs) ← (writeMessage C hs gen []).mapError .noise
  pure ([0] ++ m, hs)

/-- Reading an act: the version byte must be 0, then the next message is read; the payload is
dropped. -/
def readAct (hs : HandshakeState SecretKey PublicKey) (act : Bytes) :
    Except ActError (HandshakeState SecretKey PublicKey) :=
  if act.head? ≠ some 0 then .error .version else
  (·.2) <$> (readMessage C hs (act.drop 1)).mapError .noise

/-- BOLT 8's transport state after `Split()`: the initiator sends with the first key and the
responder with the second, both counters at 0, and both directions keep `ck` as the chaining key
of their key rotation. -/
def transport (ss : SymmetricState) : Role → Finished
  | .initiator => ⟨(ss.split C).1, 0, ss.ck, (ss.split C).2, 0, ss.ck⟩
  | .responder => ⟨(ss.split C).2, 0, ss.ck, (ss.split C).1, 0, ss.ck⟩

/-- The responder on act one: it reads the act, then writes act two with the ephemeral secret
`e`. -/
def respondActOne (hs : HandshakeState SecretKey PublicKey) (act : Bytes) (e : SecretKey) :
    Except ActError (Bytes × HandshakeState SecretKey PublicKey) := do
  let hs ← readAct C hs act
  writeAct C hs (some e)

/-- The initiator on act two: its transport state, act three, and the responder's static
key. -/
def respondActTwo (hs : HandshakeState SecretKey PublicKey) (act : Bytes) :
    Except ActError (Finished × Bytes × PublicKey) := do
  let hs ← readAct C hs act
  let (act3, hs) ← writeAct C hs none
  match hs.rs with
  | none => .error (.noise .missingKey)
  | some rs => pure (transport C hs.ss .initiator, act3, rs)

/-- The responder on act three: its transport state and the initiator's static key. -/
def finishActThree (hs : HandshakeState SecretKey PublicKey) (act : Bytes) :
    Except ActError (Finished × PublicKey) := do
  let hs ← readAct C hs act
  match hs.rs with
  | none => .error (.noise .missingKey)
  | some rs => pure (transport C hs.ss .responder, rs)

end Noise
end PeerChannelEncryptor
end Lightning
