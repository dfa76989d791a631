import PeerChannelEncryptor.Framework
import PeerChannelEncryptor.Handshake

/-!
# PeerChannelEncryptor.XK

The handshake of `peer_channel_encryptor.rs` is the Noise handshake `XK` of `Framework`, framed
as BOLT 8 frames it.

Each phase of the code's typestate is read as a Noise handshake state (`noiseOutboundPreActOne`
and so on): the code's `(h, ck)` is the symmetric state's, and the directional state holds the
keys Noise holds. The code drops what no later step reads: the initiator's static secret until
act three, where it is an argument, and the key of act one's payload, which the `ee` token of
act two replaces.

Two laws of the primitives are needed. `ParseCanonical`: the code mixes the re-serialized
ephemeral key into `h` where Noise mixes the bytes received, which agree when a 33-byte string
that parses is the encoding of its point. `NoiseConstants`: `NOISE_CK` and `NOISE_H` are the
hashes the source's comments say, so that they are Noise's `Initialize` of the protocol name
and prologue.

* `writeAct_ephemeral`, `readAct_ephemeral`: an act whose pattern is `e` and a DH token is
  BOLT 8's ephemeral act, written or read, whichever role and DH token;
* `handshake_refines_noise_xk`: initialization and every transition of the code, from every
  state of its phase and on every act of its length, is the Noise step at pattern `XK`.
-/

namespace Lightning
namespace PeerChannelEncryptor

variable {SecretKey PublicKey : Type} (C : Crypto SecretKey PublicKey)

/-! ## Laws -/

/-- A 33-byte string that parses is the compressed encoding of the point it parses to. -/
def Crypto.ParseCanonical : Prop :=
  ∀ b p, b.length = 33 → C.fromSlice b = some p → C.serialize p = b

/-- `NOISE_CK` is the hash of the protocol name and `NOISE_H` the hash of `NOISE_CK` followed by
the prologue, as the source's comments state. -/
def Crypto.NoiseConstants : Prop :=
  C.sha256 Noise.bolt8Name = noiseCk ∧ C.sha256 (noiseCk ++ Noise.bolt8Prologue) = noiseH

/-! ## The code's states as Noise states -/

/-- The symmetric state with the code's `(h, ck)` and the cipher state `cs`. -/
def BidirectionalNoiseState.withCipher (b : BidirectionalNoiseState) (cs : Noise.CipherState) :
    Noise.SymmetricState :=
  ⟨cs, b.ck, b.h⟩

namespace InProgress

/-- An initiator before act one, which will prove the static secret `s` in act three. -/
def noiseOutboundPreActOne (st : InProgress SecretKey PublicKey (.preActOne .outbound))
    (s : SecretKey) : Noise.HandshakeState SecretKey PublicKey :=
  ⟨st.bidirectionalState.withCipher ⟨none, 0⟩, .initiator, some s, none,
    some st.directionalState.theirNodeId, none, Noise.Pattern.xk.messages⟩

/-- An initiator after act one, whose payload was sealed under `tk`. -/
def noiseOutboundPostActOne (st : InProgress SecretKey PublicKey (.postActOne .outbound))
    (s : SecretKey) (tk : Bytes) : Noise.HandshakeState SecretKey PublicKey :=
  ⟨st.bidirectionalState.withCipher ⟨some tk, 1⟩, .initiator, some s, some st.directionalState.ie,
    some st.directionalState.theirNodeId, none, Noise.Pattern.xk.messages.drop 1⟩

/-- A responder before act one, with the static secret `s`. -/
def noiseInboundPreActOne (st : InProgress SecretKey PublicKey (.preActOne .inbound))
    (s : SecretKey) : Noise.HandshakeState SecretKey PublicKey :=
  ⟨st.bidirectionalState.withCipher ⟨none, 0⟩, .responder, some s, none, none, none,
    Noise.Pattern.xk.messages⟩

/-- A responder after act two: `temp_k2` sealed act two's payload at nonce 0. -/
def noiseInboundPostActTwo (st : InProgress SecretKey PublicKey (.postActTwo .inbound))
    (s : SecretKey) : Noise.HandshakeState SecretKey PublicKey :=
  ⟨st.bidirectionalState.withCipher ⟨some st.directionalState.tempK2, 1⟩, .responder, some s,
    some st.directionalState.re, none, some st.directionalState.ie, Noise.Pattern.xk.messages.drop 2⟩

end InProgress

/-! ## Each phase is a Noise step -/

theorem bolt8Name_length : Noise.bolt8Name.length = 36 := rfl

theorem start_initiator (hK : C.NoiseConstants) (rs : PublicKey) (s e : SecretKey) :
    Noise.start C .xk Noise.bolt8Name Noise.bolt8Prologue .initiator (some s) (some rs) =
      .ok ((newOutbound C rs e).noiseOutboundPreActOne s) := by
  simp [Noise.start, bolt8Name_length, Noise.mixPre, Noise.preKey, Noise.SymmetricState.mixHash,
    hK.1, hK.2, Noise.Pattern.xk, InProgress.noiseOutboundPreActOne, newOutbound,
    Bolt8.initiatorState, BidirectionalNoiseState.withCipher]

theorem start_responder (hK : C.NoiseConstants) (s : SecretKey) :
    Noise.start C .xk Noise.bolt8Name Noise.bolt8Prologue .responder (some s) none =
      .ok ((newInbound C s).noiseInboundPreActOne s) := by
  simp [Noise.start, bolt8Name_length, Noise.mixPre, Noise.preKey, Noise.SymmetricState.mixHash,
    hK.1, hK.2, Noise.Pattern.xk, InProgress.noiseInboundPreActOne, newInbound,
    Bolt8.responderState, Bolt8.initiatorState, BidirectionalNoiseState.withCipher]

theorem except_mapError_bind {ε ε' α β : Type} (f : ε → ε') (x : Except ε α)
    (g : α → Except ε β) : (x >>= g).mapError f = x.mapError f >>= fun a => (g a).mapError f := by
  cases x <;> rfl

/-- Writing an act whose message pattern is `e` then a DH token that combines the new ephemeral
secret `e` with the peer key `r` is BOLT 8's `writeEphemeral`. -/
theorem writeAct_ephemeral (hs : Noise.HandshakeState SecretKey PublicKey) {t : Noise.Token}
    {rest : List (List Noise.Token)} (hpend : hs.pending = [.e, t] :: rest) {e : SecretKey}
    {r : PublicKey}
    (hdh : ∀ ss, Noise.HandshakeState.dhKeys { hs with e := some e, ss := ss } t = (some e, some r)) :
    Noise.writeAct C hs (some e) =
      .ok ((Bolt8.writeEphemeral C ⟨hs.ss.h, hs.ss.ck⟩ e r).1.1,
        { hs with
          e := some e
          pending := rest
          ss := (Bolt8.writeEphemeral C ⟨hs.ss.h, hs.ss.ck⟩ e r).2.withCipher
            ⟨some (Bolt8.writeEphemeral C ⟨hs.ss.h, hs.ss.ck⟩ e r).1.2, 1⟩ }) := by
  simp only [Noise.writeAct, Noise.writeMessage]
  rw [hpend]
  simp only [Noise.writeTokens, Noise.writeToken_e, Noise.writeToken_dh C (hdh _), except_ok_bind,
    except_pure]
  simp only [Noise.SymmetricState.encryptAndHash, Noise.SymmetricState.mixKey,
    Noise.SymmetricState.mixHash, except_mapError_ok, except_ok_bind, List.nil_append,
    List.append_nil, List.append_assoc]
  rfl

/-- With canonical parsing, reading an `e` token mixes the re-serialized key, as the code does. -/
theorem readToken_e (hP : C.ParseCanonical) (hs : Noise.HandshakeState SecretKey PublicKey)
    {msg : Bytes} (hlen : 33 ≤ msg.length) :
    Noise.readToken C hs msg .e =
      match C.fromSlice (msg.take 33) with
      | none => .error .invalidEphemeral
      | some re => .ok ({ hs with re := some re, ss := hs.ss.mixHash C (C.serialize re) },
          msg.drop 33) := by
  simp only [Noise.readToken, show ¬ msg.length < 33 by omega, if_false]
  cases h : C.fromSlice (msg.take 33) with
  | none => rfl
  | some re => simp only [hP _ re (by simp; omega) h]

theorem eq_cons_of_length_succ {act : Bytes} {n : Nat} (h : act.length = n + 1) :
    ∃ a0 rest, act = a0 :: rest ∧ rest.length = n := by
  cases act with
  | nil => cases h
  | cons a0 rest => exact ⟨a0, rest, rfl, Nat.succ.inj h⟩

/-- With canonical parsing, reading an act whose message pattern is `e` then a DH token that
combines the local secret `k` with the peer's ephemeral key is BOLT 8's `readEphemeral`. -/
theorem readAct_ephemeral (hP : C.ParseCanonical) (hs : Noise.HandshakeState SecretKey PublicKey)
    {b : BidirectionalNoiseState} {cs : Noise.CipherState} (hss : hs.ss = b.withCipher cs)
    {t : Noise.Token} {rest : List (List Noise.Token)} (hpend : hs.pending = [.e, t] :: rest)
    {k : SecretKey}
    (hdh : ∀ re ss, Noise.HandshakeState.dhKeys { hs with re := some re, ss := ss } t =
      (some k, some re))
    {act : Bytes} (hlen : act.length = 50) :
    (Noise.readAct C hs act).mapError Noise.ActError.toReject =
      ((Bolt8.readEphemeral C b act k).map fun r =>
        { hs with
          re := some r.1.1
          pending := rest
          ss := r.2.withCipher ⟨some r.1.2, 1⟩ }).mapError some := by
  obtain ⟨a0, bytes, rfl, hlen⟩ := eq_cons_of_length_succ hlen
  obtain ⟨ss, role, s, e, rs, re0, pending⟩ := hs
  dsimp only at hss hpend
  subst hss hpend
  by_cases ha : a0 = 0
  case neg => simp [Noise.readAct, Bolt8.readEphemeral, ha]; rfl
  subst ha
  simp only [Noise.readAct, Bolt8.readEphemeral, List.head?_cons, ne_eq, not_true_eq_false,
    if_false, List.drop_succ_cons, List.drop_zero, Noise.readMessage, Noise.readTokens,
    readToken_e C hP _ (show 33 ≤ bytes.length by omega)]
  cases C.fromSlice (bytes.take 33) with
  | none => rfl
  | some re =>
    have h16 : ¬ (bytes.drop 33).length < 16 := by simp; omega
    simp only [except_ok_bind, Noise.readToken_dh C (hdh re _)]
    simp only [Noise.SymmetricState.mixKey, Noise.SymmetricState.decryptAndHash,
      Noise.SymmetricState.mixHash, h16, if_false, Bolt8.mixHash, Bolt8.mixKey,
      BidirectionalNoiseState.withCipher]
    cases Bolt8.decryptWithAd C 0 (Bolt8.hkdfExtractExpand C b.ck (C.sharedSecret re k)).2
        (C.sha256 (b.h ++ C.serialize re)) (bytes.drop 33) <;> rfl

theorem respondActOne_inboundPreActOne (hP : C.ParseCanonical)
    (st : InProgress SecretKey PublicKey (.preActOne .inbound)) (s e : SecretKey) {act : Bytes}
    (hlen : act.length = 50) :
    (Noise.respondActOne C (st.noiseInboundPreActOne s) act e).mapError Noise.ActError.toReject =
      ((Bolt8.processActOneWithKeys C st act s e).map fun r =>
        (r.2, r.1.noiseInboundPostActTwo s)).mapError some := by
  rw [Noise.respondActOne, except_mapError_bind, Bolt8.processActOneWithKeys,
    readAct_ephemeral C hP (st.noiseInboundPreActOne s) rfl rfl (fun _ _ => rfl) hlen]
  cases Bolt8.readEphemeral C st.bidirectionalState act s with
  | error err => rfl
  | ok r =>
    obtain ⟨⟨re, tk⟩, b⟩ := r
    simp only [Except.map, except_mapError_ok, except_ok_bind]
    rw [writeAct_ephemeral C { st.noiseInboundPreActOne s with
      re := some re, pending := [[.e, .ee], [.s, .se]], ss := b.withCipher ⟨some tk, 1⟩ }
      rfl fun _ => rfl]
    rfl

theorem respondActTwo_outboundPostActOne (hP : C.ParseCanonical)
    (st : InProgress SecretKey PublicKey (.postActOne .outbound)) (s : SecretKey) (tk : Bytes)
    {act : Bytes} (hlen : act.length = 50) :
    (Noise.respondActTwo C (st.noiseOutboundPostActOne s tk) act).mapError Noise.ActError.toReject =
      (Bolt8.processActTwo C st act s).mapError some := by
  rw [Noise.respondActTwo, except_mapError_bind, Bolt8.processActTwo,
    readAct_ephemeral C hP (st.noiseOutboundPostActOne s tk) rfl rfl (fun _ _ => rfl) hlen]
  cases Bolt8.readEphemeral C st.bidirectionalState act st.directionalState.ie with
  | error err => rfl
  | ok r =>
    simp only [Except.map, except_mapError_ok, except_ok_bind, Noise.writeAct,
      Noise.writeMessage, Noise.writeTokens, Noise.writeToken, Noise.HandshakeState.dhKeys,
      Noise.dh, except_pure, Noise.SymmetricState.encryptAndHash, Noise.SymmetricState.mixKey,
      Noise.SymmetricState.mixHash, Noise.transport, Noise.SymmetricState.split,
      InProgress.noiseOutboundPostActOne, BidirectionalNoiseState.withCipher, List.nil_append,
      List.append_nil, List.append_assoc]
    rfl

theorem finishActThree_inboundPostActTwo
    (st : InProgress SecretKey PublicKey (.postActTwo .inbound)) (s : SecretKey) {act : Bytes}
    (hlen : act.length = 66) :
    (Noise.finishActThree C (st.noiseInboundPostActTwo s) act).mapError Noise.ActError.toReject =
      (Bolt8.processActThree C st act).mapError some := by
  obtain ⟨a0, rest, rfl, hlen⟩ := eq_cons_of_length_succ hlen
  by_cases ha : a0 = 0
  case neg =>
    simp [Noise.finishActThree, Noise.readAct, ha, Bolt8.processActThree]
    rfl
  subst ha
  have h49 : ¬ rest.length < 49 := by omega
  have h16 : ¬ (rest.take 49).length < 16 := by simp; omega
  have h16' : ¬ (rest.drop 49).length < 16 := by simp; omega
  simp only [Noise.finishActThree, Noise.readAct, Bolt8.processActThree, List.head?_cons, ne_eq,
    not_true_eq_false, if_false, List.drop_succ_cons, List.drop_zero,
    InProgress.noiseInboundPostActTwo, Noise.Pattern.xk, List.drop, Noise.readMessage,
    Noise.readTokens, Noise.readToken, BidirectionalNoiseState.withCipher, Option.isSome_some,
    if_true, show 33 + 16 = 49 from rfl, h49, Noise.SymmetricState.decryptAndHash, h16]
  cases Bolt8.decryptWithAd C 1 st.directionalState.tempK2 st.bidirectionalState.h
      (rest.take 49) with
  | none => rfl
  | some p =>
    simp only [except_ok_bind]
    cases C.fromSlice p with
    | none => rfl
    | some rs =>
      simp only [except_pure, except_ok_bind, Noise.HandshakeState.dhKeys, Noise.dh,
        Noise.SymmetricState.mixKey, Noise.SymmetricState.mixHash, h16', if_false, Bolt8.mixHash,
        Bolt8.mixKey]
      cases Bolt8.decryptWithAd C 0 (Bolt8.hkdfExtractExpand C st.bidirectionalState.ck
          (C.sharedSecret rs st.directionalState.re)).2
          (C.sha256 (st.bidirectionalState.h ++ rest.take 49)) (rest.drop 49) <;> rfl

theorem mapError_toHandleError {α : Type} (x : Except Noise.ActError α) :
    x.mapError Noise.ActError.toHandleError =
      (x.mapError Noise.ActError.toReject).mapError (Option.map Bolt8.Reject.toHandleError) := by
  cases x <;> rfl

/-! ## The handshake refines Noise `XK` -/

/-- The code's handshake is the Noise handshake `XK` under BOLT 8's framing. `new_outbound` and
`new_inbound` are Noise's `Initialize` with the protocol name, the prologue and the responder's
static key as pre-message; and each transition, from any state of its phase and on any act of
the length it asserts, returns what the Noise step returns on the Noise reading of that state:
the same act, the next state read the same way, the same `Finished` keys and peer key, and, when
Noise rejects the act, the error BOLT 8 names for the failure. -/
theorem handshake_refines_noise_xk (hP : C.ParseCanonical) (hK : C.NoiseConstants) :
    (∀ rs s e, Noise.start C .xk Noise.bolt8Name Noise.bolt8Prologue .initiator (some s) (some rs) =
      .ok ((newOutbound C rs e).noiseOutboundPreActOne s)) ∧
    (∀ s, Noise.start C .xk Noise.bolt8Name Noise.bolt8Prologue .responder (some s) none =
      .ok ((newInbound C s).noiseInboundPreActOne s)) ∧
    (∀ (st : InProgress SecretKey PublicKey (.preActOne .outbound)) s, ∃ st' act tk,
      getActOne C st = .ok (st', act) ∧
      Noise.writeAct C (st.noiseOutboundPreActOne s) (some st.directionalState.ie) =
        .ok (act, st'.noiseOutboundPostActOne s tk)) ∧
    (∀ (st : InProgress SecretKey PublicKey (.preActOne .inbound)) s e act, act.length = 50 →
      (processActOneWithKeys C st act s e).run.map
          (fun r => (r.map fun p => (p.2, p.1.noiseInboundPostActTwo s)).mapError some) =
        .ok ((Noise.respondActOne C (st.noiseInboundPreActOne s) act e).mapError
          Noise.ActError.toHandleError)) ∧
    (∀ (st : InProgress SecretKey PublicKey (.postActOne .outbound)) s tk act, act.length = 50 →
      (processActTwo C st act s).run.map (·.mapError some) =
        .ok ((Noise.respondActTwo C (st.noiseOutboundPostActOne s tk) act).mapError
          Noise.ActError.toHandleError)) ∧
    (∀ (st : InProgress SecretKey PublicKey (.postActTwo .inbound)) s act, act.length = 66 →
      (processActThree C st act).run.map (·.mapError some) =
        .ok ((Noise.finishActThree C (st.noiseInboundPostActTwo s) act).mapError
          Noise.ActError.toHandleError)) := by
  refine ⟨start_initiator C hK, start_responder C hK,
    fun st s => ⟨_, _, _, getActOne_ok C st,
      writeAct_ephemeral C (st.noiseOutboundPreActOne s) rfl fun _ => rfl⟩, ?_, ?_, ?_⟩
  · intro st s e act hlen
    rw [processActOneWithKeys_run C st s e hlen, mapError_toHandleError,
      respondActOne_inboundPreActOne C hP st s e hlen]
    cases Bolt8.processActOneWithKeys C st act s e <;> rfl
  · intro st s tk act hlen
    rw [processActTwo_run C st s hlen, mapError_toHandleError,
      respondActTwo_outboundPostActOne C hP st s tk hlen]
    cases Bolt8.processActTwo C st act s <;> rfl
  · intro st s act hlen
    rw [processActThree_run C st hlen, mapError_toHandleError,
      finishActThree_inboundPostActTwo C st s hlen]
    cases Bolt8.processActThree C st act <;> rfl

/-- `Crypto.toy` with a hash that gives `NOISE_CK` and `NOISE_H` on the inputs the source's
comments name them for. -/
def Crypto.toyNoise : Crypto UInt8 UInt8 :=
  { Crypto.toy with
    sha256 := fun b => if b = Noise.bolt8Name then noiseCk
      else if b = noiseCk ++ Noise.bolt8Prologue then noiseH else b.take 32 }

theorem Crypto.toyNoise_parseCanonical : Crypto.toyNoise.ParseCanonical := by
  intro b p _ h
  simp only [Crypto.toyNoise, Crypto.toy] at h ⊢
  split at h
  · cases b with
    | nil => cases h
    | cons x xs => simp_all
  · cases h

theorem Crypto.toyNoise_noiseConstants : Crypto.toyNoise.NoiseConstants :=
  ⟨by decide, by decide⟩

/-- `handshake_refines_noise_xk` on the toy primitives. -/
theorem handshake_refines_noise_xk_toy :
    Crypto.toyNoise.ParseCanonical ∧ Crypto.toyNoise.NoiseConstants ∧
    (∀ rs s e, Noise.start Crypto.toyNoise .xk Noise.bolt8Name Noise.bolt8Prologue .initiator
      (some s) (some rs) = .ok ((newOutbound Crypto.toyNoise rs e).noiseOutboundPreActOne s)) ∧
    (∀ s, Noise.start Crypto.toyNoise .xk Noise.bolt8Name Noise.bolt8Prologue .responder (some s)
      none = .ok ((newInbound Crypto.toyNoise s).noiseInboundPreActOne s)) ∧
    (∀ (st : InProgress UInt8 UInt8 (.preActOne .outbound)) s, ∃ st' act tk,
      getActOne Crypto.toyNoise st = .ok (st', act) ∧
      Noise.writeAct Crypto.toyNoise (st.noiseOutboundPreActOne s) (some st.directionalState.ie) =
        .ok (act, st'.noiseOutboundPostActOne s tk)) ∧
    (∀ (st : InProgress UInt8 UInt8 (.preActOne .inbound)) s e act, act.length = 50 →
      (processActOneWithKeys Crypto.toyNoise st act s e).run.map
          (fun r => (r.map fun p => (p.2, p.1.noiseInboundPostActTwo s)).mapError some) =
        .ok ((Noise.respondActOne Crypto.toyNoise (st.noiseInboundPreActOne s) act e).mapError
          Noise.ActError.toHandleError)) ∧
    (∀ (st : InProgress UInt8 UInt8 (.postActOne .outbound)) s tk act, act.length = 50 →
      (processActTwo Crypto.toyNoise st act s).run.map (·.mapError some) =
        .ok ((Noise.respondActTwo Crypto.toyNoise (st.noiseOutboundPostActOne s tk) act).mapError
          Noise.ActError.toHandleError)) ∧
    (∀ (st : InProgress UInt8 UInt8 (.postActTwo .inbound)) s act, act.length = 66 →
      (processActThree Crypto.toyNoise st act).run.map (·.mapError some) =
        .ok ((Noise.finishActThree Crypto.toyNoise (st.noiseInboundPostActTwo s) act).mapError
          Noise.ActError.toHandleError)) :=
  ⟨Crypto.toyNoise_parseCanonical, Crypto.toyNoise_noiseConstants,
    handshake_refines_noise_xk Crypto.toyNoise Crypto.toyNoise_parseCanonical
      Crypto.toyNoise_noiseConstants⟩

end PeerChannelEncryptor
end Lightning
