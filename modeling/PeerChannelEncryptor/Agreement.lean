import PeerChannelEncryptor.Conformance
import PeerChannelEncryptor.Transport

/-!
# PeerChannelEncryptor.Agreement

An honest handshake between an initiator and a responder ends with matching transport keys.

The invariant is that after each act both ends hold the same `(h, ck)`:
`readEphemeral_writeEphemeral` for the two ephemeral acts, `processActThree_written` for act
three. They are proved on the reference `Bolt8` steps and carried to the code by the spec
lemmas of `Handshake`. The laws used are ECDH agreement, decryption inverting encryption, and
point parsing inverting serialization.

* `handshake_establishes`: the honest run succeeds and leaves a channel, each side's send
  direction being the other's receive direction;
* `handshake_agreement`: the same, key by key.
-/

namespace Lightning
namespace PeerChannelEncryptor

variable {SecretKey PublicKey : Type} (C : Crypto SecretKey PublicKey)

namespace Bolt8

/-- An ephemeral act read by the end it was written to: the reader gets the writer's ephemeral
key and `temp_k`, and the two ends hold the same `(h, ck)` afterwards. -/
theorem readEphemeral_writeEphemeral (hE : C.EcdhCommutes) (hA : C.AeadInverts) (hP : C.ParseInverts)
    (s : BidirectionalNoiseState) (e k : SecretKey) :
    readEphemeral C s (writeEphemeral C s e (C.fromSecretKey k)).1.1 k =
      .ok ((C.fromSecretKey e, (writeEphemeral C s e (C.fromSecretKey k)).1.2),
        (writeEphemeral C s e (C.fromSecretKey k)).2) := by
  have hser := C.serialize_length (C.fromSecretKey e)
  simp only [writeEphemeral, readEphemeral, hE e k]
  simp [List.take_left' hser, List.drop_left' hser, hP (C.fromSecretKey e), decryptWithAd_encryptWithAd C hA]

/-- Act three as the initiator writes it after act two, read by a responder that holds the same
`(h, ck)` and `temp_k2`: the responder ends with the initiator's keys in swapped order. -/
theorem processActThree_written (hE : C.EcdhCommutes) (hA : C.AeadInverts) (hP : C.ParseInverts)
    (s : BidirectionalNoiseState) (tempK2 : Bytes) (ie : PublicKey) (eR sI : SecretKey) :
    let c := encryptWithAd C 1 tempK2 s.h (C.serialize (C.fromSecretKey sI))
    let k := mixKey C (mixHash C s c) (C.sharedSecret (C.fromSecretKey eR) sI)
    processActThree C ⟨(⟨ie, eR, tempK2⟩ : InboundPostActTwo SecretKey PublicKey), s⟩
        ([0] ++ c ++ encryptWithAd C 0 k.1 k.2.h []) =
      .ok (⟨(hkdfExtractExpand C k.2.ck []).2, 0, k.2.ck, (hkdfExtractExpand C k.2.ck []).1, 0,
        k.2.ck⟩, C.fromSecretKey sI) := by
  have hc := encryptWithAd_length C 1 tempK2 s.h (C.serialize (C.fromSecretKey sI))
  rw [C.serialize_length] at hc
  simp [processActThree, List.take_left' hc, List.drop_left' hc, decryptWithAd_encryptWithAd C hA,
    hP (C.fromSecretKey sI), hE eR sI]

end Bolt8

theorem newInbound_bidirectionalState (s : SecretKey) :
    (newInbound C s).bidirectionalState = Bolt8.initiatorState C (C.fromSecretKey s) := rfl

/-- An honest run succeeds at every step, each side learns the other's static key, and the
two `Finished` states form a channel: each side's send direction is the other's receive
direction, both start at counter 0 from one chaining key. -/
theorem handshake_establishes (hE : C.EcdhCommutes) (hA : C.AeadInverts) (hP : C.ParseInverts)
    (sI eI sR eR : SecretKey) :
    ∃ st1 act1 st2 act2 fI act3 fR,
      getActOne C (newOutbound C (C.fromSecretKey sR) eI) = .ok (st1, act1) ∧
      (processActOneWithKeys C (newInbound C sR) act1 sR eR).run = .ok (.ok (st2, act2)) ∧
      (processActTwo C st1 act2 sI).run = .ok (.ok (fI, act3, C.fromSecretKey sR)) ∧
      (processActThree C st2 act3).run = .ok (.ok (fR, C.fromSecretKey sI)) ∧
      fI.send = fR.recv ∧ fR.send = fI.recv ∧ fI.sck = fI.rck ∧ fI.sn = 0 ∧ fI.rn = 0 := by
  set w1 := Bolt8.writeEphemeral C (Bolt8.initiatorState C (C.fromSecretKey sR)) eI
    (C.fromSecretKey sR) with hw1
  set w2 := Bolt8.writeEphemeral C w1.2 eR (C.fromSecretKey eI) with hw2
  set c := Bolt8.encryptWithAd C 1 w2.1.2 w2.2.h (C.serialize (C.fromSecretKey sI)) with hc
  set k := Bolt8.mixKey C (Bolt8.mixHash C w2.2 c) (C.sharedSecret (C.fromSecretKey eR) sI) with hk
  set t := Bolt8.hkdfExtractExpand C k.2.ck [] with ht
  refine ⟨⟨(⟨eI, C.fromSecretKey sR⟩ : OutboundData _ _), w1.2⟩, w1.1.1,
    ⟨(⟨C.fromSecretKey eI, eR, w2.1.2⟩ : InboundPostActTwo _ _), w2.2⟩, w2.1.1,
    ⟨t.1, 0, k.2.ck, t.2, 0, k.2.ck⟩, [0] ++ c ++ Bolt8.encryptWithAd C 0 k.1 k.2.h [],
    ⟨t.2, 0, k.2.ck, t.1, 0, k.2.ck⟩, ?_, ?_, ?_, ?_, rfl, rfl, rfl, rfl, rfl⟩
  · rw [getActOne_ok]; rfl
  · rw [processActOneWithKeys_run C _ _ _ (Bolt8.writeEphemeral_length C _ _ _),
      Bolt8.processActOneWithKeys, newInbound_bidirectionalState,
      Bolt8.readEphemeral_writeEphemeral C hE hA hP]
    rfl
  · rw [processActTwo_run C _ _ (Bolt8.writeEphemeral_length C _ _ _), Bolt8.processActTwo]
    simp only [Bolt8.readEphemeral_writeEphemeral C hE hA hP]
    rfl
  · have hlen : ([0] ++ c ++ Bolt8.encryptWithAd C 0 k.1 k.2.h []).length = 66 := by
      simp [hc, Bolt8.encryptWithAd_length, C.serialize_length]
    rw [processActThree_run C _ hlen, Bolt8.processActThree_written C hE hA hP]
    rfl

/-- **Handshake agreement.** For every choice of static and ephemeral secrets, the honest run
succeeds at every step, each side learns the other's static key, and the two `Finished` states
have crossed keys, one common chaining key and zero counters. -/
theorem handshake_agreement (hE : C.EcdhCommutes) (hA : C.AeadInverts) (hP : C.ParseInverts)
    (sI eI sR eR : SecretKey) :
    ∃ st1 act1 st2 act2 fI act3 fR,
      getActOne C (newOutbound C (C.fromSecretKey sR) eI) = .ok (st1, act1) ∧
      (processActOneWithKeys C (newInbound C sR) act1 sR eR).run = .ok (.ok (st2, act2)) ∧
      (processActTwo C st1 act2 sI).run = .ok (.ok (fI, act3, C.fromSecretKey sR)) ∧
      (processActThree C st2 act3).run = .ok (.ok (fR, C.fromSecretKey sI)) ∧
      fI.sk = fR.rk ∧ fI.rk = fR.sk ∧ fI.sck = fI.rck ∧ fI.rck = fR.sck ∧ fR.sck = fR.rck ∧
      fI.sn = 0 ∧ fI.rn = 0 ∧ fR.sn = 0 ∧ fR.rn = 0 := by
  obtain ⟨st1, act1, st2, act2, fI, act3, fR, h1, h2, h3, h4, hIR, hRI, hck, hsn, hrn⟩ :=
    handshake_establishes C hE hA hP sI eI sR eR
  simp only [Finished.send, Finished.recv, CipherState.mk.injEq] at hIR hRI
  obtain ⟨hk, hn, hc⟩ := hIR
  obtain ⟨hk', hn', hc'⟩ := hRI
  exact ⟨st1, act1, st2, act2, fI, act3, fR, h1, h2, h3, h4, hk, hk'.symm, hck, hc'.symm,
    hc'.trans (hck.symm.trans hc), hsn, hrn, hn'.trans hrn, hn.symm.trans hsn⟩

/-- `handshake_agreement` on the toy primitives with the keys of the BOLT 8 test vectors. -/
theorem handshake_agreement_toy :
    Crypto.toy.EcdhCommutes ∧ Crypto.toy.AeadInverts ∧ Crypto.toy.ParseInverts ∧
    ∃ st1 act1 st2 act2 fI act3 fR,
      getActOne Crypto.toy (newOutbound Crypto.toy (Crypto.toy.fromSecretKey 0x21) 0x12) =
        .ok (st1, act1) ∧
      (processActOneWithKeys Crypto.toy (newInbound Crypto.toy 0x21) act1 0x21 0x22).run =
        .ok (.ok (st2, act2)) ∧
      (processActTwo Crypto.toy st1 act2 0x11).run =
        .ok (.ok (fI, act3, Crypto.toy.fromSecretKey 0x21)) ∧
      (processActThree Crypto.toy st2 act3).run = .ok (.ok (fR, Crypto.toy.fromSecretKey 0x11)) ∧
      fI.sk = fR.rk ∧ fI.rk = fR.sk ∧ fI.sck = fI.rck ∧ fI.rck = fR.sck ∧ fR.sck = fR.rck ∧
      fI.sn = 0 ∧ fI.rn = 0 ∧ fR.sn = 0 ∧ fR.rn = 0 :=
  ⟨Crypto.toy_ecdhCommutes, Crypto.toy_aeadInverts, Crypto.toy_parseInverts,
    handshake_agreement Crypto.toy Crypto.toy_ecdhCommutes Crypto.toy_aeadInverts
      Crypto.toy_parseInverts 0x11 0x12 0x21 0x22⟩

end PeerChannelEncryptor
end Lightning
