import PeerChannelEncryptor.Handshake

/-!
# PeerChannelEncryptor.Conformance

The handshake of `peer_channel_encryptor.rs` is the BOLT 8 handshake of `Bolt8`.

`handshake_conforms` collects the four spec lemmas of `Handshake`: for every choice of keys and
primitives and every act of the asserted length, each transition returns exactly the
reference's output act, next state and `Finished` keys when the reference accepts, and when it
rejects, the error of the reference's first failing check (version byte, then the point, then
the tag; in act three the static key's tag, then its parse, then the final tag).

`Bolt8.writeEphemeral_length`: an ephemeral act is 50 bytes, the length the reader asserts, so
that an honest run of the handshake meets the spec lemmas' hypotheses.
-/

namespace Lightning
namespace PeerChannelEncryptor

variable {SecretKey PublicKey : Type} (C : Crypto SecretKey PublicKey)

theorem handshake_conforms (st0 : InProgress SecretKey PublicKey (.preActOne .outbound))
    (st1 : InProgress SecretKey PublicKey (.preActOne .inbound))
    (st2 : InProgress SecretKey PublicKey (.postActOne .outbound))
    (st3 : InProgress SecretKey PublicKey (.postActTwo .inbound))
    (actOne actTwo actThree : Bytes) (sR eR sI : SecretKey)
    (h1 : actOne.length = 50) (h2 : actTwo.length = 50) (h3 : actThree.length = 66) :
    getActOne C st0 = .ok (Bolt8.getActOne C st0) ∧
    (processActOneWithKeys C st1 actOne sR eR).run =
      .ok ((Bolt8.processActOneWithKeys C st1 actOne sR eR).mapError Bolt8.Reject.toHandleError) ∧
    (processActTwo C st2 actTwo sI).run =
      .ok ((Bolt8.processActTwo C st2 actTwo sI).mapError Bolt8.Reject.toHandleError) ∧
    (processActThree C st3 actThree).run =
      .ok ((Bolt8.processActThree C st3 actThree).mapError Bolt8.Reject.toHandleError) :=
  ⟨getActOne_ok C st0, processActOneWithKeys_run C st1 sR eR h1, processActTwo_run C st2 sI h2,
    processActThree_run C st3 h3⟩

/-- `handshake_conforms` on the toy primitives, from the initial states of both roles. -/
theorem handshake_conforms_toy :
    (List.replicate 50 (0 : UInt8)).length = 50 ∧ (List.replicate 66 (0 : UInt8)).length = 66 ∧
    getActOne Crypto.toy (newOutbound Crypto.toy 2 3) =
      .ok (Bolt8.getActOne Crypto.toy (newOutbound Crypto.toy 2 3)) ∧
    (processActOneWithKeys Crypto.toy (newInbound Crypto.toy 2) (List.replicate 50 0) 2 4).run =
      .ok ((Bolt8.processActOneWithKeys Crypto.toy (newInbound Crypto.toy 2) (List.replicate 50 0)
        2 4).mapError Bolt8.Reject.toHandleError) ∧
    (processActTwo Crypto.toy ⟨(⟨3, 2⟩ : OutboundData UInt8 UInt8), ⟨[], []⟩⟩
        (List.replicate 50 0) 1).run =
      .ok ((Bolt8.processActTwo Crypto.toy ⟨(⟨3, 2⟩ : OutboundData UInt8 UInt8), ⟨[], []⟩⟩
        (List.replicate 50 0) 1).mapError Bolt8.Reject.toHandleError) ∧
    (processActThree Crypto.toy ⟨(⟨3, 4, []⟩ : InboundPostActTwo UInt8 UInt8), ⟨[], []⟩⟩
        (List.replicate 66 0)).run =
      .ok ((Bolt8.processActThree Crypto.toy ⟨(⟨3, 4, []⟩ : InboundPostActTwo UInt8 UInt8), ⟨[], []⟩⟩
        (List.replicate 66 0)).mapError Bolt8.Reject.toHandleError) :=
  ⟨by simp, by simp, handshake_conforms Crypto.toy _ _ _ _ _ _ _ 2 4 1 (by simp) (by simp) (by simp)⟩

/-! ## The length of an ephemeral act -/

namespace Bolt8

theorem writeEphemeral_length (s : BidirectionalNoiseState) (e : SecretKey) (r : PublicKey) :
    (writeEphemeral C s e r).1.1.length = 50 := by
  simp [writeEphemeral, encryptWithAd_length, C.serialize_length]

end Bolt8

end PeerChannelEncryptor
end Lightning
