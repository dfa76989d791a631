import PeerChannelEncryptor.Noise

/-!
# PeerChannelEncryptor.Handshake

The constructors and the four handshake transitions of `peer_channel_encryptor.rs`:
`new_outbound`, `new_inbound`, `get_act_one`, `process_act_one_with_keys`, `process_act_two`
and `process_act_three`.

Each transition consumes its state, as the Rust methods take `self` by value: a rejected act
leaves nothing to continue from. `process_act_one_with_keys`, `process_act_two` and
`process_act_three` take `self` without `mut` and then update `self.noise_state` in place, which
rustc rejects; they are modelled with `mut self`, which changes nothing they compute. The spec
lemmas (`getActOne_ok`, `processActOneWithKeys_run`,
`processActTwo_run`, `processActThree_run`) show that on an act of the asserted length each
transition returns exactly what the reference `Bolt8` step returns, with the reference's
rejection mapped to its `HandleError`.
-/

namespace Lightning
namespace PeerChannelEncryptor

variable {SecretKey PublicKey : Type} (C : Crypto SecretKey PublicKey)

/-- `PeerChannelEncryptor::new_outbound(their_node_id, ephemeral_key)`. -/
def newOutbound (theirNodeId : PublicKey) (ephemeralKey : SecretKey) :
    InProgress SecretKey PublicKey (.preActOne .outbound) :=
  { directionalState := (⟨ephemeralKey, theirNodeId⟩ : OutboundData SecretKey PublicKey)
    bidirectionalState := { h := C.sha256 (noiseH ++ C.serialize theirNodeId), ck := noiseCk } }

/-- `PeerChannelEncryptor::new_inbound(our_node_secret)`. -/
def newInbound (ourNodeSecret : SecretKey) : InProgress SecretKey PublicKey (.preActOne .inbound) :=
  { directionalState := InboundPreActOne.mk
    bidirectionalState :=
      { h := C.sha256 (noiseH ++ C.serialize (C.fromSecretKey ourNodeSecret)), ck := noiseCk } }

/-- `get_act_one`: act one, and the initiator waiting for act two. -/
def getActOne (st : InProgress SecretKey PublicKey (.preActOne .outbound)) :
    Except Panic (InProgress SecretKey PublicKey (.postActOne .outbound) × Bytes) := do
  let ((res, _), state) ← outboundNoiseAct C st.bidirectionalState st.directionalState.ie
    st.directionalState.theirNodeId
  pure (⟨st.directionalState, state⟩, res)

/-- `process_act_one_with_keys`: act one read with the static secret, act two written with the
ephemeral secret. -/
def processActOneWithKeys (st : InProgress SecretKey PublicKey (.preActOne .inbound))
    (actOne : Bytes) (ourNodeSecret ourEphemeral : SecretKey) :
    Result (InProgress SecretKey PublicKey (.postActTwo .inbound) × Bytes) := do
  assert (actOne.length = 50)
  let ((theirPub, _), state) ← inboundNoiseAct C st.bidirectionalState actOne ourNodeSecret
  let ie := theirPub
  let re := ourEphemeral
  let ((res, tempK), state) ← outboundNoiseAct C state re ie
  pure (⟨⟨ie, re, tempK⟩, state⟩, res)

/-- `process_act_two`: act two read, act three written, and the transport keys with the
responder's static key. -/
def processActTwo (st : InProgress SecretKey PublicKey (.postActOne .outbound)) (actTwo : Bytes)
    (ourNodeSecret : SecretKey) : Result (Finished × Bytes × PublicKey) := do
  assert (actTwo.length = 50)
  let ((re, tempK2), state) ← inboundNoiseAct C st.bidirectionalState actTwo st.directionalState.ie
  let ourNodeId := C.fromSecretKey ourNodeSecret
  let res ← withSliceMut (List.replicate 66 0) 1 50
    (encryptWithAd C · 1 tempK2 state.h (C.serialize ourNodeId))
  let state := { state with h := C.sha256 (state.h ++ (← slice res 1 50)) }
  let (tempK, state) := hkdf C state (C.sharedSecret re ourNodeSecret)
  let res ← withSliceMut res 50 res.length (encryptWithAd C · 0 tempK state.h [])
  let (sk, rk) := hkdfExtractExpand C state.ck []
  let ck := state.ck
  pure ({ sk, sn := 0, sck := ck, rk, rn := 0, rck := ck }, res, st.directionalState.theirNodeId)

/-- `process_act_three`: act three read, and the transport keys with the initiator's static
key. -/
def processActThree (st : InProgress SecretKey PublicKey (.postActTwo .inbound)) (actThree : Bytes) :
    Result (Finished × PublicKey) := do
  assert (actThree.length = 66)
  if (← index actThree 0) ≠ 0 then throw (.disconnect "Unknown handshake version number")
  let theirNodeId ← decryptWithAd C (List.replicate 33 0) 1 st.directionalState.tempK2
    st.bidirectionalState.h (← slice actThree 1 50)
  let theirNodeId ← match C.fromSlice theirNodeId with
    | some key => pure key
    | none => throw (.disconnect "Bad node_id from peer")
  let state := { st.bidirectionalState with
    h := C.sha256 (st.bidirectionalState.h ++ (← slice actThree 1 50)) }
  let (tempK, state) := hkdf C state (C.sharedSecret theirNodeId st.directionalState.re)
  let _ ← decryptWithAd C [] 0 tempK state.h (← sliceFrom actThree 50)
  let (rk, sk) := hkdfExtractExpand C state.ck []
  let ck := state.ck
  pure ({ sk, sn := 0, sck := ck, rk, rn := 0, rck := ck }, theirNodeId)

/-! ## Spec lemmas -/

theorem getActOne_ok (st : InProgress SecretKey PublicKey (.preActOne .outbound)) :
    getActOne C st = .ok (Bolt8.getActOne C st) := by
  simp [getActOne, outboundNoiseAct_ok, Bolt8.getActOne]

theorem processActOneWithKeys_run (st : InProgress SecretKey PublicKey (.preActOne .inbound))
    {actOne : Bytes} (ourNodeSecret ourEphemeral : SecretKey) (hlen : actOne.length = 50) :
    (processActOneWithKeys C st actOne ourNodeSecret ourEphemeral).run =
      .ok ((Bolt8.processActOneWithKeys C st actOne ourNodeSecret ourEphemeral).mapError
        Bolt8.Reject.toHandleError) := by
  simp only [processActOneWithKeys, assert_ok hlen, result_lift_ok, pure_bind, ExceptT.run_bind,
    inboundNoiseAct_run C _ _ hlen, except_ok_bind, Bolt8.processActOneWithKeys]
  cases Bolt8.readEphemeral C st.bidirectionalState actOne ourNodeSecret with
  | error e => rfl
  | ok r => simp [outboundNoiseAct_ok]

theorem processActTwo_run (st : InProgress SecretKey PublicKey (.postActOne .outbound))
    {actTwo : Bytes} (ourNodeSecret : SecretKey) (hlen : actTwo.length = 50) :
    (processActTwo C st actTwo ourNodeSecret).run =
      .ok ((Bolt8.processActTwo C st actTwo ourNodeSecret).mapError Bolt8.Reject.toHandleError) := by
  simp only [processActTwo, assert_ok hlen, result_lift_ok, pure_bind, ExceptT.run_bind,
    inboundNoiseAct_run C _ _ hlen, except_ok_bind, Bolt8.processActTwo]
  cases Bolt8.readEphemeral C st.bidirectionalState actTwo st.directionalState.ie with
  | error e => rfl
  | ok r =>
    obtain ⟨⟨re, tempK2⟩, s⟩ := r
    have hser := C.serialize_length (C.fromSecretKey ourNodeSecret)
    set c := Bolt8.encryptWithAd C 1 tempK2 s.h (C.serialize (C.fromSecretKey ourNodeSecret)) with hc_def
    have hc : c.length = 49 := by simp [hc_def, Bolt8.encryptWithAd_length, hser]
    have hres1 : withSliceMut (List.replicate 66 0) 1 50
        (encryptWithAd C · 1 tempK2 s.h (C.serialize (C.fromSecretKey ourNodeSecret))) =
        .ok (0 :: (c ++ List.replicate 16 0)) := by
      rw [withSliceMut_encryptWithAd C 1 tempK2 s.h _ (by omega) (by simp) (by simp [hser])]; rfl
    have hslice : slice (0 :: (c ++ List.replicate 16 0)) 1 50 = .ok c := by
      rw [slice_ok (by omega) (by simp [hc])]; simp [hc]
    set s3 := Bolt8.mixKey C (Bolt8.mixHash C s c) (C.sharedSecret re ourNodeSecret) with hs3
    have hres2 : withSliceMut (0 :: (c ++ List.replicate 16 0)) 50 (0 :: (c ++ List.replicate 16 0)).length
        (encryptWithAd C · 0 s3.1 s3.2.h []) = .ok (0 :: (c ++ Bolt8.encryptWithAd C 0 s3.1 s3.2.h [])) := by
      rw [withSliceMut_encryptWithAd C 0 s3.1 s3.2.h [] (by simp; omega) le_rfl (by simp [hc])]
      simp [List.drop_eq_nil_of_le, hc]
    simp only [except_mapError_ok, hres1, hslice, result_lift_ok, pure_bind, ExceptT.run_pure,
      except_ok_bind, except_pure, mk_sha256_eq_mixHash, hkdf_eq, ← hs3, hres2]
    rfl

theorem processActThree_run (st : InProgress SecretKey PublicKey (.postActTwo .inbound))
    {actThree : Bytes} (hlen : actThree.length = 66) :
    (processActThree C st actThree).run =
      .ok ((Bolt8.processActThree C st actThree).mapError Bolt8.Reject.toHandleError) := by
  obtain ⟨a0, rest, rfl⟩ : ∃ a0 rest, actThree = a0 :: rest := by
    cases actThree with
    | nil => simp at hlen
    | cons a0 rest => exact ⟨a0, rest, rfl⟩
  simp only [List.length_cons] at hlen
  simp only [processActThree, assert_ok (show (a0 :: rest).length = 66 by simp [hlen]),
    index_ok (show 0 < (a0 :: rest).length by simp), List.getElem_cons_zero,
    slice_ok (show 1 ≤ 50 by omega) (show 50 ≤ (a0 :: rest).length by simp; omega),
    sliceFrom_ok (show 50 ≤ (a0 :: rest).length by simp; omega), result_lift_ok, pure_bind]
  by_cases ha : a0 = 0
  case neg => simp [ha, Bolt8.processActThree]; rfl
  subst ha
  simp only [ne_eq, not_true_eq_false, if_false, pure_bind, List.drop_succ_cons, List.drop_zero,
    show 50 - 1 = 49 from rfl, ExceptT.run_bind,
    decryptWithAd_run C (List.replicate 33 0) 1 _ _ (rest.take 49) (by simp; omega) (by simp; omega),
    Bolt8.processActThree, List.head?_cons]
  cases Bolt8.decryptWithAd C 1 st.directionalState.tempK2 st.bidirectionalState.h (rest.take 49) with
  | none => rfl
  | some rsBytes =>
    simp only [except_ok_bind]
    cases C.fromSlice rsBytes with
    | none => rfl
    | some rs =>
      simp only [hkdf_eq, mk_sha256_eq_mixHash, ExceptT.run_bind,
        decryptWithAd_run C [] 0 _ _ (rest.drop 49) (by simp; omega) (by simp; omega), except_ok_bind]
      set k := Bolt8.mixKey C (Bolt8.mixHash C st.bidirectionalState (rest.take 49))
        (C.sharedSecret rs st.directionalState.re)
      cases Bolt8.decryptWithAd C 0 k.1 k.2.h (rest.drop 49) <;> rfl

end PeerChannelEncryptor
end Lightning
