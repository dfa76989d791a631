import PeerChannelEncryptor.Bolt8

/-!
# PeerChannelEncryptor.Noise

The helpers shared by the transitions of `peer_channel_encryptor.rs`: `encrypt_with_ad`,
`decrypt_with_ad`, `hkdf_extract_expand`, `hkdf`, `outbound_noise_act` and `inbound_noise_act`,
each with every slice, copy and assertion of the Rust code.

Each has one spec lemma giving its result on buffers of the lengths its callers pass, in terms
of the reference `Bolt8` operations: `encryptWithAd_ok`, `decryptWithAd_run`,
`outboundNoiseAct_ok` and `inboundNoiseAct_run`. The transitions and
every later proof cite these lemmas and never unfold the helpers.
-/

namespace Lightning
namespace PeerChannelEncryptor

variable {SecretKey PublicKey : Type} (C : Crypto SecretKey PublicKey)

/-- The nonce of `encrypt_with_ad` and `decrypt_with_ad`: `le64_to_array(n)` copied into
`nonce[4..]` of a zeroed `[u8; 12]`. -/
def nonceOf (n : UInt64) : Except Panic Bytes :=
  withSliceMut (List.replicate 12 0) 4 12 (copyFromSlice · (le64ToArray n))

/-- `encrypt_with_ad(res, n, key, h, plaintext)`: `ChaCha20Poly1305RFC::encrypt` writes the
ciphertext into `res[0..plaintext.len()]`, asserting that the two lengths agree, and the tag
is copied into `res[plaintext.len()..]`. Returns what `res` then holds. -/
def encryptWithAd (res : Bytes) (n : UInt64) (key h plaintext : Bytes) : Except Panic Bytes := do
  let ct := C.encrypt key (← nonceOf n) h plaintext
  let res ← withSliceMut res 0 plaintext.length fun out => do
    assert (plaintext.length = out.length)
    pure ct.1
  withSliceMut res plaintext.length res.length (copyFromSlice · ct.2)

/-- `decrypt_with_ad(res, n, key, h, cyphertext)`: the tag is the last 16 bytes;
`ChaCha20Poly1305RFC::decrypt` asserts that `res` is as long as the rest, and fills it only
when the tag verifies. Returns what `res` then holds. -/
def decryptWithAd (res : Bytes) (n : UInt64) (key h cyphertext : Bytes) : Result Bytes := do
  let nonce ← nonceOf n
  let input ← slice cyphertext 0 (← usizeSub cyphertext.length 16)
  let tag ← sliceFrom cyphertext (← usizeSub cyphertext.length 16)
  assert (input.length = res.length)
  match C.decrypt key nonce h input tag with
  | some plaintext => pure plaintext
  | none => throw (.disconnect "Bad MAC")

/-- `hkdf_extract_expand(salt, ikm)`. -/
def hkdfExtractExpand (salt ikm : Bytes) : Bytes × Bytes :=
  let prk := C.hmac salt ikm
  let t1 := C.hmac prk [1]
  (t1, C.hmac prk (t1 ++ [2]))

/-- `hkdf(state, ss)`: the first output becomes `state.ck`, the second is returned. -/
def hkdf (state : BidirectionalNoiseState) (ss : Bytes) : Bytes × BidirectionalNoiseState :=
  let (t1, t2) := hkdfExtractExpand C state.ck ss
  (t2, { state with ck := t1 })

/-- `outbound_noise_act(state, our_key, their_key)`: the act `0 || our_pub || tag` and
`temp_k`. -/
def outboundNoiseAct (state : BidirectionalNoiseState) (ourKey : SecretKey) (theirKey : PublicKey) :
    Except Panic ((Bytes × Bytes) × BidirectionalNoiseState) := do
  let ourPub := C.fromSecretKey ourKey
  let state := { state with h := C.sha256 (state.h ++ C.serialize ourPub) }
  let (tempK, state) := hkdf C state (C.sharedSecret theirKey ourKey)
  let res ← withSliceMut (List.replicate 50 0) 1 34 (copyFromSlice · (C.serialize ourPub))
  let res ← withSliceMut res 34 res.length (encryptWithAd C · 0 tempK state.h [])
  let state := { state with h := C.sha256 (state.h ++ (← sliceFrom res 34)) }
  pure ((res, tempK), state)

/-- `inbound_noise_act(state, act, our_key)`: the peer's ephemeral key and `temp_k`. -/
def inboundNoiseAct (state : BidirectionalNoiseState) (act : Bytes) (ourKey : SecretKey) :
    Result ((PublicKey × Bytes) × BidirectionalNoiseState) := do
  assert (act.length = 50)
  if (← index act 0) ≠ 0 then throw (.disconnect "Unknown handshake version number")
  let theirPub ← match C.fromSlice (← slice act 1 34) with
    | none => throw (.disconnect "Invalid public key")
    | some key => pure key
  let state := { state with h := C.sha256 (state.h ++ C.serialize theirPub) }
  let (tempK, state) := hkdf C state (C.sharedSecret theirPub ourKey)
  let _ ← decryptWithAd C [] 0 tempK state.h (← sliceFrom act 34)
  let state := { state with h := C.sha256 (state.h ++ (← sliceFrom act 34)) }
  pure ((theirPub, tempK), state)

/-! ## Spec lemmas -/

theorem nonceOf_ok (n : UInt64) : nonceOf n = .ok (Bolt8.nonce n) := by
  rw [nonceOf, withSliceMut_copy (by omega) (by simp) (by simp)]
  rfl

theorem encryptWithAd_ok {res : Bytes} (n : UInt64) (key h pt : Bytes)
    (hres : res.length = pt.length + 16) :
    encryptWithAd C res n key h pt = .ok (Bolt8.encryptWithAd C n key h pt) := by
  have h1 := C.encrypt_length key (Bolt8.nonce n) h pt
  have h2 := C.tag_length key (Bolt8.nonce n) h pt
  simp only [encryptWithAd, nonceOf_ok, except_ok_bind]
  rw [withSliceMut_eq (Nat.zero_le _) (by omega)]
  simp only [assert_ok (show pt.length = ((res.drop 0).take (pt.length - 0)).length by simp; omega),
    except_ok_bind, except_pure, except_map_ok, List.take_zero, List.nil_append]
  rw [withSliceMut_copy (by simp [h1]) le_rfl (by simp [h1, h2]; omega)]
  simp [Bolt8.encryptWithAd, h1]

theorem decryptWithAd_run (res : Bytes) (n : UInt64) (key h ct : Bytes)
    (hct : 16 ≤ ct.length) (hres : res.length = ct.length - 16) :
    (decryptWithAd C res n key h ct).run =
      .ok (match Bolt8.decryptWithAd C n key h ct with
        | some p => .ok p
        | none => .error (.disconnect "Bad MAC")) := by
  have hin : ((ct.drop 0).take (ct.length - 16 - 0)).length = res.length := by simp; omega
  simp only [decryptWithAd, nonceOf_ok, usizeSub_ok hct, slice_ok (Nat.zero_le _) (Nat.sub_le _ _),
    sliceFrom_ok (Nat.sub_le _ _), assert_ok hin, result_lift_ok, pure_bind]
  simp only [Bolt8.decryptWithAd, List.drop_zero, Nat.sub_zero]
  cases C.decrypt key (Bolt8.nonce n) h (ct.take (ct.length - 16)) (ct.drop (ct.length - 16)) <;> rfl

theorem withSliceMut_encryptWithAd {buf : Bytes} {lo hi : Nat} (n : UInt64) (key h pt : Bytes)
    (hlo : lo ≤ hi) (hhi : hi ≤ buf.length) (hl : hi - lo = pt.length + 16) :
    withSliceMut buf lo hi (encryptWithAd C · n key h pt) =
      .ok (buf.take lo ++ Bolt8.encryptWithAd C n key h pt ++ buf.drop hi) := by
  rw [withSliceMut_eq hlo hhi, encryptWithAd_ok C n key h pt (by simp; omega)]
  rfl

theorem hkdf_eq (state : BidirectionalNoiseState) (ss : Bytes) :
    hkdf C state ss = Bolt8.mixKey C state ss := rfl

theorem outboundNoiseAct_ok (state : BidirectionalNoiseState) (ourKey : SecretKey)
    (theirKey : PublicKey) :
    outboundNoiseAct C state ourKey theirKey = .ok (Bolt8.writeEphemeral C state ourKey theirKey) := by
  have hser := C.serialize_length (C.fromSecretKey ourKey)
  have hbuf : (List.replicate 50 (0 : UInt8)).take 1 ++ C.serialize (C.fromSecretKey ourKey) ++
      (List.replicate 50 0).drop 34 =
      [0] ++ C.serialize (C.fromSecretKey ourKey) ++ List.replicate 16 0 := by
    rw [List.take_replicate, List.drop_replicate]; rfl
  have h34 : ([0] ++ C.serialize (C.fromSecretKey ourKey)).length = 34 := by simp [hser]
  simp only [outboundNoiseAct, hkdf_eq]
  rw [withSliceMut_copy (by omega) (by simp) (by simp [hser]), except_ok_bind, hbuf,
    withSliceMut_encryptWithAd C _ _ _ _ (by simp [hser]) le_rfl (by simp [hser]), except_ok_bind,
    List.take_left' h34, List.drop_length, List.append_nil, sliceFrom_ok (by simp [hser]),
    List.drop_left' h34]
  rfl

@[simp] theorem mk_sha256_eq_mixHash (s : BidirectionalNoiseState) (d : Bytes) :
    BidirectionalNoiseState.mk (C.sha256 (s.h ++ d)) s.ck = Bolt8.mixHash C s d := rfl

theorem inboundNoiseAct_run (state : BidirectionalNoiseState) {act : Bytes} (ourKey : SecretKey)
    (hlen : act.length = 50) :
    (inboundNoiseAct C state act ourKey).run =
      .ok ((Bolt8.readEphemeral C state act ourKey).mapError Bolt8.Reject.toHandleError) := by
  obtain ⟨a0, rest, rfl⟩ : ∃ a0 rest, act = a0 :: rest := by
    cases act with
    | nil => simp at hlen
    | cons a0 rest => exact ⟨a0, rest, rfl⟩
  simp only [List.length_cons, Nat.add_right_cancel_iff] at hlen
  simp only [inboundNoiseAct, assert_ok (show (a0 :: rest).length = 50 by simp [hlen]),
    index_ok (show 0 < (a0 :: rest).length by simp),
    slice_ok (show 1 ≤ 34 by omega) (show 34 ≤ (a0 :: rest).length by simp [hlen]),
    sliceFrom_ok (show 34 ≤ (a0 :: rest).length by simp [hlen]), result_lift_ok, pure_bind,
    List.getElem_cons_zero]
  by_cases ha : a0 = 0
  case neg => simp [ha, Bolt8.readEphemeral]; rfl
  subst ha
  simp only [ne_eq, not_true_eq_false, if_false, pure_bind, Bolt8.readEphemeral, List.head?_cons,
    List.drop_succ_cons, List.drop_zero, show 34 - 1 = 33 from rfl, hkdf_eq, mk_sha256_eq_mixHash]
  cases hfs : C.fromSlice (rest.take 33) with
  | none => rfl
  | some re =>
    rw [ExceptT.run_bind, decryptWithAd_run C [] 0 _ _ (rest.drop 33) (by simp; omega)
      (by simp; omega)]
    split <;> rename_i hd <;> simp only [hd, except_ok_bind] <;> rfl

end PeerChannelEncryptor
end Lightning
