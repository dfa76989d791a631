import PeerChannelEncryptor.Noise

/-!
# PeerChannelEncryptor.Transport

The three operations of a `Finished` encryptor: `encrypt_message`, `decrypt_length_header` and
`decrypt_message`.

They take `&mut self`, so a call returns the new state next to its result, also when the result
is an error: `decrypt_length_header` commits a due key rotation before it checks the tag.
Each operation works on one direction's key, counter and chaining key, grouped here as a
`CipherState` (`Finished.send`, `Finished.recv`); `CipherState.rotate` is the rotation block both
directions run before their first AEAD operation of a call.

The spec lemmas `encryptMessage_ok`, `decryptLengthHeader_eq` and `decryptMessage_eq` give each
operation's result on inputs of the documented sizes.
-/

namespace Lightning
namespace PeerChannelEncryptor

/-- One direction of a `Finished` encryptor: its key, nonce counter and chaining key. -/
structure CipherState where
  k : Bytes
  n : UInt64
  ck : Bytes
  deriving DecidableEq, Repr

/-- The send direction, `(sk, sn, sck)`. -/
def Finished.send (s : Finished) : CipherState := ⟨s.sk, s.sn, s.sck⟩

/-- The receive direction, `(rk, rn, rck)`. -/
def Finished.recv (s : Finished) : CipherState := ⟨s.rk, s.rn, s.rck⟩

/-- Replace the send direction. -/
@[simps]
def Finished.setSend (s : Finished) (c : CipherState) : Finished :=
  { s with sk := c.k, sn := c.n, sck := c.ck }

/-- Replace the receive direction. -/
@[simps]
def Finished.setRecv (s : Finished) (c : CipherState) : Finished :=
  { s with rk := c.k, rn := c.n, rck := c.ck }

@[simp] theorem Finished.send_setSend (s : Finished) (c : CipherState) : (s.setSend c).send = c := rfl
@[simp] theorem Finished.recv_setSend (s : Finished) (c : CipherState) : (s.setSend c).recv = s.recv := rfl
@[simp] theorem Finished.send_setRecv (s : Finished) (c : CipherState) : (s.setRecv c).send = s.send := rfl
@[simp] theorem Finished.recv_setRecv (s : Finished) (c : CipherState) : (s.setRecv c).recv = c := rfl
@[simp] theorem Finished.setSend_send (s : Finished) : s.setSend s.send = s := rfl
@[simp] theorem Finished.setRecv_recv (s : Finished) : s.setRecv s.recv = s := rfl

theorem Finished.setSend_setRecv (s : Finished) (c d : CipherState) :
    (s.setSend c).setRecv d = (s.setRecv d).setSend c := rfl

@[simp] theorem Finished.setRecv_setRecv (s : Finished) (c d : CipherState) :
    (s.setRecv c).setRecv d = s.setRecv d := rfl

@[simp] theorem Finished.setSend_setSend (s : Finished) (c d : CipherState) :
    (s.setSend c).setSend d = s.setSend d := rfl

variable {SecretKey PublicKey : Type} (C : Crypto SecretKey PublicKey)

/-- The rotation block of both directions: at a counter of 1000 or more,
`(ck, k) ← hkdf_extract_expand(ck, k)` and the counter restarts at 0. -/
def CipherState.rotate (c : CipherState) : CipherState :=
  if 1000 ≤ c.n then ⟨(hkdfExtractExpand C c.ck c.k).2, 0, (hkdfExtractExpand C c.ck c.k).1⟩ else c

/-- `encrypt_message(msg)`: the sealed length header, then the sealed payload. -/
def Finished.encryptMessage (s : Finished) (msg : Bytes) : Except Panic (Bytes × Finished) := do
  if msg.length > 65535 then
    throw (.explicit "Attempted to encrypt message longer than 65535 bytes!")
  let res := List.replicate (msg.length + 16 * 2 + 2) 0
  let ⟨sk, sn, sck⟩ := s.send.rotate C
  let res ← withSliceMut res 0 (16 + 2)
    (encryptWithAd C · sn sk [] (be16ToArray (UInt16.ofNat msg.length)))
  let sn ← u64Incr sn
  let res ← withSliceMut res (16 + 2) res.length (encryptWithAd C · sn sk [] msg)
  let sn ← u64Incr sn
  pure (res, s.setSend ⟨sk, sn, sck⟩)

/-- `decrypt_length_header(msg)`: the payload length, read after a due rotation. -/
def Finished.decryptLengthHeader (s : Finished) (msg : Bytes) :
    Except Panic (Except HandleError UInt16 × Finished) := do
  assert (msg.length = 16 + 2)
  let s := s.setRecv (s.recv.rotate C)
  match ← (decryptWithAd C (List.replicate 2 0) s.rn s.rk [] msg).run with
  | .error e => pure (.error e, s)
  | .ok res =>
    let rn ← u64Incr s.rn
    pure (.ok (sliceToBe16 res), { s with rn })

/-- `decrypt_message(msg)`: the payload, read at the current receive counter. -/
def Finished.decryptMessage (s : Finished) (msg : Bytes) :
    Except Panic (Except HandleError Bytes × Finished) := do
  if msg.length > 65535 + 16 then
    throw (.explicit "Attempted to encrypt message longer than 65535 bytes!")
  let res := List.replicate (← usizeSub msg.length 16) 0
  match ← (decryptWithAd C res s.rn s.rk [] msg).run with
  | .error e => pure (.error e, s)
  | .ok res =>
    let rn ← u64Incr s.rn
    pure (.ok res, { s with rn })

/-! ## Spec lemmas -/

theorem CipherState.rotate_n_lt (c : CipherState) : (c.rotate C).n.toNat < 1000 := by
  unfold CipherState.rotate
  split
  · simp
  · rename_i h; rw [u64_le_iff] at h; simpa using h

theorem u64_add_one_add_one (n : UInt64) : n + 1 + 1 = n + 2 := by
  simp only [UInt64.add_def, BitVec.add_assoc]; rfl

theorem encryptMessage_ok (s : Finished) {msg : Bytes} (hmsg : msg.length ≤ 65535) :
    s.encryptMessage C msg =
      let c := s.send.rotate C
      .ok (Bolt8.encryptWithAd C c.n c.k [] (be16ToArray (UInt16.ofNat msg.length)) ++
          Bolt8.encryptWithAd C (c.n + 1) c.k [] msg, s.setSend ⟨c.k, c.n + 2, c.ck⟩) := by
  have hn := CipherState.rotate_n_lt C s.send
  simp only [Finished.encryptMessage, show ¬ msg.length > 65535 by omega, if_false]
  generalize s.send.rotate C = c at hn ⊢
  obtain ⟨k, n, ck⟩ := c
  have hn1 : n.toNat + 1 < UInt64.size := by simp [UInt64.size] at hn ⊢; omega
  have hn2 : (n + 1).toNat + 1 < UInt64.size := by
    rw [u64_toNat_add_one hn1]; simp [UInt64.size] at hn ⊢; omega
  set hdr := Bolt8.encryptWithAd C n k [] (be16ToArray (UInt16.ofNat msg.length)) with hhdr
  have h1 : hdr.length = 18 := by simp [hhdr, Bolt8.encryptWithAd_length]
  rw [withSliceMut_encryptWithAd C n k [] _ (by omega) (by simp) (by simp)]
  simp only [except_pure, except_ok_bind, List.take_zero, List.nil_append, ← hhdr,
    u64Incr_ok hn1, u64Incr_ok hn2, u64_add_one_add_one]
  rw [withSliceMut_encryptWithAd C (n + 1) k [] msg (by simp [h1]) le_rfl (by simp [h1])]
  simp [h1, List.drop_eq_nil_of_le]

theorem decryptLengthHeader_eq (s : Finished) {msg : Bytes} (hmsg : msg.length = 18) :
    s.decryptLengthHeader C msg =
      let c := s.recv.rotate C
      .ok (match Bolt8.decryptWithAd C c.n c.k [] msg with
        | some p => (.ok (sliceToBe16 p), s.setRecv ⟨c.k, c.n + 1, c.ck⟩)
        | none => (.error (.disconnect "Bad MAC"), s.setRecv c)) := by
  have hn := CipherState.rotate_n_lt C s.recv
  simp only [Finished.decryptLengthHeader, assert_ok hmsg, except_ok_bind,
    decryptWithAd_run C (List.replicate 2 0) _ _ _ msg (by omega) (by simp [hmsg])]
  generalize s.recv.rotate C = c at hn ⊢
  have hn1 : c.n.toNat + 1 < UInt64.size := by simp [UInt64.size] at hn ⊢; omega
  simp only [Finished.setRecv_rn, Finished.setRecv_rk]
  cases Bolt8.decryptWithAd C c.n c.k [] msg with
  | none => rfl
  | some p => simp [u64Incr_ok hn1]; rfl

theorem decryptMessage_eq (s : Finished) {msg : Bytes} (h16 : 16 ≤ msg.length)
    (hmsg : msg.length ≤ 65535 + 16) :
    s.decryptMessage C msg =
      match Bolt8.decryptWithAd C s.rn s.rk [] msg with
      | some p => (fun rn => (.ok p, { s with rn })) <$> u64Incr s.rn
      | none => .ok (.error (.disconnect "Bad MAC"), s) := by
  simp only [Finished.decryptMessage, show ¬ msg.length > 65535 + 16 by omega, if_false,
    usizeSub_ok h16, except_ok_bind,
    decryptWithAd_run C (List.replicate (msg.length - 16) 0) _ _ _ msg h16 (by simp)]
  cases Bolt8.decryptWithAd C s.rn s.rk [] msg with
  | none => rfl
  | some p => cases u64Incr s.rn <;> rfl

theorem decryptMessage_short (s : Finished) {msg : Bytes} (h : msg.length < 16) :
    s.decryptMessage C msg = .error .arithmeticOverflow := by
  simp [Finished.decryptMessage, usizeSub, show ¬ 16 ≤ msg.length by omega, show ¬ msg.length > 65535 + 16 by omega]

end PeerChannelEncryptor
end Lightning
