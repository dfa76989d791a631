import PeerChannelEncryptor.Transport

/-!
# PeerChannelEncryptor.Schedule

The code's lazy key rotation follows the BOLT 8 schedule. The code rotates at the top of the
call after a counter has reached 1000; BOLT 8 rotates after the 1000th operation. Both give the
`t`-th AEAD operation of a direction the key `Bolt8.opKey t` of epoch `t / 1000` and the nonce
`Bolt8.opNonce t = t mod 1000`.

`afterOps ck k t` is the direction's `(k, n, ck)` after `t` operations, and `opState ck k t` the
triple the `t`-th operation runs under. The rotation block maps the first to the second
(`rotate_afterOps`), so every call's spec lemma can be restated over the schedule:

* `encryptMessage_afterOps`: from `afterOps (2j)`, `encrypt_message` emits `Bolt8.frame j`;
* `decryptLengthHeader_afterOps`, `decryptMessage_afterOps`: the receive calls decrypt under
  operations `2j` and `2j + 1`;
* `sendAll_afterOps`, `receiveAll_afterOps`: whole runs of each direction, by induction;
* `bolt8_schedule`: from a direction at counter 0, the frames are BOLT 8's, the counter is even
  and at most 1000 between calls, no nonce reaches 1000, the nonces of an epoch are pairwise
  distinct, and a receive run reads exactly what `Bolt8.openStream` reads.
-/

namespace Lightning
namespace PeerChannelEncryptor

variable {SecretKey PublicKey : Type} (C : Crypto SecretKey PublicKey)

/-! ## The schedule as direction states -/

/-- The `(k, n, ck)` under which the `t`-th operation of a direction runs. -/
def opState (ck k : Bytes) (t : Nat) : CipherState :=
  ⟨Bolt8.opKey C ck k t, Bolt8.opNonce t, (Bolt8.keyChain C ck k (t / 1000)).1⟩

/-- A direction's `(k, n, ck)` after `t` operations: that of the last one, its counter bumped. -/
def afterOps (ck k : Bytes) : Nat → CipherState
  | 0 => opState C ck k 0
  | t + 1 => { opState C ck k t with n := Bolt8.opNonce t + 1 }

@[simp] theorem afterOps_zero (ck k : Bytes) : afterOps C ck k 0 = ⟨k, 0, ck⟩ := rfl

theorem opNonce_toNat (t : Nat) : (Bolt8.opNonce t).toNat = t % 1000 := by
  simp only [Bolt8.opNonce, UInt64.toNat]; show t % 1000 % 2 ^ 64 = t % 1000; omega

theorem opNonce_succ {t : Nat} (h : t % 1000 + 1 < 1000) : Bolt8.opNonce (t + 1) = Bolt8.opNonce t + 1 := by
  apply UInt64.toNat.inj
  rw [u64_toNat_add_one (by rw [opNonce_toNat]; simp [UInt64.size]; omega), opNonce_toNat,
    opNonce_toNat]
  omega

/-- Inside an epoch, the state after operation `t` is the one operation `t + 1` runs under. -/
theorem afterOps_succ_of_lt {ck k : Bytes} {t : Nat} (h : t % 1000 + 1 < 1000) :
    afterOps C ck k (t + 1) = opState C ck k (t + 1) := by
  have he : (t + 1) / 1000 = t / 1000 := by omega
  simp only [afterOps, opState, Bolt8.opKey, he, opNonce_succ h]

/-- The rotation block turns the state after `t` operations into the one operation `t` runs
under: at the end of an epoch it derives the next key, elsewhere it does nothing. -/
theorem rotate_afterOps (ck k : Bytes) (t : Nat) :
    (afterOps C ck k t).rotate C = opState C ck k t := by
  cases t with
  | zero => rfl
  | succ t =>
    by_cases h : t % 1000 + 1 < 1000
    · rw [afterOps_succ_of_lt C h, CipherState.rotate, if_neg]
      rw [u64_le_iff, show (opState C ck k (t + 1)).n.toNat = (t + 1) % 1000 from opNonce_toNat _]
      show ¬ 1000 ≤ (t + 1) % 1000
      omega
    · have hn : (Bolt8.opNonce t + 1).toNat = 1000 := by
        rw [u64_toNat_add_one (by rw [opNonce_toNat]; simp [UInt64.size]; omega), opNonce_toNat]
        omega
      have he : (t + 1) / 1000 = t / 1000 + 1 := by omega
      have h0 : Bolt8.opNonce (t + 1) = 0 := by rw [Bolt8.opNonce, show (t + 1) % 1000 = 0 by omega]; rfl
      rw [CipherState.rotate, if_pos (by rw [u64_le_iff]; exact hn.ge)]
      simp only [afterOps, opState, Bolt8.opKey, he, h0]
      rfl

/-! ## Each call on the schedule -/

section
variable {ck k : Bytes} {j : Nat}

/-- From the state after `2j` operations, `encrypt_message` emits frame `j` of the schedule and
leaves the state after `2j + 2`. -/
theorem encryptMessage_afterOps (s : Finished) (hs : s.send = afterOps C ck k (2 * j)) {m : Bytes}
    (hm : m.length ≤ 65535) :
    s.encryptMessage C m = .ok (Bolt8.frame C ck k j m, s.setSend (afterOps C ck k (2 * j + 2))) := by
  have h1 : 2 * j % 1000 + 1 < 1000 := by omega
  have he : (2 * j + 1) / 1000 = 2 * j / 1000 := by omega
  rw [encryptMessage_ok C s hm, hs, rotate_afterOps]
  simp only [Bolt8.frame, afterOps, opState, Bolt8.opKey, opNonce_succ h1, he, u64_add_one_add_one]

/-- `decrypt_length_header` from the state after `t` operations decrypts under operation `t`;
a failed tag leaves the rotation committed. -/
theorem decryptLengthHeader_afterOps (s : Finished) {t : Nat} (hs : s.recv = afterOps C ck k t)
    {x : Bytes} (hx : x.length = 18) :
    s.decryptLengthHeader C x =
      .ok (match Bolt8.decryptWithAd C (Bolt8.opNonce t) (Bolt8.opKey C ck k t) [] x with
        | some p => (.ok (sliceToBe16 p), s.setRecv (afterOps C ck k (t + 1)))
        | none => (.error (.disconnect "Bad MAC"), s.setRecv (opState C ck k t))) := by
  rw [decryptLengthHeader_eq C s hx, hs, rotate_afterOps]
  rfl

/-- `decrypt_message` after an operation that did not end an epoch decrypts under the next one. -/
theorem decryptMessage_afterOps (s : Finished) {t : Nat} (hs : s.recv = afterOps C ck k (t + 1))
    (ht : t % 1000 + 1 < 1000) {y : Bytes} (h16 : 16 ≤ y.length) (hy : y.length ≤ 65535 + 16) :
    s.decryptMessage C y =
      .ok (match Bolt8.decryptWithAd C (Bolt8.opNonce (t + 1)) (Bolt8.opKey C ck k (t + 1)) [] y with
        | some m => (.ok m, s.setRecv (afterOps C ck k (t + 2)))
        | none => (.error (.disconnect "Bad MAC"), s)) := by
  rw [afterOps_succ_of_lt C ht] at hs
  obtain ⟨sk, sn, sck, rk, rn, rck⟩ := s
  simp only [Finished.recv, opState, CipherState.mk.injEq] at hs
  obtain ⟨rfl, rfl, rfl⟩ := hs
  have hn : (Bolt8.opNonce (t + 1)).toNat + 1 < UInt64.size := by
    rw [opNonce_toNat]; simp [UInt64.size]; omega
  rw [decryptMessage_eq C _ h16 hy]
  cases Bolt8.decryptWithAd C (Bolt8.opNonce (t + 1)) (Bolt8.opKey C ck k (t + 1)) [] y with
  | none => rfl
  | some m =>
    simp only [u64Incr_ok hn, except_map_ok]
    rfl

end

/-! ## Runs of one direction -/

/-- `encrypt_message` on each message in turn, collecting the frames. -/
def sendAll : Finished → List Bytes → Except Panic (List Bytes × Finished)
  | s, [] => .ok ([], s)
  | s, m :: ms => do
    let (frame, s) ← s.encryptMessage C m
    let (frames, s) ← sendAll s ms
    pure (frame :: frames, s)

/-- `decrypt_length_header`, then `decrypt_message`, on each (header, payload) pair in turn, as
the peer handler calls them; the first failed call ends the run. -/
def receiveAll : Finished → List (Bytes × Bytes) →
    Except Panic (Except HandleError (List (UInt16 × Bytes)) × Finished)
  | s, [] => .ok (.ok [], s)
  | s, (x, y) :: rest => do
    let (len, s) ← s.decryptLengthHeader C x
    match len with
    | .error e => pure (.error e, s)
    | .ok L =>
      let (msg, s) ← s.decryptMessage C y
      match msg with
      | .error e => pure (.error e, s)
      | .ok m =>
        let (out, s) ← receiveAll s rest
        pure (((L, m) :: ·) <$> out, s)

section
variable {ck k : Bytes}

theorem sendAll_afterOps {ms : List Bytes} (hms : ∀ m ∈ ms, m.length ≤ 65535) :
    ∀ (s : Finished) (j : Nat), s.send = afterOps C ck k (2 * j) →
      sendAll C s ms = .ok (Bolt8.frames C ck k j ms, s.setSend (afterOps C ck k (2 * (j + ms.length)))) := by
  induction ms with
  | nil => intro s j hs; simp [sendAll, Bolt8.frames, ← hs]
  | cons m ms ih =>
    intro s j hs
    have hm := hms m (List.mem_cons_self m ms)
    have hj : 2 * (j + 1 + ms.length) = 2 * (j + (ms.length + 1)) := by omega
    simp only [sendAll, encryptMessage_afterOps C s hs hm, except_ok_bind]
    rw [ih (fun m' h => hms m' (List.mem_cons_of_mem m h)) _ (j + 1)
      (by rw [Finished.send_setSend, Nat.mul_add_one]), hj]
    rfl

theorem openStream_cons_of_some {j : Nat} {x y p m : Bytes} {xs : List (Bytes × Bytes)}
    (hp : Bolt8.decryptWithAd C (Bolt8.opNonce (2 * j)) (Bolt8.opKey C ck k (2 * j)) [] x = some p)
    (hm : Bolt8.decryptWithAd C (Bolt8.opNonce (2 * j + 1)) (Bolt8.opKey C ck k (2 * j + 1)) [] y =
      some m) :
    Bolt8.openStream C ck k j ((x, y) :: xs) =
      ((sliceToBe16 p, m) :: ·) <$> Bolt8.openStream C ck k (j + 1) xs := by
  simp only [Bolt8.openStream, hp, hm, Option.some_bind]
  cases Bolt8.openStream C ck k (j + 1) xs <;> rfl

theorem receiveAll_afterOps {xs : List (Bytes × Bytes)}
    (hxs : ∀ p ∈ xs, p.1.length = 18 ∧ 16 ≤ p.2.length ∧ p.2.length ≤ 65535 + 16) :
    ∀ (s : Finished) (j : Nat), s.recv = afterOps C ck k (2 * j) →
      ∃ s', receiveAll C s xs =
          .ok ((match Bolt8.openStream C ck k j xs with
            | some out => .ok out
            | none => .error (.disconnect "Bad MAC")), s') ∧
        ((Bolt8.openStream C ck k j xs).isSome →
          s' = s.setRecv (afterOps C ck k (2 * (j + xs.length)))) := by
  induction xs with
  | nil => intro s j hs; exact ⟨s, rfl, fun _ => by simp [← hs]⟩
  | cons p xs ih =>
    obtain ⟨x, y⟩ := p
    intro s j hs
    obtain ⟨hx, hy16, hy⟩ := hxs (x, y) (List.mem_cons_self _ _)
    have ht : 2 * j % 1000 + 1 < 1000 := by omega
    simp only [receiveAll, decryptLengthHeader_afterOps C s hs hx, except_ok_bind]
    cases hp : Bolt8.decryptWithAd C (Bolt8.opNonce (2 * j)) (Bolt8.opKey C ck k (2 * j)) [] x with
    | none => exact ⟨s.setRecv (opState C ck k (2 * j)), by simp [Bolt8.openStream, hp],
        by simp [Bolt8.openStream, hp]⟩
    | some p =>
      simp only [decryptMessage_afterOps C _ (Finished.recv_setRecv _ _) ht hy16 hy, except_ok_bind]
      cases hm : Bolt8.decryptWithAd C (Bolt8.opNonce (2 * j + 1)) (Bolt8.opKey C ck k (2 * j + 1)) [] y with
      | none => exact ⟨s.setRecv (afterOps C ck k (2 * j + 1)), by simp [Bolt8.openStream, hp, hm],
          by simp [Bolt8.openStream, hp, hm]⟩
      | some m =>
        obtain ⟨s', hrun, hfin⟩ := ih (fun q h => hxs q (List.mem_cons_of_mem _ h))
          (s.setRecv (afterOps C ck k (2 * j + 2))) (j + 1)
          (by rw [Finished.recv_setRecv, Nat.mul_add_one])
        rw [openStream_cons_of_some C hp hm]
        refine ⟨s', ?_, fun h => ?_⟩
        · simp only [Finished.setRecv_setRecv, hrun, except_ok_bind]
          cases Bolt8.openStream C ck k (j + 1) xs <;> rfl
        · rw [hfin (by simpa using h), Finished.setRecv_setRecv, List.length_cons,
            Nat.add_right_comm j, Nat.add_assoc]

end

/-! ## The schedule's guarantees -/

/-- Between messages a direction's counter is even and at most 1000. -/
theorem afterOps_even (ck k : Bytes) (j : Nat) :
    (afterOps C ck k (2 * j)).n.toNat % 2 = 0 ∧ (afterOps C ck k (2 * j)).n.toNat ≤ 1000 := by
  cases j with
  | zero => simp
  | succ i =>
    have h := opNonce_toNat (2 * i + 1)
    rw [show 2 * (i + 1) = 2 * i + 1 + 1 by omega]
    show (Bolt8.opNonce (2 * i + 1) + 1).toNat % 2 = 0 ∧ (Bolt8.opNonce (2 * i + 1) + 1).toNat ≤ 1000
    rw [u64_toNat_add_one (by rw [h]; simp [UInt64.size]; omega), h]
    omega

theorem nonce_injective {a b : UInt64} (h : Bolt8.nonce a = Bolt8.nonce b) : a = b :=
  le64ToArray_injective (List.append_cancel_left h)

/-- Within one epoch, distinct operations use distinct 12-byte nonces. -/
theorem nonce_ne_of_epoch {t t' : Nat} (he : t / 1000 = t' / 1000) (hne : t ≠ t') :
    Bolt8.nonce (Bolt8.opNonce t) ≠ Bolt8.nonce (Bolt8.opNonce t') := fun h => by
  have h' := congrArg UInt64.toNat (nonce_injective h)
  rw [opNonce_toNat, opNonce_toNat] at h'
  omega

/-- From a direction at counter 0 with key `k` and chaining key `ck`: `encrypt_message` emits
BOLT 8's frames, the counter is even and at most 1000 between calls, no nonce reaches 1000, an
epoch's nonces are pairwise distinct, and a receive run reads exactly what BOLT 8 reads, ending
on the schedule when it succeeds. -/
theorem bolt8_schedule {s r : Finished} {ck k : Bytes} (hs : s.send = ⟨k, 0, ck⟩)
    (hr : r.recv = ⟨k, 0, ck⟩) {ms : List Bytes} (hms : ∀ m ∈ ms, m.length ≤ 65535)
    {xs : List (Bytes × Bytes)}
    (hxs : ∀ p ∈ xs, p.1.length = 18 ∧ 16 ≤ p.2.length ∧ p.2.length ≤ 65535 + 16) :
    sendAll C s ms = .ok (Bolt8.frames C ck k 0 ms, s.setSend (afterOps C ck k (2 * ms.length))) ∧
    (afterOps C ck k (2 * ms.length)).n.toNat % 2 = 0 ∧
    (afterOps C ck k (2 * ms.length)).n.toNat ≤ 1000 ∧
    (∀ t, (Bolt8.opNonce t).toNat < 1000) ∧
    (∀ t t', t / 1000 = t' / 1000 → t ≠ t' →
      Bolt8.nonce (Bolt8.opNonce t) ≠ Bolt8.nonce (Bolt8.opNonce t')) ∧
    ∃ r', receiveAll C r xs =
        .ok ((match Bolt8.openStream C ck k 0 xs with
          | some out => .ok out
          | none => .error (.disconnect "Bad MAC")), r') ∧
      ((Bolt8.openStream C ck k 0 xs).isSome → r' = r.setRecv (afterOps C ck k (2 * xs.length))) := by
  have hsend := sendAll_afterOps C hms s 0 hs
  have hrecv := receiveAll_afterOps C hxs r 0 hr
  simp only [Nat.zero_add] at hsend hrecv
  obtain ⟨heven, hle⟩ := afterOps_even C ck k ms.length
  exact ⟨hsend, heven, hle, fun t => by rw [opNonce_toNat]; omega,
    fun _ _ => nonce_ne_of_epoch, hrecv⟩

/-- `bolt8_schedule` on the toy primitives, for one message each way. -/
theorem bolt8_schedule_toy :
    (⟨[1], 0, [2], [1], 0, [2]⟩ : Finished).send = ⟨[1], 0, [2]⟩ ∧
    (⟨[1], 0, [2], [1], 0, [2]⟩ : Finished).recv = ⟨[1], 0, [2]⟩ ∧
    (∀ m ∈ [[5]], List.length (m : Bytes) ≤ 65535) ∧
    (∀ p ∈ [(List.replicate 18 (0 : UInt8), List.replicate 17 (0 : UInt8))],
      p.1.length = 18 ∧ 16 ≤ p.2.length ∧ p.2.length ≤ 65535 + 16) ∧
    sendAll Crypto.toy ⟨[1], 0, [2], [1], 0, [2]⟩ [[5]] =
      .ok (Bolt8.frames Crypto.toy [2] [1] 0 [[5]],
        (⟨[1], 0, [2], [1], 0, [2]⟩ : Finished).setSend (afterOps Crypto.toy [2] [1] (2 * 1))) ∧
    (afterOps Crypto.toy [2] [1] (2 * 1)).n.toNat % 2 = 0 ∧
    (afterOps Crypto.toy [2] [1] (2 * 1)).n.toNat ≤ 1000 ∧
    (∀ t, (Bolt8.opNonce t).toNat < 1000) ∧
    (∀ t t', t / 1000 = t' / 1000 → t ≠ t' →
      Bolt8.nonce (Bolt8.opNonce t) ≠ Bolt8.nonce (Bolt8.opNonce t')) ∧
    ∃ r', receiveAll Crypto.toy ⟨[1], 0, [2], [1], 0, [2]⟩
        [(List.replicate 18 0, List.replicate 17 0)] =
        .ok ((match Bolt8.openStream Crypto.toy [2] [1] 0
            [(List.replicate 18 0, List.replicate 17 0)] with
          | some out => .ok out
          | none => .error (.disconnect "Bad MAC")), r') ∧
      ((Bolt8.openStream Crypto.toy [2] [1] 0 [(List.replicate 18 0, List.replicate 17 0)]).isSome →
        r' = (⟨[1], 0, [2], [1], 0, [2]⟩ : Finished).setRecv (afterOps Crypto.toy [2] [1] (2 * 1))) :=
  ⟨rfl, rfl, by decide, by decide, bolt8_schedule Crypto.toy (s := ⟨[1], 0, [2], [1], 0, [2]⟩)
    (r := ⟨[1], 0, [2], [1], 0, [2]⟩) rfl rfl (by decide) (by decide)⟩

end PeerChannelEncryptor
end Lightning
