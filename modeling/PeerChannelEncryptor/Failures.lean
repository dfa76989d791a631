import PeerChannelEncryptor.Handshake
import PeerChannelEncryptor.Independence

/-!
# PeerChannelEncryptor.Failures

What the transport does with inputs it cannot use.

* `decryptMessage_empty_panics`: `decrypt_message` computes `msg.len() - 16` before any check
  of its own, so an input shorter than the tag panics on every state, although its doc comment
  names only inputs longer than `65535 + 16`.
* `no_panic_of_sizes`: with that input at least 16 bytes long (and the receive counter below
  its maximum), no operation panics on inputs of the documented sizes.
* `runs_never_panic`: neither does any run of calls on such inputs, from any state, while the
  receive counter plus the number of calls stays below `2^64`.
* `failed_receive_noop`: a receive call that fails leaves the state as it was
  (`decrypt_message`) or only with the rotation it committed before the tag check
  (`decrypt_length_header`), from which every later run that starts with a header returns what
  it would have returned before.
-/

namespace Lightning
namespace PeerChannelEncryptor

variable {SecretKey PublicKey : Type} (C : Crypto SecretKey PublicKey)

/-! ## Panics -/

/-- `decrypt_message` on an empty input panics on every state, at `msg.len() - 16`, although
the input is within the documented bound. -/
theorem decryptMessage_empty_panics (s : Finished) :
    ([] : Bytes).length ≤ 65535 + 16 ∧ s.decryptMessage C [] = .error .arithmeticOverflow :=
  ⟨by decide, decryptMessage_short C s (by decide)⟩

theorem decryptMessage_run_ok (s : Finished) {y : Bytes} (h16 : 16 ≤ y.length)
    (hy : y.length ≤ 65535 + 16) (hrn : s.rn.toNat + 1 < UInt64.size) :
    ∃ r, s.decryptMessage C y = .ok r := by
  rw [decryptMessage_eq C s h16 hy]
  split
  · exact ⟨_, by rw [u64Incr_ok hrn]; rfl⟩
  · exact ⟨_, rfl⟩

/-- No operation panics on inputs of the documented sizes once `decrypt_message`'s input holds
at least the tag, while the receive counter is below its maximum. -/
theorem no_panic_of_sizes (st0 : InProgress SecretKey PublicKey (.preActOne .outbound))
    (st1 : InProgress SecretKey PublicKey (.preActOne .inbound))
    (st2 : InProgress SecretKey PublicKey (.postActOne .outbound))
    (st3 : InProgress SecretKey PublicKey (.postActTwo .inbound))
    (actOne actTwo actThree : Bytes) (sR eR sI : SecretKey) (s : Finished) (m x y : Bytes)
    (h1 : actOne.length = 50) (h2 : actTwo.length = 50) (h3 : actThree.length = 66)
    (hm : m.length ≤ 65535) (hx : x.length = 18) (hy16 : 16 ≤ y.length)
    (hy : y.length ≤ 65535 + 16) (hrn : s.rn.toNat + 1 < UInt64.size) :
    (∃ r, getActOne C st0 = .ok r) ∧
    (∃ r, (processActOneWithKeys C st1 actOne sR eR).run = .ok r) ∧
    (∃ r, (processActTwo C st2 actTwo sI).run = .ok r) ∧
    (∃ r, (processActThree C st3 actThree).run = .ok r) ∧
    (∃ r, s.encryptMessage C m = .ok r) ∧
    (∃ r, s.decryptLengthHeader C x = .ok r) ∧
    (∃ r, s.decryptMessage C y = .ok r) :=
  ⟨⟨_, getActOne_ok C st0⟩, ⟨_, processActOneWithKeys_run C st1 sR eR h1⟩,
    ⟨_, processActTwo_run C st2 sI h2⟩, ⟨_, processActThree_run C st3 h3⟩,
    ⟨_, encryptMessage_ok C s hm⟩, ⟨_, decryptLengthHeader_eq C s hx⟩,
    decryptMessage_run_ok C s hy16 hy hrn⟩

/-- `no_panic_of_sizes` on the toy primitives. -/
theorem no_panic_of_sizes_toy :
    (List.replicate 50 (0 : UInt8)).length = 50 ∧ (List.replicate 66 (0 : UInt8)).length = 66 ∧
    ([] : Bytes).length ≤ 65535 ∧ (List.replicate 18 (0 : UInt8)).length = 18 ∧
    16 ≤ (List.replicate 16 (0 : UInt8)).length ∧
    (List.replicate 16 (0 : UInt8)).length ≤ 65535 + 16 ∧
    (⟨[], 0, [], [], 0, []⟩ : Finished).rn.toNat + 1 < UInt64.size ∧
    (∃ r, getActOne Crypto.toy (newOutbound Crypto.toy 2 3) = .ok r) ∧
    (∃ r, (processActOneWithKeys Crypto.toy (newInbound Crypto.toy 2) (List.replicate 50 0)
      2 4).run = .ok r) ∧
    (∃ r, (processActTwo Crypto.toy ⟨(⟨3, 2⟩ : OutboundData UInt8 UInt8), ⟨[], []⟩⟩
      (List.replicate 50 0) 1).run = .ok r) ∧
    (∃ r, (processActThree Crypto.toy ⟨(⟨3, 4, []⟩ : InboundPostActTwo UInt8 UInt8), ⟨[], []⟩⟩
      (List.replicate 66 0)).run = .ok r) ∧
    (∃ r, (⟨[], 0, [], [], 0, []⟩ : Finished).encryptMessage Crypto.toy [] = .ok r) ∧
    (∃ r, (⟨[], 0, [], [], 0, []⟩ : Finished).decryptLengthHeader Crypto.toy
      (List.replicate 18 0) = .ok r) ∧
    (∃ r, (⟨[], 0, [], [], 0, []⟩ : Finished).decryptMessage Crypto.toy
      (List.replicate 16 0) = .ok r) :=
  ⟨by simp, by simp, by decide, by simp, by simp, by simp, by decide,
    no_panic_of_sizes Crypto.toy _ _ _ _ _ _ _ 2 4 1 _ _ _ _ (by simp) (by simp) (by simp)
      (by decide) (by simp) (by simp) (by simp) (by decide)⟩

/-! ## Runs of calls -/

/-- A call's input has the size its doc comment allows, and `decrypt_message`'s input holds at
least the tag. -/
def Call.WithinSizes : Call → Prop
  | .encryptMessage m => m.length ≤ 65535
  | .decryptLengthHeader x => x.length = 16 + 2
  | .decryptMessage y => 16 ≤ y.length ∧ y.length ≤ 65535 + 16

instance (c : Call) : Decidable c.WithinSizes :=
  match c with
  | .encryptMessage m => inferInstanceAs (Decidable (m.length ≤ 65535))
  | .decryptLengthHeader x => inferInstanceAs (Decidable (x.length = 16 + 2))
  | .decryptMessage y => inferInstanceAs (Decidable (16 ≤ y.length ∧ y.length ≤ 65535 + 16))

/-- A rotation never raises the counter. -/
theorem CipherState.rotate_n_le (c : CipherState) : (c.rotate C).n.toNat ≤ c.n.toNat := by
  unfold CipherState.rotate
  split <;> simp

/-- A call on an input of documented size returns, and moves the receive counter up by at most
one: `encrypt_message` leaves it, `decrypt_length_header` rotates it below 1000 first. -/
theorem call_ok_of_sizes (s : Finished) {c : Call} (hc : c.WithinSizes)
    (hrn : s.rn.toNat + 1 < UInt64.size) :
    ∃ o s', s.call C c = .ok (o, s') ∧ s'.rn.toNat ≤ s.rn.toNat + 1 := by
  cases c with
  | encryptMessage m =>
    rw [Finished.call, encryptMessage_ok C s hc]
    exact ⟨_, _, rfl, by simp⟩
  | decryptLengthHeader x =>
    have hle := CipherState.rotate_n_le C s.recv
    have hn1 : (s.recv.rotate C).n.toNat + 1 < UInt64.size := by
      have := CipherState.rotate_n_lt C s.recv
      simp only [UInt64.size] at this ⊢; omega
    rw [Finished.call, decryptLengthHeader_eq C s hc]
    dsimp only
    split
    · exact ⟨_, _, rfl, (u64_toNat_add_one hn1).trans_le (Nat.add_le_add_right hle 1)⟩
    · exact ⟨_, _, rfl, hle.trans (Nat.le_succ _)⟩
  | decryptMessage y =>
    rw [Finished.call, decryptMessage_eq C s hc.1 hc.2]
    split
    · rw [u64Incr_ok hrn]
      exact ⟨_, _, rfl, (u64_toNat_add_one hrn).le⟩
    · exact ⟨_, _, rfl, Nat.le_succ _⟩

/-- No run of calls on inputs of the documented sizes panics, from any state, while the receive
counter plus the number of calls stays below `2^64`, and the receive counter ends at most at
that sum. The bound is the code's own: `decrypt_message` does not rotate, so a caller that sends
payloads with no header between them moves the receive counter up by one per call. -/
theorem runs_never_panic (s : Finished) {cs : List Call} (hcs : ∀ c ∈ cs, c.WithinSizes)
    (hrn : s.rn.toNat + cs.length < UInt64.size) :
    ∃ os s', s.runCalls C cs = .ok (os, s') ∧ s'.rn.toNat ≤ s.rn.toNat + cs.length := by
  induction cs generalizing s with
  | nil => exact ⟨[], s, rfl, le_rfl⟩
  | cons c cs ih =>
    rw [List.length_cons] at hrn ⊢
    obtain ⟨o, s1, h1, hle1⟩ := call_ok_of_sizes C s (hcs c (List.mem_cons_self _ _)) (by omega)
    obtain ⟨os, s', h2, hle2⟩ := ih s1 (fun c h => hcs c (List.mem_cons_of_mem _ h)) (by omega)
    refine ⟨o :: os, s', ?_, by omega⟩
    rw [Finished.runCalls, h1, except_ok_bind]
    dsimp only
    rw [h2]
    rfl

/-- `runs_never_panic` on the toy primitives, for a send, a header and two payloads in a row. -/
theorem runs_never_panic_toy :
    (∀ c ∈ [Call.encryptMessage [1], .decryptLengthHeader (List.replicate 18 0),
      .decryptMessage (List.replicate 16 0), .decryptMessage (List.replicate 16 0)],
      c.WithinSizes) ∧
    (⟨[], 0, [], [], 0, []⟩ : Finished).rn.toNat + [Call.encryptMessage [1],
      .decryptLengthHeader (List.replicate 18 0), .decryptMessage (List.replicate 16 0),
      .decryptMessage (List.replicate 16 0)].length < UInt64.size ∧
    ∃ os s', Finished.runCalls Crypto.toy ⟨[], 0, [], [], 0, []⟩ [Call.encryptMessage [1],
        .decryptLengthHeader (List.replicate 18 0), .decryptMessage (List.replicate 16 0),
        .decryptMessage (List.replicate 16 0)] = .ok (os, s') ∧
      s'.rn.toNat ≤ (⟨[], 0, [], [], 0, []⟩ : Finished).rn.toNat + [Call.encryptMessage [1],
        .decryptLengthHeader (List.replicate 18 0), .decryptMessage (List.replicate 16 0),
        .decryptMessage (List.replicate 16 0)].length :=
  ⟨by decide, by decide, runs_never_panic Crypto.toy _ (by decide) (by decide)⟩

/-! ## Failed receives -/

/-- After a rotation no further rotation is due. -/
@[simp] theorem CipherState.rotate_rotate (c : CipherState) : (c.rotate C).rotate C = c.rotate C := by
  have h := CipherState.rotate_n_lt C c
  rw [CipherState.rotate, if_neg (by rw [u64_le_iff]; show ¬ 1000 ≤ (c.rotate C).n.toNat; omega)]

/-- `decrypt_length_header` reads the same from a state whose due rotation is already done. -/
theorem decryptLengthHeader_setRecv_rotate (s : Finished) (x : Bytes) :
    (s.setRecv (s.recv.rotate C)).decryptLengthHeader C x = s.decryptLengthHeader C x := by
  simp only [Finished.decryptLengthHeader, Finished.recv_setRecv, CipherState.rotate_rotate,
    Finished.setRecv_setRecv]

theorem decryptLengthHeader_error {s s' : Finished} {x : Bytes} {e : HandleError}
    (h : s.decryptLengthHeader C x = .ok (.error e, s')) :
    e = .disconnect "Bad MAC" ∧ s' = s.setRecv (s.recv.rotate C) := by
  by_cases hx : x.length = 18
  · rw [decryptLengthHeader_eq C s hx] at h
    dsimp only at h
    split at h <;> cases h
    exact ⟨rfl, rfl⟩
  · simp [Finished.decryptLengthHeader, assert, hx] at h

theorem decryptMessage_error {s s' : Finished} {y : Bytes} {e : HandleError}
    (h : s.decryptMessage C y = .ok (.error e, s')) : e = .disconnect "Bad MAC" ∧ s' = s := by
  by_cases h16 : 16 ≤ y.length
  · by_cases hy : y.length ≤ 65535 + 16
    · rw [decryptMessage_eq C s h16 hy] at h
      split at h
      · revert h
        cases u64Incr s.rn <;> intro h <;> cases h
      · cases h; exact ⟨rfl, rfl⟩
    · simp only [Finished.decryptMessage, show y.length > 65535 + 16 by omega, if_true] at h
      cases h
  · rw [decryptMessage_short C s (by omega)] at h
    cases h

/-- A failed receive is a no-op for what follows. A failed `decrypt_message` leaves the state
as it was; a failed `decrypt_length_header` leaves the send direction and commits only the due
rotation of the receive direction, and every later run that starts with a header returns
exactly what it returns from the state before. -/
theorem failed_receive_noop (s : Finished) :
    (∀ y e s', s.decryptMessage C y = .ok (.error e, s') → s' = s) ∧
    (∀ x e s', s.decryptLengthHeader C x = .ok (.error e, s') →
      s' = s.setRecv (s.recv.rotate C) ∧
      ∀ x' cs, s'.runCalls C (.decryptLengthHeader x' :: cs) =
        s.runCalls C (.decryptLengthHeader x' :: cs)) := by
  refine ⟨fun _ _ _ h => (decryptMessage_error C h).2, fun _ _ _ h => ?_⟩
  obtain ⟨-, rfl⟩ := decryptLengthHeader_error C h
  exact ⟨rfl, fun x' cs => by
    simp only [Finished.runCalls, Finished.call, decryptLengthHeader_setRecv_rotate]⟩

/-- `failed_receive_noop` at a header that fails its tag when the receive counter is at 1000: the
rotation stays committed, the counter restarts at 0 rather than moving on, and later runs are
unaffected. -/
theorem failed_receive_noop_toy :
    (⟨[], 0, [], [1], 1000, [2]⟩ : Finished).decryptLengthHeader Crypto.toy (List.replicate 18 1) =
      .ok (.error (.disconnect "Bad MAC"), ⟨[], 0, [], [2, 1, 2, 1, 1, 2], 0, [2, 1, 1]⟩) ∧
    ∀ x' cs, Finished.runCalls Crypto.toy ⟨[], 0, [], [2, 1, 2, 1, 1, 2], 0, [2, 1, 1]⟩
        (.decryptLengthHeader x' :: cs) =
      Finished.runCalls Crypto.toy ⟨[], 0, [], [1], 1000, [2]⟩ (.decryptLengthHeader x' :: cs) := by
  have h : (⟨[], 0, [], [1], 1000, [2]⟩ : Finished).decryptLengthHeader Crypto.toy
      (List.replicate 18 1) =
      .ok (.error (.disconnect "Bad MAC"), ⟨[], 0, [], [2, 1, 2, 1, 1, 2], 0, [2, 1, 1]⟩) := rfl
  exact ⟨h, ((failed_receive_noop Crypto.toy ⟨[], 0, [], [1], 1000, [2]⟩).2 _ _ _ h).2⟩

end PeerChannelEncryptor
end Lightning
