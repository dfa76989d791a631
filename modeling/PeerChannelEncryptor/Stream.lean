import PeerChannelEncryptor.Transport

/-!
# PeerChannelEncryptor.Stream

One direction of a transport session as the peer handler drives it. The sender seals each
message with `encrypt_message`; the receiver reads the first 18 bytes of the frame with
`decrypt_length_header`, then the `L + 16` bytes after them with `decrypt_message`, where `L` is
the length the header gave.

`CipherState.seal` is the frame a direction emits for a message and the direction after it;
`encryptMessage_seal` says that `encrypt_message` emits it, and `receiveFrame_seal` that a peer
whose receive direction is that state reads the message back.

`transmit` runs this for a list of messages and records, for each one, the frame on the wire,
what the receiver read and both endpoints afterwards. A receive error ends the exchange (the
peer handler disconnects). The main result:

* `transmit_delivers`: if the sender's send direction equals the receiver's receive direction,
  every message of at most 65535 bytes is read back exactly, in order, from a frame of
  `18 + L + 16` bytes, and the two directions are equal again after each message, across any
  number of key rotations and from any counter value.
-/

namespace Lightning
namespace PeerChannelEncryptor

variable {SecretKey PublicKey : Type} (C : Crypto SecretKey PublicKey)

/-- The receiving end of one frame: `decrypt_length_header(frame[0..18])`, then
`decrypt_message(frame[18..18 + L + 16])` with the length `L` the header gave. -/
def Finished.receiveFrame (s : Finished) (frame : Bytes) :
    Except Panic (Except HandleError (UInt16 × Bytes) × Finished) := do
  let (len, s) ← s.decryptLengthHeader C (← slice frame 0 18)
  match len with
  | .error e => pure (.error e, s)
  | .ok L =>
    let (msg, s) ← s.decryptMessage C (← slice frame 18 (18 + L.toNat + 16))
    pure (msg.map (L, ·), s)

/-- One message through the channel: the frame, what the receiver read, and both endpoints
after it. -/
structure Delivery where
  frame : Bytes
  received : Except HandleError (UInt16 × Bytes)
  sender : Finished
  receiver : Finished

/-- The sender seals each message in turn and the receiver reads each frame as it arrives,
until a read fails. -/
def transmit : Finished → Finished → List Bytes → Except Panic (List Delivery)
  | _, _, [] => .ok []
  | S, R, m :: ms => do
    let (frame, S) ← S.encryptMessage C m
    let (received, R) ← R.receiveFrame C frame
    let rest ← match received with
      | .ok _ => transmit S R ms
      | .error _ => pure []
    pure (⟨frame, received, S, R⟩ :: rest)

theorem uint16_toNat_ofNat {n : Nat} (h : n ≤ 65535) : (UInt16.ofNat n).toNat = n := by
  simp [UInt16.toNat, UInt16.ofNat]; omega

/-- The frame a direction in state `c` seals `m` into, and the direction after it: the
rotation due, the length header under the counter, the payload under the next one. -/
def CipherState.seal (c : CipherState) (m : Bytes) : Bytes × CipherState :=
  let c := c.rotate C
  (Bolt8.encryptWithAd C c.n c.k [] (be16ToArray (UInt16.ofNat m.length)) ++
      Bolt8.encryptWithAd C (c.n + 1) c.k [] m, ⟨c.k, c.n + 2, c.ck⟩)

theorem encryptMessage_seal (s : Finished) {m : Bytes} (hm : m.length ≤ 65535) :
    s.encryptMessage C m = .ok ((s.send.seal C m).1, s.setSend (s.send.seal C m).2) :=
  encryptMessage_ok C s hm

theorem seal_length (c : CipherState) (m : Bytes) :
    (c.seal C m).1.length = 18 + m.length + 16 := by
  simp [CipherState.seal, Bolt8.encryptWithAd_length]
  omega

/-- A frame sealed under the receiver's own receive direction is read back whole, and the
receive direction moves on as the sender's send direction did. -/
theorem receiveFrame_seal (hA : C.AeadInverts) (s : Finished) {m : Bytes}
    (hm : m.length ≤ 65535) :
    s.receiveFrame C (s.recv.seal C m).1 =
      .ok (.ok (UInt16.ofNat m.length, m), s.setRecv (s.recv.seal C m).2) := by
  have hn := CipherState.rotate_n_lt C s.recv
  set c := s.recv.rotate C with hc
  have hn1 : (c.n + 1).toNat + 1 < UInt64.size := by
    rw [u64_toNat_add_one (by simp [UInt64.size] at hn ⊢; omega)]
    simp [UInt64.size] at hn ⊢; omega
  set hdr := Bolt8.encryptWithAd C c.n c.k [] (be16ToArray (UInt16.ofNat m.length)) with hhdr
  set body := Bolt8.encryptWithAd C (c.n + 1) c.k [] m with hbody
  have h1 : hdr.length = 18 := by simp [hhdr, Bolt8.encryptWithAd_length]
  have h2 : body.length = m.length + 16 := by simp [hbody, Bolt8.encryptWithAd_length]
  have hL := uint16_toNat_ofNat hm
  have hhdr' : slice (hdr ++ body) 0 18 = .ok hdr := by
    rw [slice_ok (by omega) (by simp [h1])]; simp [List.take_left' h1]
  have hbody' : slice (hdr ++ body) 18 (18 + (UInt16.ofNat m.length).toNat + 16) = .ok body := by
    rw [slice_ok (by omega) (by simp [h1, h2, hL]; omega), List.drop_left' h1, hL,
      show 18 + m.length + 16 - 18 = body.length by omega, List.take_length]
  show s.receiveFrame C (hdr ++ body) = _
  simp only [Finished.receiveFrame, hhdr', hbody', except_ok_bind, decryptLengthHeader_eq C s h1,
    ← hc, hhdr, Bolt8.decryptWithAd_encryptWithAd C hA, sliceToBe16_be16ToArray]
  rw [decryptMessage_eq C _ (by omega) (by omega)]
  simp only [Finished.setRecv_rn, Finished.setRecv_rk, hbody,
    Bolt8.decryptWithAd_encryptWithAd C hA, u64Incr_ok hn1, u64_add_one_add_one]
  rfl

/-- Every message of a stream is read back exactly, in order, from a frame of `18 + L + 16`
bytes, when the sender's send direction starts equal to the receiver's receive direction. -/
theorem transmit_delivers (hA : C.AeadInverts) {S R : Finished} (hSR : S.send = R.recv)
    {ms : List Bytes} (hms : ∀ m ∈ ms, m.length ≤ 65535) :
    ∃ ds, transmit C S R ms = .ok ds ∧
      List.Forall₂ (fun d m => ∃ L : UInt16, L.toNat = m.length ∧
        d.frame.length = 18 + L.toNat + 16 ∧ d.received = .ok (L, m) ∧
        d.sender.send = d.receiver.recv) ds ms := by
  induction ms generalizing S R with
  | nil => exact ⟨[], rfl, .nil⟩
  | cons m ms ih =>
    have hm := hms m (List.mem_cons_self m ms)
    have hL := uint16_toNat_ofNat hm
    obtain ⟨ds, hrun, hds⟩ := ih (S := S.setSend (S.send.seal C m).2)
      (R := R.setRecv (S.send.seal C m).2) (by simp)
      fun m' h => hms m' (List.mem_cons_of_mem m h)
    have hrecv := receiveFrame_seal C hA R hm
    rw [← hSR] at hrecv
    refine ⟨⟨(S.send.seal C m).1, .ok (UInt16.ofNat m.length, m), S.setSend (S.send.seal C m).2,
      R.setRecv (S.send.seal C m).2⟩ :: ds, ?_,
      .cons ⟨_, hL, by rw [hL, seal_length], rfl, by simp⟩ hds⟩
    simp only [transmit, encryptMessage_seal C S hm, except_ok_bind, hrecv, hrun]
    rfl

/-- `transmit_delivers` on the toy primitives, across a key rotation: both counters start at
999, so the second message is sealed and read under the next key. -/
theorem transmit_delivers_toy :
    (⟨[1], 999, [2], [1], 999, [2]⟩ : Finished).send = (⟨[1], 999, [2], [1], 999, [2]⟩ : Finished).recv ∧
    (∀ m ∈ [[1, 2, 3], [4]], List.length (m : Bytes) ≤ 65535) ∧
    ∃ ds, transmit Crypto.toy ⟨[1], 999, [2], [1], 999, [2]⟩ ⟨[1], 999, [2], [1], 999, [2]⟩
        [[1, 2, 3], [4]] = .ok ds ∧
      List.Forall₂ (fun d m => ∃ L : UInt16, L.toNat = m.length ∧
        d.frame.length = 18 + L.toNat + 16 ∧ d.received = .ok (L, m) ∧
        d.sender.send = d.receiver.recv) ds [[1, 2, 3], [4]] :=
  ⟨rfl, by decide, transmit_delivers Crypto.toy Crypto.toy_aeadInverts
    (S := ⟨[1], 999, [2], [1], 999, [2]⟩) (R := ⟨[1], 999, [2], [1], 999, [2]⟩) rfl (by decide)⟩

end PeerChannelEncryptor
end Lightning
