import PeerChannelEncryptor.Agreement
import PeerChannelEncryptor.Channel
import PeerChannelEncryptor.Stream

/-!
# PeerChannelEncryptor.Session

Two peers after the handshake, joined by a FIFO link each way. At any time either side may seal
a message with `encrypt_message` and put the frame on its outgoing link, or read the oldest
frame of its incoming link as the peer handler does (`Finished.receiveFrame`). `Session.run`
follows any schedule of these events; a failed read ends it with the error the peer handler
disconnects on.

`Session.Inv` says, for each direction, that the frames in flight are the sender's pending
messages sealed in order from the receiver's receive direction, that sealing them ends at the
sender's send direction, and that what the receiver has read followed by the pending messages is
what the sender has sent. The responder's events are the initiator's on the swapped session
(`Session.swap`), so each lemma is proved once, for the initiator's direction.

* `Session.step_refines`: every event within `encrypt_message`'s bound succeeds, keeps `Inv`,
  and hands over what the same event hands over on the abstract `Channel`; `Session.run_refines`
  lifts it to whole schedules;
* `session_delivers`: from two peers whose send directions are each other's receive
  directions, every schedule runs without a panic or a failed read, and each side has read, in
  order, a prefix of what the other sent: all of it once its incoming link is empty;
* `handshake_then_session`: the same for two honest peers straight after the handshake, whose
  `Finished` states `handshake_establishes` provides;
* `session_refines_channel`: over any schedule, the messages the two peers have sent and read
  are those of the abstract channel after the same events;
* `session_reads_deliver`: each side has sent what the other has read plus one message per frame
  in flight (`Session.ForwardInv.sent_length`), and `n` reads in a row hand over exactly the next
  `n` messages in flight, all of them once `n` reaches the number of frames in flight.
-/

namespace Lightning
namespace PeerChannelEncryptor

variable {SecretKey PublicKey : Type} (C : Crypto SecretKey PublicKey)

/-! ## Sealing a sequence of messages -/

/-- The frames of `ms` sealed in turn from the direction `c`, and the direction after them. -/
def CipherState.sealAll : CipherState → List Bytes → List Bytes × CipherState
  | c, [] => ([], c)
  | c, m :: ms => ((c.seal C m).1 :: ((c.seal C m).2.sealAll ms).1, ((c.seal C m).2.sealAll ms).2)

theorem CipherState.sealAll_append (c : CipherState) (ms : List Bytes) (m : Bytes) :
    c.sealAll C (ms ++ [m]) =
      ((c.sealAll C ms).1 ++ [((c.sealAll C ms).2.seal C m).1], ((c.sealAll C ms).2.seal C m).2) := by
  induction ms generalizing c with
  | nil => rfl
  | cons m' ms ih => rw [List.cons_append, CipherState.sealAll, ih, CipherState.sealAll]; rfl

theorem CipherState.sealAll_length (c : CipherState) (ms : List Bytes) :
    (c.sealAll C ms).1.length = ms.length := by
  induction ms generalizing c with
  | nil => rfl
  | cons m ms ih => simp only [CipherState.sealAll, List.length_cons, ih]

/-! ## Sessions -/

/-- Two peers after the handshake, the frames in flight between them, oldest first, and the
messages each side has sent and read. -/
structure Session where
  initiator : Finished
  responder : Finished
  toResponder : List Bytes
  toInitiator : List Bytes
  sentByInitiator : List Bytes
  readByResponder : List Bytes
  sentByResponder : List Bytes
  readByInitiator : List Bytes

/-- The same session with the roles exchanged. -/
def Session.swap (σ : Session) : Session :=
  ⟨σ.responder, σ.initiator, σ.toInitiator, σ.toResponder, σ.sentByResponder, σ.readByInitiator,
    σ.sentByInitiator, σ.readByResponder⟩

@[simp] theorem Session.swap_swap (σ : Session) : σ.swap.swap = σ := rfl

/-- Straight after the handshake: nothing in flight, nothing sent or read. -/
def Session.start (initiator responder : Finished) : Session :=
  ⟨initiator, responder, [], [], [], [], [], []⟩

/-- The initiator seals `m` and puts the frame on its link. -/
def Session.initiatorSends (σ : Session) (m : Bytes) : Except Panic Session := do
  let (frame, s) ← σ.initiator.encryptMessage C m
  pure { σ with
    initiator := s
    toResponder := σ.toResponder ++ [frame]
    sentByInitiator := σ.sentByInitiator ++ [m] }

/-- The responder reads the oldest frame on its incoming link, if there is one. -/
def Session.responderReads (σ : Session) : Except Panic (Except HandleError Session) :=
  match σ.toResponder with
  | [] => .ok (.ok σ)
  | frame :: rest => do
    let (r, s) ← σ.responder.receiveFrame C frame
    pure (r.map fun p => { σ with
      responder := s
      toResponder := rest
      readByResponder := σ.readByResponder ++ [p.2] })

/-- One event; the responder's are the initiator's on the swapped session. -/
def Session.step (σ : Session) : Event → Except Panic (Except HandleError Session)
  | .send .initiator m => (.ok ·) <$> σ.initiatorSends C m
  | .send .responder m => (.ok ·.swap) <$> σ.swap.initiatorSends C m
  | .read .responder => σ.responderReads C
  | .read .initiator => (·.map Session.swap) <$> σ.swap.responderReads C

/-- A schedule of events, until a read fails. -/
def Session.run : Session → List Event → Except Panic (Except HandleError Session)
  | σ, [] => .ok (.ok σ)
  | σ, e :: es => do
    match ← σ.step C e with
    | .error err => pure (.error err)
    | .ok σ => σ.run es

/-- A sent message is within `encrypt_message`'s bound. -/
def Event.WithinBound : Event → Prop
  | .send _ m => m.length ≤ 65535
  | .read _ => True

instance (e : Event) : Decidable e.WithinBound :=
  match e with
  | .send _ m => inferInstanceAs (Decidable (m.length ≤ 65535))
  | .read _ => inferInstanceAs (Decidable True)

/-! ## The invariant -/

/-- The link to the responder is sound: the frames on it are the initiator's pending messages
sealed in order from the responder's receive direction, sealing them ends at the initiator's
send direction, and the responder has read what the initiator sent before them. -/
def Session.ForwardInv (σ : Session) : Prop :=
  ∃ pending : List Bytes, (∀ m ∈ pending, m.length ≤ 65535) ∧
    σ.sentByInitiator = σ.readByResponder ++ pending ∧
    σ.responder.recv.sealAll C pending = (σ.toResponder, σ.initiator.send)

/-- Both links are sound. -/
def Session.Inv (σ : Session) : Prop := σ.ForwardInv C ∧ σ.swap.ForwardInv C

theorem Session.inv_swap {σ : Session} : σ.swap.Inv C ↔ σ.Inv C := And.comm

theorem Session.start_inv {I R : Finished} (hIR : I.send = R.recv) (hRI : R.send = I.recv) :
    (Session.start I R).Inv C :=
  ⟨⟨[], by simp, rfl, by simp [CipherState.sealAll, Session.start, hIR]⟩,
    ⟨[], by simp, rfl, by simp [CipherState.sealAll, Session.start, Session.swap, hRI]⟩⟩

/-- The responder has read, in order, a prefix of what the initiator sent, and all of it once
its link is empty. -/
theorem Session.ForwardInv.read_prefix {σ : Session} (h : σ.ForwardInv C) :
    σ.readByResponder <+: σ.sentByInitiator ∧
      (σ.toResponder = [] → σ.readByResponder = σ.sentByInitiator) := by
  obtain ⟨pending, -, hsent, hseal⟩ := h
  refine ⟨⟨pending, hsent.symm⟩, fun hq => ?_⟩
  have hlen := CipherState.sealAll_length C σ.responder.recv pending
  rw [hseal, hq] at hlen
  rw [hsent, List.eq_nil_of_length_eq_zero hlen.symm, List.append_nil]

/-- The initiator has sent what the responder has read, and one more message per frame in
flight to the responder. -/
theorem Session.ForwardInv.sent_length {σ : Session} (h : σ.ForwardInv C) :
    σ.sentByInitiator.length = σ.readByResponder.length + σ.toResponder.length := by
  obtain ⟨pending, -, hsent, hseal⟩ := h
  rw [hsent, List.length_append, ← CipherState.sealAll_length C σ.responder.recv pending, hseal]

/-- Each side has read, in order, a prefix of what the other sent, and all of it once its
incoming link is empty. -/
theorem Session.Inv.read_prefix {σ : Session} (h : σ.Inv C) :
    σ.readByResponder <+: σ.sentByInitiator ∧
      (σ.toResponder = [] → σ.readByResponder = σ.sentByInitiator) ∧
      σ.readByInitiator <+: σ.sentByResponder ∧
      (σ.toInitiator = [] → σ.readByInitiator = σ.sentByResponder) :=
  ⟨(Session.ForwardInv.read_prefix C h.1).1, (Session.ForwardInv.read_prefix C h.1).2,
    Session.ForwardInv.read_prefix C h.2⟩

/-- What a sound session has handed over: the abstract channel of its sent and read messages. -/
def Session.toChannel (σ : Session) (h : σ.Inv C) : Channel :=
  ⟨σ.sentByInitiator, σ.readByResponder, σ.sentByResponder, σ.readByInitiator,
    (Session.Inv.read_prefix C h).1, (Session.Inv.read_prefix C h).2.2.1⟩

/-! ## Each event refines the abstract channel -/

section
variable {σ : Session}

theorem Session.initiatorSends_refines (hInv : σ.Inv C) {m : Bytes} (hm : m.length ≤ 65535) :
    ∃ σ', ∃ h' : σ'.Inv C, σ.initiatorSends C m = .ok σ' ∧
      σ'.toChannel C h' = (σ.toChannel C hInv).step (.send .initiator m) := by
  obtain ⟨⟨pending, hsize, hsent, hseal⟩, hback⟩ := id hInv
  refine ⟨_, ⟨⟨pending ++ [m], ?_, ?_, ?_⟩, ?_⟩,
    by rw [Session.initiatorSends, encryptMessage_seal C _ hm]; rfl, by rfl⟩
  · intro m' h'
    rcases List.mem_append.1 h' with h' | h'
    · exact hsize m' h'
    · rw [List.mem_singleton.1 h']; exact hm
  · simp [hsent]
  · simp [CipherState.sealAll_append, hseal]
  · simpa [Session.ForwardInv, Session.swap] using hback

theorem Session.responderReads_refines (hA : C.AeadInverts) (hInv : σ.Inv C) :
    ∃ σ', ∃ h' : σ'.Inv C, σ.responderReads C = .ok (.ok σ') ∧
      σ'.toChannel C h' = (σ.toChannel C hInv).step (.read .responder) := by
  obtain ⟨⟨pending, hsize, hsent, hseal⟩, hback⟩ := id hInv
  have hread : deliver σ.sentByInitiator σ.readByResponder = σ.readByResponder ++ pending.take 1 := by
    rw [hsent, deliver_append]
  unfold Session.responderReads
  cases pending with
  | nil =>
    rw [← (Prod.mk.inj hseal).1]
    exact ⟨σ, hInv, rfl, Channel.ext rfl
      (by show σ.readByResponder = deliver σ.sentByInitiator σ.readByResponder; simp [hread]) rfl rfl⟩
  | cons m ps =>
    obtain ⟨hq, hs⟩ := Prod.mk.inj hseal
    rw [← hq]
    have hm := hsize m (List.mem_cons_self m ps)
    refine ⟨_, ⟨⟨ps, ?_, ?_, ?_⟩, ?_⟩,
      by simp only [receiveFrame_seal C hA _ hm, except_ok_bind]; rfl, ?_⟩
    · exact fun m' h' => hsize m' (List.mem_cons_of_mem m h')
    · simp [hsent]
    · exact Prod.ext rfl hs
    · simpa [Session.ForwardInv, Session.swap] using hback
    · refine Channel.ext rfl ?_ rfl rfl
      show σ.readByResponder ++ [m] = deliver σ.sentByInitiator σ.readByResponder
      rw [hread]; rfl

/-- Every event within `encrypt_message`'s bound succeeds, keeps both links sound, and hands
over what the same event hands over on the abstract channel. -/
theorem Session.step_refines (hA : C.AeadInverts) (hInv : σ.Inv C) {e : Event}
    (he : e.WithinBound) :
    ∃ σ', ∃ h' : σ'.Inv C, σ.step C e = .ok (.ok σ') ∧
      σ'.toChannel C h' = (σ.toChannel C hInv).step e := by
  cases e with
  | send side m =>
    cases side with
    | initiator =>
      obtain ⟨σ', h', h, hch⟩ := Session.initiatorSends_refines C hInv he
      exact ⟨σ', h', by rw [Session.step, h]; rfl, hch⟩
    | responder =>
      obtain ⟨σ', h', h, hch⟩ := Session.initiatorSends_refines C ((Session.inv_swap C).2 hInv) he
      exact ⟨σ'.swap, (Session.inv_swap C).2 h', by rw [Session.step, h]; rfl,
        congrArg Channel.swap hch⟩
  | read side =>
    cases side with
    | responder => exact Session.responderReads_refines C hA hInv
    | initiator =>
      obtain ⟨σ', h', h, hch⟩ := Session.responderReads_refines C hA ((Session.inv_swap C).2 hInv)
      exact ⟨σ'.swap, (Session.inv_swap C).2 h', by rw [Session.step, h]; rfl,
        congrArg Channel.swap hch⟩

/-- A sound session follows every schedule within the bound, and hands over what the abstract
channel hands over on it. -/
theorem Session.run_refines (hA : C.AeadInverts) {es : List Event}
    (hes : ∀ e ∈ es, e.WithinBound) :
    ∀ (σ : Session) (h : σ.Inv C), ∃ σ', ∃ h' : σ'.Inv C, σ.run C es = .ok (.ok σ') ∧
      σ'.toChannel C h' = (σ.toChannel C h).run es := by
  induction es with
  | nil => exact fun σ h => ⟨σ, h, rfl, rfl⟩
  | cons e es ih =>
    intro σ hInv
    obtain ⟨σ₁, h₁, hstep, hch₁⟩ := Session.step_refines C hA hInv (hes e (List.mem_cons_self e es))
    obtain ⟨σ', h', hrun, hch⟩ := ih (fun e' h => hes e' (List.mem_cons_of_mem e h)) σ₁ h₁
    exact ⟨σ', h', by rw [Session.run, hstep]; exact hrun,
      hch.trans (congrArg (Channel.run · es) hch₁)⟩

end

/-! ## Delivery over any schedule -/

/-- Over any schedule of sends and reads on both sides, two peers whose send directions are
each other's receive directions never panic and never fail a read; each side has read, in
order, a prefix of what the other sent, and all of it once its incoming link is empty. -/
theorem session_delivers (hA : C.AeadInverts) {I R : Finished} (hIR : I.send = R.recv)
    (hRI : R.send = I.recv) {es : List Event} (hes : ∀ e ∈ es, e.WithinBound) :
    ∃ σ, (Session.start I R).run C es = .ok (.ok σ) ∧ σ.Inv C ∧
      σ.readByResponder <+: σ.sentByInitiator ∧
      (σ.toResponder = [] → σ.readByResponder = σ.sentByInitiator) ∧
      σ.readByInitiator <+: σ.sentByResponder ∧
      (σ.toInitiator = [] → σ.readByInitiator = σ.sentByResponder) := by
  obtain ⟨σ, hInv, hrun, -⟩ := Session.run_refines C hA hes _ (Session.start_inv C hIR hRI)
  exact ⟨σ, hrun, hInv, Session.Inv.read_prefix C hInv⟩

/-- `session_delivers` on the toy primitives: both sides send, and each reads while the other's
frames are still in flight. -/
theorem session_delivers_toy :
    Crypto.toy.AeadInverts ∧
    (⟨[1], 0, [2], [1], 0, [2]⟩ : Finished).send = (⟨[1], 0, [2], [1], 0, [2]⟩ : Finished).recv ∧
    (∀ e ∈ [Event.send .initiator [1, 2], .send .responder [3], .read .responder,
      .send .initiator [4], .read .initiator], e.WithinBound) ∧
    ∃ σ, (Session.start ⟨[1], 0, [2], [1], 0, [2]⟩ ⟨[1], 0, [2], [1], 0, [2]⟩).run Crypto.toy
        [.send .initiator [1, 2], .send .responder [3], .read .responder, .send .initiator [4],
          .read .initiator] = .ok (.ok σ) ∧ σ.Inv Crypto.toy ∧
      σ.readByResponder <+: σ.sentByInitiator ∧
      (σ.toResponder = [] → σ.readByResponder = σ.sentByInitiator) ∧
      σ.readByInitiator <+: σ.sentByResponder ∧
      (σ.toInitiator = [] → σ.readByInitiator = σ.sentByResponder) :=
  ⟨Crypto.toy_aeadInverts, rfl, by decide,
    session_delivers Crypto.toy Crypto.toy_aeadInverts (I := ⟨[1], 0, [2], [1], 0, [2]⟩)
      (R := ⟨[1], 0, [2], [1], 0, [2]⟩) rfl rfl (by decide)⟩

/-- Two honest peers complete the handshake and then exchange messages over any schedule of
sends and reads: nothing panics, no read fails, and each side reads, in order, a prefix of what
the other sent, all of it once its incoming link is empty. -/
theorem handshake_then_session (hE : C.EcdhCommutes) (hA : C.AeadInverts)
    (hP : C.ParseInverts) (sI eI sR eR : SecretKey) {es : List Event}
    (hes : ∀ e ∈ es, e.WithinBound) :
    ∃ st1 act1 st2 act2 fI act3 fR σ,
      getActOne C (newOutbound C (C.fromSecretKey sR) eI) = .ok (st1, act1) ∧
      (processActOneWithKeys C (newInbound C sR) act1 sR eR).run = .ok (.ok (st2, act2)) ∧
      (processActTwo C st1 act2 sI).run = .ok (.ok (fI, act3, C.fromSecretKey sR)) ∧
      (processActThree C st2 act3).run = .ok (.ok (fR, C.fromSecretKey sI)) ∧
      (Session.start fI fR).run C es = .ok (.ok σ) ∧
      σ.readByResponder <+: σ.sentByInitiator ∧
      (σ.toResponder = [] → σ.readByResponder = σ.sentByInitiator) ∧
      σ.readByInitiator <+: σ.sentByResponder ∧
      (σ.toInitiator = [] → σ.readByInitiator = σ.sentByResponder) := by
  obtain ⟨st1, act1, st2, act2, fI, act3, fR, h1, h2, h3, h4, hIR, hRI, -⟩ :=
    handshake_establishes C hE hA hP sI eI sR eR
  obtain ⟨σ, hInv, hrun, -⟩ := Session.run_refines C hA hes _ (Session.start_inv C hIR hRI)
  exact ⟨st1, act1, st2, act2, fI, act3, fR, σ, h1, h2, h3, h4, hrun,
    Session.Inv.read_prefix C hInv⟩

/-- `handshake_then_session` on the toy primitives with the keys of the BOLT 8 test vectors. -/
theorem handshake_then_session_toy :
    Crypto.toy.EcdhCommutes ∧ Crypto.toy.AeadInverts ∧ Crypto.toy.ParseInverts ∧
    (∀ e ∈ [Event.send .initiator [1, 2], .read .responder, .send .responder [3]],
      e.WithinBound) ∧
    ∃ st1 act1 st2 act2 fI act3 fR σ,
      getActOne Crypto.toy (newOutbound Crypto.toy (Crypto.toy.fromSecretKey 0x21) 0x12) =
        .ok (st1, act1) ∧
      (processActOneWithKeys Crypto.toy (newInbound Crypto.toy 0x21) act1 0x21 0x22).run =
        .ok (.ok (st2, act2)) ∧
      (processActTwo Crypto.toy st1 act2 0x11).run =
        .ok (.ok (fI, act3, Crypto.toy.fromSecretKey 0x21)) ∧
      (processActThree Crypto.toy st2 act3).run = .ok (.ok (fR, Crypto.toy.fromSecretKey 0x11)) ∧
      (Session.start fI fR).run Crypto.toy
          [.send .initiator [1, 2], .read .responder, .send .responder [3]] = .ok (.ok σ) ∧
      σ.readByResponder <+: σ.sentByInitiator ∧
      (σ.toResponder = [] → σ.readByResponder = σ.sentByInitiator) ∧
      σ.readByInitiator <+: σ.sentByResponder ∧
      (σ.toInitiator = [] → σ.readByInitiator = σ.sentByResponder) :=
  ⟨Crypto.toy_ecdhCommutes, Crypto.toy_aeadInverts, Crypto.toy_parseInverts, by decide,
    handshake_then_session Crypto.toy Crypto.toy_ecdhCommutes Crypto.toy_aeadInverts
      Crypto.toy_parseInverts 0x11 0x12 0x21 0x22 (by decide)⟩

/-! ## The session refines the abstract channel -/

/-- Over any schedule of sends and reads within `encrypt_message`'s bound, two peers whose send
directions are each other's receive directions hand over exactly what the abstract channel hands
over: the session runs without a panic or a failed read, stays sound, and its sent and read
messages are the channel's after the same events. -/
theorem session_refines_channel (hA : C.AeadInverts) {I R : Finished} (hIR : I.send = R.recv)
    (hRI : R.send = I.recv) {es : List Event} (hes : ∀ e ∈ es, e.WithinBound) :
    ∃ σ, ∃ h : σ.Inv C, (Session.start I R).run C es = .ok (.ok σ) ∧
      σ.toChannel C h = Channel.empty.run es :=
  Session.run_refines C hA hes _ (Session.start_inv C hIR hRI)

/-- `session_refines_channel` on the toy primitives: a read with nothing in flight hands over
nothing, the next hands over the one message sent, and a third again nothing. -/
theorem session_refines_channel_toy :
    Crypto.toy.AeadInverts ∧
    (⟨[1], 0, [2], [1], 0, [2]⟩ : Finished).send = (⟨[1], 0, [2], [1], 0, [2]⟩ : Finished).recv ∧
    (∀ e ∈ [Event.send .initiator [1, 2], .read .initiator, .read .responder, .read .responder],
      e.WithinBound) ∧
    ∃ σ, ∃ h : σ.Inv Crypto.toy,
      (Session.start ⟨[1], 0, [2], [1], 0, [2]⟩ ⟨[1], 0, [2], [1], 0, [2]⟩).run Crypto.toy
        [.send .initiator [1, 2], .read .initiator, .read .responder, .read .responder] =
          .ok (.ok σ) ∧
      σ.toChannel Crypto.toy h = Channel.empty.run
        [.send .initiator [1, 2], .read .initiator, .read .responder, .read .responder] :=
  ⟨Crypto.toy_aeadInverts, rfl, by decide,
    session_refines_channel Crypto.toy Crypto.toy_aeadInverts (I := ⟨[1], 0, [2], [1], 0, [2]⟩)
      (R := ⟨[1], 0, [2], [1], 0, [2]⟩) rfl rfl (by decide)⟩

/-- After any schedule, each side has sent what the other has read and one more message per
frame in flight to it, and `n` reads in a row by either side hand over exactly the next `n`
messages the other side sent: all of them once `n` is at least the number of frames in flight.
No message is lost, skipped or read twice. -/
theorem session_reads_deliver (hA : C.AeadInverts) {I R : Finished} (hIR : I.send = R.recv)
    (hRI : R.send = I.recv) {es : List Event} (hes : ∀ e ∈ es, e.WithinBound) (n : Nat) :
    ∃ σ σR σI, (Session.start I R).run C es = .ok (.ok σ) ∧
      σ.sentByInitiator.length = σ.readByResponder.length + σ.toResponder.length ∧
      σ.sentByResponder.length = σ.readByInitiator.length + σ.toInitiator.length ∧
      σ.run C (List.replicate n (.read .responder)) = .ok (.ok σR) ∧
      σR.readByResponder = σ.sentByInitiator.take (σ.readByResponder.length + n) ∧
      (σ.toResponder.length ≤ n → σR.readByResponder = σ.sentByInitiator) ∧
      σ.run C (List.replicate n (.read .initiator)) = .ok (.ok σI) ∧
      σI.readByInitiator = σ.sentByResponder.take (σ.readByInitiator.length + n) ∧
      (σ.toInitiator.length ≤ n → σI.readByInitiator = σ.sentByResponder) := by
  have hreads : ∀ side, ∀ e ∈ List.replicate n (Event.read side), e.WithinBound :=
    fun side e he => by rw [List.eq_of_mem_replicate he]; trivial
  obtain ⟨σ, h, hrun, -⟩ := Session.run_refines C hA hes _ (Session.start_inv C hIR hRI)
  obtain ⟨σR, hR, hrunR, hchR⟩ := Session.run_refines C hA (hreads .responder) σ h
  obtain ⟨σI, hI, hrunI, hchI⟩ := Session.run_refines C hA (hreads .initiator) σ h
  rw [Channel.run_reads_swap] at hchI
  have hfwd := Session.ForwardInv.sent_length C h.1
  have hback : σ.sentByResponder.length = σ.readByInitiator.length + σ.toInitiator.length :=
    Session.ForwardInv.sent_length C h.2
  have hreadR : σR.readByResponder = σ.sentByInitiator.take (σ.readByResponder.length + n) :=
    (congrArg Channel.readByResponder hchR).trans (Channel.run_reads _ n)
  have hreadI : σI.readByInitiator = σ.sentByResponder.take (σ.readByInitiator.length + n) :=
    (congrArg Channel.readByInitiator hchI).trans (Channel.run_reads _ n)
  exact ⟨σ, σR, σI, hrun, hfwd, hback, hrunR, hreadR,
    fun hn => hreadR.trans (List.take_of_length_le (by omega)), hrunI, hreadI,
    fun hn => hreadI.trans (List.take_of_length_le (by omega))⟩

/-- `session_reads_deliver` on the toy primitives: three messages one way and one the other;
two reads hand over the first two of the three, and the single message the other way. -/
theorem session_reads_deliver_toy :
    Crypto.toy.AeadInverts ∧
    (⟨[1], 0, [2], [1], 0, [2]⟩ : Finished).send = (⟨[1], 0, [2], [1], 0, [2]⟩ : Finished).recv ∧
    (∀ e ∈ [Event.send .initiator [1], .send .initiator [2], .send .initiator [3],
      .send .responder [4]], e.WithinBound) ∧
    ∃ σ σR σI,
      (Session.start ⟨[1], 0, [2], [1], 0, [2]⟩ ⟨[1], 0, [2], [1], 0, [2]⟩).run Crypto.toy
        [.send .initiator [1], .send .initiator [2], .send .initiator [3], .send .responder [4]] =
          .ok (.ok σ) ∧
      σ.sentByInitiator.length = σ.readByResponder.length + σ.toResponder.length ∧
      σ.sentByResponder.length = σ.readByInitiator.length + σ.toInitiator.length ∧
      σ.run Crypto.toy (List.replicate 2 (.read .responder)) = .ok (.ok σR) ∧
      σR.readByResponder = σ.sentByInitiator.take (σ.readByResponder.length + 2) ∧
      (σ.toResponder.length ≤ 2 → σR.readByResponder = σ.sentByInitiator) ∧
      σ.run Crypto.toy (List.replicate 2 (.read .initiator)) = .ok (.ok σI) ∧
      σI.readByInitiator = σ.sentByResponder.take (σ.readByInitiator.length + 2) ∧
      (σ.toInitiator.length ≤ 2 → σI.readByInitiator = σ.sentByResponder) :=
  ⟨Crypto.toy_aeadInverts, rfl, by decide,
    session_reads_deliver Crypto.toy Crypto.toy_aeadInverts (I := ⟨[1], 0, [2], [1], 0, [2]⟩)
      (R := ⟨[1], 0, [2], [1], 0, [2]⟩) rfl rfl (by decide) 2⟩

end PeerChannelEncryptor
end Lightning
