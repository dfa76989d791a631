import PeerChannelEncryptor.Bytes

/-!
# PeerChannelEncryptor.Channel

What two peers want from the transport once the handshake is done: a reliable channel each way
that hands over the messages in the order they were sent, each exactly once. This module states
that purpose as an abstract model, with no keys and no frames; `Session` refines it.

A `Channel` records what each side has sent and what it has read, and carries as fields that
each side has read a prefix of what the other sent. A send appends a message; a read hands over
the oldest message not yet read, if there is one (`deliver`).

* `deliver_append`, `deliver_take`: a read hands over the first pending message, if any;
* `Channel.run_reads`: `n` reads in a row hand over exactly the next `n` messages, or all of
  them if fewer are pending; `Channel.run_reads_swap` gives the same for the initiator.
-/

namespace Lightning
namespace PeerChannelEncryptor

/-- The two peers. -/
inductive Side where
  | initiator
  | responder
  deriving DecidableEq, Repr

/-- What one side does next. -/
inductive Event where
  | send (side : Side) (msg : Bytes)
  | read (side : Side)
  deriving DecidableEq, Repr

/-- `read` extended by the oldest message of `sent` it does not hold yet, if there is one. -/
def deliver (sent read : List Bytes) : List Bytes :=
  match sent.drop read.length with
  | [] => read
  | m :: _ => read ++ [m]

theorem deliver_append (read pending : List Bytes) :
    deliver (read ++ pending) read = read ++ pending.take 1 := by
  unfold deliver
  rw [List.drop_left]
  cases pending <;> simp

theorem deliver_take (sent : List Bytes) (k : Nat) :
    deliver sent (sent.take k) = sent.take (k + 1) := by
  have h := deliver_append (sent.take k) (sent.drop k)
  rwa [List.take_append_drop, ← List.take_add] at h

theorem deliver_prefix {sent read : List Bytes} (h : read <+: sent) : deliver sent read <+: sent := by
  rw [List.prefix_iff_eq_take.1 h, deliver_take]
  exact List.take_prefix _ _

/-- What each side has sent and read. Each side has read a prefix of what the other sent. -/
@[ext] structure Channel where
  sentByInitiator : List Bytes
  readByResponder : List Bytes
  sentByResponder : List Bytes
  readByInitiator : List Bytes
  responder_reads_sent : readByResponder <+: sentByInitiator
  initiator_reads_sent : readByInitiator <+: sentByResponder

/-- Nothing sent, nothing read. -/
def Channel.empty : Channel := ⟨[], [], [], [], List.nil_prefix, List.nil_prefix⟩

/-- The same channel with the roles exchanged. -/
def Channel.swap (c : Channel) : Channel :=
  ⟨c.sentByResponder, c.readByInitiator, c.sentByInitiator, c.readByResponder,
    c.initiator_reads_sent, c.responder_reads_sent⟩

/-- One event: a send appends the message to what its side has sent; a read hands over the
oldest message of the other side that this side has not read, if there is one. -/
def Channel.step (c : Channel) : Event → Channel
  | .send .initiator m =>
    { c with
      sentByInitiator := c.sentByInitiator ++ [m]
      responder_reads_sent := c.responder_reads_sent.trans (List.prefix_append _ _) }
  | .send .responder m =>
    { c with
      sentByResponder := c.sentByResponder ++ [m]
      initiator_reads_sent := c.initiator_reads_sent.trans (List.prefix_append _ _) }
  | .read .responder =>
    { c with
      readByResponder := deliver c.sentByInitiator c.readByResponder
      responder_reads_sent := deliver_prefix c.responder_reads_sent }
  | .read .initiator =>
    { c with
      readByInitiator := deliver c.sentByResponder c.readByInitiator
      initiator_reads_sent := deliver_prefix c.initiator_reads_sent }

/-- A schedule of events. -/
def Channel.run : Channel → List Event → Channel
  | c, [] => c
  | c, e :: es => (c.step e).run es

/-! ## Reads hand over the pending messages in order -/

theorem Channel.run_reads_of_take (n : Nat) :
    ∀ (c : Channel) (k : Nat), c.readByResponder = c.sentByInitiator.take k →
      (c.run (List.replicate n (.read .responder))).readByResponder =
        c.sentByInitiator.take (k + n) := by
  induction n with
  | zero => exact fun c k h => h
  | succ n ih =>
    intro c k h
    have hstep : (c.step (.read .responder)).readByResponder = c.sentByInitiator.take (k + 1) := by
      show deliver c.sentByInitiator c.readByResponder = _
      rw [h, deliver_take]
    rw [show k + (n + 1) = k + 1 + n by omega]
    exact ih (c.step (.read .responder)) (k + 1) hstep

/-- `n` reads in a row by the responder hand over exactly the next `n` messages the initiator
sent, or all of them if fewer are pending. -/
theorem Channel.run_reads (c : Channel) (n : Nat) :
    (c.run (List.replicate n (.read .responder))).readByResponder =
      c.sentByInitiator.take (c.readByResponder.length + n) :=
  Channel.run_reads_of_take n c _ (List.prefix_iff_eq_take.1 c.responder_reads_sent)

/-- The initiator's reads are the responder's on the swapped channel. -/
theorem Channel.run_reads_swap (c : Channel) (n : Nat) :
    c.run (List.replicate n (.read .initiator)) =
      (c.swap.run (List.replicate n (.read .responder))).swap := by
  induction n generalizing c with
  | zero => rfl
  | succ n ih => exact ih (c.step (.read .initiator))

end PeerChannelEncryptor
end Lightning
