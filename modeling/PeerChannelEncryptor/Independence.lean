import PeerChannelEncryptor.Transport

/-!
# PeerChannelEncryptor.Independence

The send and the receive direction of a `Finished` encryptor do not interact. `encrypt_message`
neither reads nor writes `(rk, rn, rck)` (`encryptMessage_setRecv`), and `decrypt_length_header`
and `decrypt_message` neither read nor write `(sk, sn, sck)` (`decryptLengthHeader_setSend`,
`decryptMessage_setSend`). These frame properties are stated once as `LeavesRecv` and
`LeavesSend`; from them:

* `commute_of_leaves`: a call that leaves the receive direction commutes with one that leaves the
  send direction, whatever either returns; the two orders panic together, and otherwise give the
  same outputs and the same final state;
* `runCalls_split`: on any interleaving of calls, the frames are those of the sends run alone,
  the receive results those of the receives run alone, and the final state takes its send
  direction from the first and its receive direction from the second.

Panics are compared only as such: when both calls panic, the two orders report the panic of
whichever call ran first.
-/

namespace Lightning
namespace PeerChannelEncryptor

variable {SecretKey PublicKey : Type} (C : Crypto SecretKey PublicKey)

/-! ## Frame properties -/

/-- `f` neither reads nor writes the receive direction. -/
def LeavesRecv {α : Type} (f : Finished → Except Panic (α × Finished)) : Prop :=
  ∀ s d, f (s.setRecv d) = (fun p => (p.1, p.2.setRecv d)) <$> f s

/-- `f` neither reads nor writes the send direction. -/
def LeavesSend {α : Type} (f : Finished → Except Panic (α × Finished)) : Prop :=
  ∀ s c, f (s.setSend c) = (fun p => (p.1, p.2.setSend c)) <$> f s

theorem encryptMessage_setRecv (m : Bytes) : LeavesRecv (·.encryptMessage C m) := by
  intro s d
  simp only [Finished.encryptMessage, Finished.send_setRecv, map_bind, apply_ite, map_pure]
  split <;> rfl

theorem decryptLengthHeader_setSend (x : Bytes) : LeavesSend (·.decryptLengthHeader C x) := by
  intro s c
  simp only [Finished.decryptLengthHeader, Finished.recv_setSend, map_bind]
  congr 1; funext u; congr 1; funext r
  cases r <;> (simp only [map_bind, map_pure]; rfl)

theorem decryptMessage_setSend (y : Bytes) : LeavesSend (·.decryptMessage C y) := by
  intro s c
  unfold Finished.decryptMessage
  split
  · rfl
  · simp only [map_bind]
    congr 1; funext u; congr 1; funext n; congr 1; funext r
    cases r <;> simp only [map_bind, map_pure]
    rfl

section
variable {α β : Type} {f : Finished → Except Panic (α × Finished)}
  {g : Finished → Except Panic (β × Finished)}

/-- A call that leaves the receive direction returns a state with the caller's receive
direction. -/
theorem LeavesRecv.eq_setSend (hf : LeavesRecv f) {s s' : Finished} {a : α}
    (h : f s = .ok (a, s')) : s' = s.setSend s'.send := by
  have := hf s s.recv
  rw [Finished.setRecv_recv, h, except_map_ok, Except.ok.injEq, Prod.mk.injEq] at this
  exact this.2

theorem LeavesSend.eq_setRecv (hg : LeavesSend g) {s s' : Finished} {b : β}
    (h : g s = .ok (b, s')) : s' = s.setRecv s'.recv := by
  have := hg s s.send
  rw [Finished.setSend_send, h, except_map_ok, Except.ok.injEq, Prod.mk.injEq] at this
  exact this.2

/-- Two calls on different directions commute. -/
theorem commute_of_leaves (hf : LeavesRecv f) (hg : LeavesSend g) (s : Finished) :
    (do let (a, s) ← f s; let (b, s) ← g s; pure ((a, b), s)).toOption =
      (do let (b, s) ← g s; let (a, s) ← f s; pure ((a, b), s)).toOption := by
  cases hF : f s with
  | error e =>
    cases hG : g s with
    | error e' => rfl
    | ok q =>
      obtain ⟨b, s2⟩ := q
      obtain ⟨d, rfl⟩ : ∃ d, s2 = s.setRecv d := ⟨_, hg.eq_setRecv hG⟩
      simp [hf s, hF]
  | ok p =>
    obtain ⟨a, s1⟩ := p
    obtain ⟨c, rfl⟩ : ∃ c, s1 = s.setSend c := ⟨_, hf.eq_setSend hF⟩
    cases hG : g s with
    | error e' => simp [hg s, hG]
    | ok q =>
      obtain ⟨b, s2⟩ := q
      obtain ⟨d, rfl⟩ : ∃ d, s2 = s.setRecv d := ⟨_, hg.eq_setRecv hG⟩
      simp [hf s, hg s, hF, hG, Finished.setSend_setRecv]

end

/-! ## Interleavings -/

/-- A call on a `Finished` encryptor, with its input. -/
inductive Call where
  | encryptMessage (msg : Bytes)
  | decryptLengthHeader (msg : Bytes)
  | decryptMessage (msg : Bytes)

/-- What a call returns. -/
inductive Output where
  | frame (res : Bytes)
  | length (res : Except HandleError UInt16)
  | payload (res : Except HandleError Bytes)

/-- The calls of the send direction. -/
def Call.isSend : Call → Bool
  | .encryptMessage _ => true
  | _ => false

/-- The outputs of the send direction. -/
def Output.isFrame : Output → Bool
  | .frame _ => true
  | _ => false

/-- One call. -/
def Finished.call (s : Finished) : Call → Except Panic (Output × Finished)
  | .encryptMessage m => (fun p => (.frame p.1, p.2)) <$> s.encryptMessage C m
  | .decryptLengthHeader x => (fun p => (.length p.1, p.2)) <$> s.decryptLengthHeader C x
  | .decryptMessage y => (fun p => (.payload p.1, p.2)) <$> s.decryptMessage C y

/-- Calls in turn on one encryptor, collecting their outputs. -/
def Finished.runCalls : Finished → List Call → Except Panic (List Output × Finished)
  | s, [] => .ok ([], s)
  | s, c :: cs => do
    let (o, s) ← s.call C c
    let (os, s) ← runCalls s cs
    pure (o :: os, s)

@[simp] theorem except_toOption_error {ε α : Type} (e : ε) :
    (Except.error e : Except ε α).toOption = none := rfl

@[simp] theorem except_toOption_ok {ε α : Type} (a : α) :
    (Except.ok a : Except ε α).toOption = some a := rfl

theorem except_map_eq_ok {ε α β : Type} {f : α → β} {x : Except ε α} {b : β}
    (h : f <$> x = .ok b) : ∃ a, x = .ok a ∧ f a = b := by
  cases x with
  | error e => cases h
  | ok a => exact ⟨a, rfl, by cases h; rfl⟩

theorem call_leavesRecv {c : Call} (hc : c.isSend = true) : LeavesRecv (·.call C c) := by
  intro s d
  cases c with
  | encryptMessage m =>
    simp only [Finished.call, encryptMessage_setRecv C m s d]
    cases s.encryptMessage C m <;> rfl
  | _ => cases hc

theorem call_leavesSend {c : Call} (hc : c.isSend = false) : LeavesSend (·.call C c) := by
  intro s e
  cases c with
  | encryptMessage m => cases hc
  | decryptLengthHeader x =>
    simp only [Finished.call, decryptLengthHeader_setSend C x s e]
    cases s.decryptLengthHeader C x <;> rfl
  | decryptMessage y =>
    simp only [Finished.call, decryptMessage_setSend C y s e]
    cases s.decryptMessage C y <;> rfl

theorem call_isFrame {s s' : Finished} {c : Call} {o : Output} (h : s.call C c = .ok (o, s')) :
    o.isFrame = c.isSend := by
  cases c <;> obtain ⟨p, -, hp⟩ := except_map_eq_ok h <;> cases hp <;> rfl

/-- A run of calls each of which commutes with `set · x` commutes with it as a whole. -/
theorem runCalls_set_comm {X : Type} (set : Finished → X → Finished) (cs : List Call)
    (hcs : ∀ c ∈ cs, ∀ s x, (set s x).call C c = (fun p => (p.1, set p.2 x)) <$> s.call C c) :
    ∀ s x, (set s x).runCalls C cs = (fun p => (p.1, set p.2 x)) <$> s.runCalls C cs := by
  induction cs with
  | nil => intro s x; rfl
  | cons c cs ih =>
    intro s x
    simp only [Finished.runCalls, hcs c (List.mem_cons_self _ _) s x]
    cases s.call C c with
    | error e => rfl
    | ok p =>
      simp only [except_map_ok, except_ok_bind, ih (fun c h => hcs c (List.mem_cons_of_mem _ h)) p.2 x]
      cases Finished.runCalls C p.2 cs <;> rfl

theorem runCalls_leavesRecv (cs : List Call) (hcs : ∀ c ∈ cs, c.isSend = true) :
    LeavesRecv (·.runCalls C cs) :=
  runCalls_set_comm C Finished.setRecv cs fun c h => call_leavesRecv C (hcs c h)

theorem runCalls_leavesSend (cs : List Call) (hcs : ∀ c ∈ cs, c.isSend = false) :
    LeavesSend (·.runCalls C cs) :=
  runCalls_set_comm C Finished.setSend cs fun c h => call_leavesSend C (hcs c h)

/-- On any interleaving of calls, the frames are those of the sends run alone, the receive
results those of the receives run alone, and the final state takes its send direction from the
first and its receive direction from the second; one panics exactly when the other does. -/
theorem runCalls_split (cs : List Call) (s : Finished) :
    (s.runCalls C cs).toOption.map
        (fun r => (r.1.filter Output.isFrame, r.1.filter (!·.isFrame), r.2)) =
      (do
        let (frames, s1) ← (s.runCalls C (cs.filter Call.isSend)).toOption
        let (received, s2) ← (s.runCalls C (cs.filter (!·.isSend))).toOption
        pure (frames, received, (s.setSend s1.send).setRecv s2.recv)) := by
  induction cs generalizing s with
  | nil => rfl
  | cons c cs ih =>
    cases hC : s.call C c with
    | error e =>
      cases hc : c.isSend
      · cases s.runCalls C (cs.filter Call.isSend) <;> simp [Finished.runCalls, hC, hc]
      · simp [Finished.runCalls, hC, hc]
    | ok p =>
      obtain ⟨o, s1⟩ := p
      cases hc : c.isSend
      · obtain ⟨d, rfl⟩ : ∃ d, s1 = s.setRecv d := ⟨_, (call_leavesSend C hc).eq_setRecv hC⟩
        have ho : o.isFrame = false := (call_isFrame C hC).trans hc
        have hS := runCalls_leavesRecv C (cs.filter Call.isSend) (by simp) s d
        have := ih (s.setRecv d)
        simp only [hS] at this
        simp only [Finished.runCalls, hC, except_ok_bind, List.filter_cons, hc, Bool.not_false,
          Bool.false_eq_true, ite_false, ite_true]
        revert this
        cases (s.setRecv d).runCalls C cs <;> cases s.runCalls C (cs.filter Call.isSend) <;>
          cases (s.setRecv d).runCalls C (cs.filter (!·.isSend)) <;>
          simp [ho, ← Finished.setSend_setRecv]
      · obtain ⟨e, rfl⟩ : ∃ e, s1 = s.setSend e := ⟨_, (call_leavesRecv C hc).eq_setSend hC⟩
        have ho : o.isFrame = true := (call_isFrame C hC).trans hc
        have hR := runCalls_leavesSend C (cs.filter (!·.isSend)) (by simp) s e
        have := ih (s.setSend e)
        simp only [hR] at this
        simp only [Finished.runCalls, hC, except_ok_bind, List.filter_cons, hc, Bool.not_true,
          Bool.false_eq_true, ite_false, ite_true]
        revert this
        cases (s.setSend e).runCalls C cs <;> cases s.runCalls C (cs.filter (!·.isSend)) <;>
          cases (s.setSend e).runCalls C (cs.filter Call.isSend) <;>
          simp [ho, ← Finished.setSend_setRecv]

/-- The two directions of an encryptor are independent. `encrypt_message` commutes with each
receive call, whatever either returns; it keeps `(rk, rn, rck)` and the receive calls keep
`(sk, sn, sck)`; and on any interleaving of calls the frames depend only on the sent plaintexts
and the receive results only on the received inputs. -/
theorem directions_independent (s : Finished) (m x y : Bytes) :
    (do
      let (f, s) ← s.encryptMessage C m
      let (r, s) ← s.decryptLengthHeader C x
      pure ((f, r), s)).toOption =
    (do
      let (r, s) ← s.decryptLengthHeader C x
      let (f, s) ← s.encryptMessage C m
      pure ((f, r), s)).toOption ∧
    (do
      let (f, s) ← s.encryptMessage C m
      let (r, s) ← s.decryptMessage C y
      pure ((f, r), s)).toOption =
    (do
      let (r, s) ← s.decryptMessage C y
      let (f, s) ← s.encryptMessage C m
      pure ((f, r), s)).toOption ∧
    (∀ f s', s.encryptMessage C m = .ok (f, s') → s'.recv = s.recv) ∧
    (∀ r s', s.decryptLengthHeader C x = .ok (r, s') → s'.send = s.send) ∧
    (∀ r s', s.decryptMessage C y = .ok (r, s') → s'.send = s.send) ∧
    ∀ cs : List Call,
      (s.runCalls C cs).toOption.map
          (fun r => (r.1.filter Output.isFrame, r.1.filter (!·.isFrame), r.2)) =
        (do
          let (frames, s1) ← (s.runCalls C (cs.filter Call.isSend)).toOption
          let (received, s2) ← (s.runCalls C (cs.filter (!·.isSend))).toOption
          pure (frames, received, (s.setSend s1.send).setRecv s2.recv)) :=
  ⟨commute_of_leaves (encryptMessage_setRecv C m) (decryptLengthHeader_setSend C x) s,
    commute_of_leaves (encryptMessage_setRecv C m) (decryptMessage_setSend C y) s,
    fun _ _ h => (congrArg Finished.recv ((encryptMessage_setRecv C m).eq_setSend h)).trans rfl,
    fun _ _ h => (congrArg Finished.send ((decryptLengthHeader_setSend C x).eq_setRecv h)).trans rfl,
    fun _ _ h => (congrArg Finished.send ((decryptMessage_setSend C y).eq_setRecv h)).trans rfl,
    fun cs => runCalls_split C cs s⟩

end PeerChannelEncryptor
end Lightning
