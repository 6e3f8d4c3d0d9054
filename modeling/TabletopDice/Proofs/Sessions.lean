import TabletopDice.Proofs.Rollers
import TabletopDice.Session

/-! # Sessions with recorded values

A session with recorded values neither loses a value nor gives one twice.  What a
step is answered depends on the remaining values alone (`step_recorded`), and the
values that a step takes are the first of them.  So the values that the answers
show, in the order of the steps, and those that remain make up the values of the
start, as long as no step runs out (`ledger_run`); and what takes no value might
as well be left out (`run_filter_takes`).
-/
namespace TabletopDice
namespace Session

/-! ## Runs -/

section Runs
variable {σ : Type} [Roller σ]

theorem run_cons (s : σ) (x : Step) (steps : List Step) :
    run s (x :: steps) =
      ((step s x).1 :: (run (step s x).2 steps).1, (run (step s x).2 steps).2) := rfl

/-- The answers to some steps do not depend on the steps behind them. -/
theorem run_append (s : σ) (before after : List Step) :
    run s (before ++ after) =
      ((run s before).1 ++ (run (run s before).2 after).1, (run (run s before).2 after).2) := by
  induction before generalizing s with
  | nil => rfl
  | cons x before ih =>
    rw [List.cons_append, run_cons, ih, run_cons]
    rfl

theorem step_die_of_some {sides val : UInt16} {s s' : σ}
    (h : Roller.rollDie sides s = (some val, s')) : step s (.die sides) = (.die { val }, s') := by
  simp only [step, h]

theorem fill_of_error {order : Order} {rejection : Rejection} (h : order.dice = .error rejection)
    (s : σ) : fill order s = (.rejected rejection, s) := by
  simp only [fill, h]

theorem fill_of_roll {order : Order} {d : Dice} {r : Roll} {s s' : σ} (h : order.dice = .ok d)
    (hroll : Roller.roll d s = (some r, s')) : fill order s = (.roll r, s') := by
  simp only [fill, h, hroll]

end Runs

/-! ## The accounts of a session -/

/-- The values that a step has taken from the roller, as its answer shows them.  A rehearsal takes
its values from a copy. -/
def taken : Step → Answer → List UInt16
  | .die _, .die die => [die.val]
  | .roll _, .roll roll => roll.vals
  | _, _ => []

/-- The step wanted more values than the roller had.  A rehearsal may want more than there are and
leave the roller as it is. -/
def RanOut : Step → Answer → Prop
  | .die _, .exhausted | .roll _, .exhausted => True
  | _, _ => False

/-- The account of some steps from the values at the start to those that are left. -/
structure Ledger (vals : List UInt16) (steps : List Step) (answers : List Answer)
    (left : List UInt16) : Prop where
  /-- The values that were taken, in the order of the steps, and those that are left begin the
  values of the start. -/
  inOrder : (List.zipWith taken steps answers).flatten ++ left <+: vals
  /-- If no step ran out, they are all there was at the start. -/
  complete : (∀ p ∈ steps.zip answers, ¬RanOut p.1 p.2) →
    (List.zipWith taken steps answers).flatten ++ left = vals
  /-- If a step ran out, nothing is left. -/
  usedUp : (∃ p ∈ steps.zip answers, RanOut p.1 p.2) → left = []

/-- What a step is answered while certain values are left.  It runs out iff it wants more than
these; otherwise it gets the first of them. -/
def AnsweredFrom (left : List UInt16) : Step → Answer → Prop
  | .die _, a => (a = .exhausted ↔ left = []) ∧ ∀ val ∈ left.head?, a = .die { val }
  | .roll order, a | .rehearse order, a =>
    (∀ r, order.dice = .error r → a = .rejected r) ∧
      ∀ d, order.dice = .ok d → (a = .exhausted ↔ left.length < d.count.toNat) ∧
        (d.count.toNat ≤ left.length → a = .roll (Roll.ofValues d (left.take d.count.toNat)))
  | .ask, a => ∃ yes, a = .canRoll yes ∧ (yes = true ↔ left ≠ [])

/-- What a step is answered once the values have run out: only a roll of no dice comes about. -/
def AnsweredAtEnd : Step → Answer → Prop
  | .die _, a => a = .exhausted
  | .roll order, a | .rehearse order, a =>
    ∀ d, order.dice = .ok d →
      if d.count = 0 then a = .roll (Roll.ofValues d []) else a = .exhausted
  | .ask, a => a = .canRoll false

/-- The step may take values from the roller: it rolls a die, or dice that are accepted. -/
def takes : Step → Bool
  | .die _ => true
  | .roll order => order.dice.isOk
  | .rehearse _ | .ask => false

/-! ## One step -/

/-- How many values an order wants. -/
def orderDemand (order : Order) : Nat :=
  match order.dice with
  | .error _ => 0
  | .ok d => d.count.toNat

/-- How many values a step wants from the roller. -/
def demand : Step → Nat
  | .die _ => 1
  | .roll order => orderDemand order
  | .rehearse _ | .ask => 0

/-- The answer to an order by the values that are left. -/
def fillFrom (left : List UInt16) (order : Order) : Answer :=
  match order.dice with
  | .error rejection => .rejected rejection
  | .ok d =>
    if left.length < d.count.toNat then .exhausted
    else .roll (Roll.ofValues d (left.take d.count.toNat))

/-- The answer to a step by the values that are left. -/
def reply (left : List UInt16) : Step → Answer
  | .die _ =>
    match left with
    | [] => .exhausted
    | val :: _ => .die { val }
  | .roll order | .rehearse order => fillFrom left order
  | .ask => .canRoll (!left.isEmpty)

theorem fill_recorded (order : Order) (s : Recorded) :
    (fill order s).1 = fillFrom s.remaining order ∧
      (fill order s).2.remaining = s.remaining.drop (orderDemand order) := by
  unfold fill fillFrom orderDemand
  cases order.dice with
  | error rejection => exact ⟨rfl, rfl⟩
  | ok d =>
    obtain ⟨hvals, hleft⟩ := s.rollValues_eq d.sides d.count.toNat
    simp only [Roller.roll_eq, hvals]
    by_cases hshort : s.remaining.length < d.count.toNat
    · simp only [if_pos hshort]
      exact ⟨rfl, hleft⟩
    · simp only [if_neg hshort]
      exact ⟨rfl, hleft⟩

/-- The remaining values decide the answer to a step, and lose those that the step wants. -/
theorem step_recorded (s : Recorded) (x : Step) :
    (step s x).1 = reply s.remaining x ∧
      (step s x).2.remaining = s.remaining.drop (demand x) := by
  cases x with
  | die sides =>
    obtain ⟨hhead, htail⟩ := s.take_eq
    rcases hs : s.take with ⟨first, s'⟩
    rw [hs] at hhead htail
    have hdie : Roller.rollDie sides s = (first, s') := hs
    cases hleft : s.remaining with
    | nil =>
      rw [hleft] at hhead htail
      cases hhead
      simp only [step, hdie]
      exact ⟨rfl, htail⟩
    | cons val rest =>
      rw [hleft] at hhead htail
      cases hhead
      simp only [step, hdie]
      exact ⟨rfl, htail⟩
  | roll order => exact fill_recorded order s
  | rehearse order => exact ⟨(fill_recorded order s).1, rfl⟩
  | ask => exact ⟨congrArg Answer.canRoll s.holds_look, s.remaining_look⟩

/-! An order is rejected, or wants more values than there are, or is filled. -/

section Orders
variable {order : Order} {left : List UInt16} {d : Dice}

theorem fillFrom_rejected {r : Rejection} (h : order.dice = .error r) :
    fillFrom left order = .rejected r := by
  rw [fillFrom, h]

theorem fillFrom_short (h : order.dice = .ok d) (hshort : left.length < d.count.toNat) :
    fillFrom left order = .exhausted := by
  simp only [fillFrom, h, if_pos hshort]

theorem fillFrom_enough (h : order.dice = .ok d) (henough : d.count.toNat ≤ left.length) :
    fillFrom left order = .roll (Roll.ofValues d (left.take d.count.toNat)) := by
  simp only [fillFrom, h, if_neg (Nat.not_lt.mpr henough)]

theorem orderDemand_rejected {r : Rejection} (h : order.dice = .error r) :
    orderDemand order = 0 := by
  rw [orderDemand, h]

theorem orderDemand_accepted (h : order.dice = .ok d) : orderDemand order = d.count.toNat := by
  rw [orderDemand, h]

end Orders

theorem answeredFrom_fillFrom (left : List UInt16) (order : Order) :
    AnsweredFrom left (.roll order) (fillFrom left order) := by
  refine ⟨fun r hr => fillFrom_rejected hr, fun d hd => ⟨?_, fillFrom_enough hd⟩⟩
  constructor
  · intro hout
    by_contra henough
    rw [fillFrom_enough hd (Nat.not_lt.mp henough)] at hout
    contradiction
  · exact fillFrom_short hd

theorem answeredFrom_reply (left : List UInt16) (x : Step) :
    AnsweredFrom left x (reply left x) := by
  cases x with
  | die sides =>
    cases left with
    | nil => exact ⟨⟨fun _ => rfl, fun _ => rfl⟩, nofun⟩
    | cons val rest =>
      refine ⟨⟨nofun, nofun⟩, fun v hv => ?_⟩
      cases hv
      rfl
  | roll order => exact answeredFrom_fillFrom left order
  | rehearse order => exact answeredFrom_fillFrom left order
  | ask =>
    cases left with
    | nil => exact ⟨false, rfl, nofun, fun h => absurd rfl h⟩
    | cons val rest => exact ⟨true, rfl, fun _ => nofun, fun _ => rfl⟩

/-- What is answered from nothing is what is answered at the end. -/
theorem answeredAtEnd_of_answeredFrom_nil {x : Step} {a : Answer} (h : AnsweredFrom [] x a) :
    AnsweredAtEnd x a := by
  have horder : ∀ order : Order, AnsweredFrom [] (.roll order) a →
      AnsweredAtEnd (.roll order) a := by
    intro order h d hd
    obtain ⟨hshort, henough⟩ := h.2 d hd
    by_cases hzero : d.count = 0
    · rw [if_pos hzero]
      have hcount : d.count.toNat = 0 := by rw [hzero]; rfl
      rw [hcount] at henough
      exact henough (Nat.le_refl 0)
    · rw [if_neg hzero]
      exact hshort.mpr (Nat.pos_of_ne_zero fun h₀ => hzero (UInt8.toNat_inj.mp h₀))
  cases x with
  | die sides => exact h.1.mpr rfl
  | roll order => exact horder order h
  | rehearse order => exact horder order h
  | ask =>
    obtain ⟨yes, rfl, hyes⟩ := h
    cases yes with
    | false => rfl
    | true => exact absurd rfl (hyes.mp rfl)

/-- A step that has enough values shows those that it takes, and one that runs out takes all. -/
theorem taken_append_drop (left : List UInt16) (x : Step) :
    (¬RanOut x (reply left x) → taken x (reply left x) ++ left.drop (demand x) = left) ∧
      (RanOut x (reply left x) →
        taken x (reply left x) = [] ∧ left.drop (demand x) = []) := by
  cases x with
  | die sides =>
    cases left with
    | nil => exact ⟨fun h => absurd trivial h, fun _ => ⟨rfl, rfl⟩⟩
    | cons val rest => exact ⟨fun _ => rfl, False.elim⟩
  | roll order =>
    show (¬RanOut _ (fillFrom left order) →
        taken _ (fillFrom left order) ++ left.drop (orderDemand order) = left) ∧
      (RanOut _ (fillFrom left order) →
        taken _ (fillFrom left order) = [] ∧ left.drop (orderDemand order) = [])
    cases hd : order.dice with
    | error rejection =>
      rw [fillFrom_rejected hd, orderDemand_rejected hd]
      exact ⟨fun _ => rfl, False.elim⟩
    | ok d =>
      rw [orderDemand_accepted hd]
      by_cases hshort : left.length < d.count.toNat
      · rw [fillFrom_short hd hshort]
        exact ⟨fun h => absurd trivial h,
          fun _ => ⟨rfl, List.drop_eq_nil_of_le (Nat.le_of_lt hshort)⟩⟩
      · rw [fillFrom_enough hd (Nat.not_lt.mp hshort)]
        refine ⟨fun _ => ?_, False.elim⟩
        show (Roll.ofValues d _).vals ++ _ = left
        rw [Roll.vals_ofValues, List.take_append_drop]
  | rehearse order => exact ⟨fun _ => rfl, False.elim⟩
  | ask => exact ⟨fun _ => rfl, False.elim⟩

/-- What takes no value leaves the remaining values as they are. -/
theorem demand_eq_zero {x : Step} (h : takes x = false) : demand x = 0 := by
  cases x with
  | die sides => contradiction
  | roll order =>
    have hdice : order.dice.isOk = false := h
    cases hd : order.dice with
    | error rejection => exact orderDemand_rejected hd
    | ok d =>
      rw [hd] at hdice
      contradiction
  | rehearse order => rfl
  | ask => rfl

/-! ## Whole sessions -/

/-- The accounts hold for one step in front of others, if they hold for those. -/
theorem Ledger.cons {vals left : List UInt16} {steps : List Step} {answers : List Answer}
    (x : Step) (h : Ledger (vals.drop (demand x)) steps answers left) :
    Ledger vals (x :: steps) (reply vals x :: answers) left := by
  obtain ⟨henough, hout⟩ := taken_append_drop vals x
  by_cases hran : RanOut x (reply vals x)
  · -- nothing is left for the steps behind
    obtain ⟨htaken, hdrop⟩ := hout hran
    have hnil := h.inOrder
    rw [hdrop, List.prefix_nil, List.append_eq_nil_iff] at hnil
    refine ⟨?_, fun hno => ?_, fun _ => hnil.2⟩
    · rw [List.zipWith_cons_cons, List.flatten_cons, htaken, hnil.1, hnil.2]
      exact List.nil_prefix
    · exact absurd hran (hno _ List.mem_cons_self)
  · have hvals := henough hran
    refine ⟨?_, fun hno => ?_, ?_⟩
    · rw [List.zipWith_cons_cons, List.flatten_cons, List.append_assoc]
      conv => rhs; rw [← hvals]
      exact (List.prefix_append_right_inj _).mpr h.inOrder
    · rw [List.zipWith_cons_cons, List.flatten_cons, List.append_assoc,
        h.complete fun p hp => hno p (List.mem_cons_of_mem _ hp), hvals]
    · rintro ⟨p, hp, hpran⟩
      rcases List.mem_cons.mp hp with rfl | hp
      · exact absurd hpran hran
      · exact h.usedUp ⟨p, hp, hpran⟩

/-- **The accounts of a session are settled.** -/
theorem ledger_run (s : Recorded) (steps : List Step) :
    Ledger s.remaining steps (run s steps).1 (run s steps).2.remaining := by
  induction steps generalizing s with
  | nil => exact ⟨List.prefix_rfl, fun _ => rfl, fun ⟨_, hp, _⟩ => absurd hp List.not_mem_nil⟩
  | cons x steps ih =>
    obtain ⟨hanswer, hleft⟩ := step_recorded s x
    have hrest := ih (step s x).2
    rw [hleft] at hrest
    rw [run_cons, hanswer]
    exact hrest.cons x

/-- Steps that take no value change no other answer. -/
theorem run_filter_takes (s s' : Recorded) (h : s.remaining = s'.remaining) (steps : List Step) :
    (run s (steps.filter takes)).1 =
      ((steps.zip (run s' steps).1).filter fun p => takes p.1).map Prod.snd := by
  induction steps generalizing s s' with
  | nil => rfl
  | cons x steps ih =>
    obtain ⟨hanswer, hleft⟩ := step_recorded s x
    obtain ⟨hanswer', hleft'⟩ := step_recorded s' x
    rw [run_cons, List.zip_cons_cons]
    cases hx : takes x with
    | false =>
      -- the other run stays behind with the same values
      have hsame : s.remaining = (step s' x).2.remaining := by
        rw [hleft', demand_eq_zero hx, List.drop_zero, h]
      simp only [List.filter_cons, hx, Bool.false_eq_true, if_false]
      exact ih s _ hsame
    | true =>
      have hsame : (step s x).2.remaining = (step s' x).2.remaining := by rw [hleft, hleft', h]
      simp only [List.filter_cons, hx, if_true, run_cons, List.map_cons]
      rw [hanswer, hanswer', h, ih _ _ hsame]

/-- **Recorded values are given out once each and in order.**  After any steps the values that the
answers show begin the recorded ones, and those that are left follow them, unless a step has run
out; then none is left.  Every step is answered from what is left: it runs out iff it wants more,
and after that only rolls of no dice come about.  Questions, rehearsals and rejected orders might as
well be left out. -/
theorem run_recorded (vals : List UInt16) :
    (∀ steps : List Step,
      (List.zipWith taken steps (run (Recorded.mk vals) steps).1).flatten <+: vals ∧
      Ledger vals steps (run (Recorded.mk vals) steps).1
        (run (Recorded.mk vals) steps).2.remaining) ∧
    (∀ (before : List Step) (x : Step) (after : List Step), ∃ a later,
      (run (Recorded.mk vals) (before ++ x :: after)).1 =
        (run (Recorded.mk vals) before).1 ++ a :: later ∧
      AnsweredFrom (run (Recorded.mk vals) before).2.remaining x a ∧
      ((∃ p ∈ before.zip (run (Recorded.mk vals) before).1, RanOut p.1 p.2) →
        AnsweredAtEnd x a)) ∧
    ∀ steps : List Step, (run (Recorded.mk vals) (steps.filter takes)).1 =
      ((steps.zip (run (Recorded.mk vals) steps).1).filter fun p => takes p.1).map Prod.snd := by
  have hledger := fun steps => ledger_run (Recorded.mk vals) steps
  refine ⟨fun steps => ⟨?_, hledger steps⟩, fun before x after => ?_,
    run_filter_takes _ _ rfl⟩
  · exact (List.prefix_append _ _).trans (hledger steps).inOrder
  · have hfrom : AnsweredFrom (run (Recorded.mk vals) before).2.remaining x
        (step (run (Recorded.mk vals) before).2 x).1 := by
      rw [(step_recorded _ x).1]
      exact answeredFrom_reply _ x
    refine ⟨_, (run (step (run (Recorded.mk vals) before).2 x).2 after).1, ?_, hfrom,
      fun hran => ?_⟩
    · rw [run_append, run_cons]
    · rw [(hledger before).usedUp hran] at hfrom
      exact answeredAtEnd_of_answeredFrom_nil hfrom

end Session
end TabletopDice
