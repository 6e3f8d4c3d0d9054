import TabletopDice.Proofs.Rolling
import TabletopDice.WyRand

/-! # What each roller rolls

A roll is made from as many values as there are dice, whatever the roller.  Which
values these are depends on the roller: recorded values come in their order and
run out, a fixed value and the best face come again and again, and fair faces lie
between 1 and the number of sides.  A seeded generator never runs out; other words
suffice if enough of them are accepted.
-/
namespace TabletopDice

/-! ## Any roller -/

namespace Roller

section General
variable {σ : Type} [Roller σ]

/-- What holds of the value of every die holds of all values of a roll, and there are as many of
them as dice. -/
theorem rollValues_induct {P : UInt16 → Prop} {sides : UInt16}
    (hdie : ∀ (s : σ) val, (rollDie sides s).1 = some val → P val) {n : Nat} {s : σ}
    {vals : List UInt16} (h : (rollValues sides n s).1 = some vals) :
    vals.length = n ∧ ∀ val ∈ vals, P val := by
  induction n generalizing s vals with
  | zero =>
    cases h
    exact ⟨rfl, nofun⟩
  | succ n ih =>
    rcases hfirst : rollDie sides s with ⟨first, s'⟩
    cases first with
    | none =>
      rw [rollValues_succ_of_none hfirst] at h
      contradiction
    | some val =>
      rw [rollValues_succ_of_some hfirst] at h
      obtain ⟨rest, hrest, rfl⟩ := Option.map_eq_some_iff.mp h
      obtain ⟨hlength, hall⟩ := ih hrest
      have hval : P val := hdie s val (by rw [hfirst])
      exact ⟨congrArg (· + 1) hlength, List.forall_mem_cons.mpr ⟨hval, hall⟩⟩

/-- A roller that always gives the same value rolls as many of it as there are dice. -/
theorem rollValues_const {sides val : UInt16} {s : σ} (h : rollDie sides s = (some val, s))
    (n : Nat) : rollValues sides n s = (some (List.replicate n val), s) := by
  induction n with
  | zero => rfl
  | succ n ih =>
    rw [rollValues_succ_of_some h, ih]
    rfl

/-- A roller that always has another value has enough of them for any roll. -/
theorem exists_rollValues {sides : UInt16}
    (hdie : ∀ s : σ, ∃ val s', rollDie sides s = (some val, s')) (n : Nat) (s : σ) :
    ∃ vals s', rollValues sides n s = (some vals, s') := by
  induction n generalizing s with
  | zero => exact ⟨[], s, rfl⟩
  | succ n ih =>
    obtain ⟨val, s', hval⟩ := hdie s
    obtain ⟨vals, s'', hvals⟩ := ih s'
    refine ⟨val :: vals, s'', ?_⟩
    rw [rollValues_succ_of_some hval, hvals]
    rfl

/-- Dice are rolled as soon as there are values for them. -/
theorem exists_roll {d : Dice} {s : σ}
    (h : ∃ vals s', rollValues d.sides d.count.toNat s = (some vals, s')) :
    ∃ r s', roll d s = (some r, s') := by
  obtain ⟨vals, s', hvals⟩ := h
  exact ⟨_, s', roll_eq_some_iff_exists.mpr ⟨vals, hvals, rfl⟩⟩

end General

/-! ## Rollers without chance -/

theorem roll_fixed (d : Dice) (s : Fixed) :
    roll d s = (some (Roll.ofValues d (List.replicate d.count.toNat s.value)), s) := by
  rw [roll_eq, rollValues_const rfl]
  rfl

theorem roll_best (d : Dice) (s : Best) :
    roll d s = (some (Roll.ofValues d (List.replicate d.count.toNat d.sides)), s) := by
  rw [roll_eq, rollValues_const rfl]
  rfl

/-! ## Fair dice -/

/-- Fair dice show their faces, as many as there are dice. -/
theorem rollValues_words_range {sides : UInt16} (hsides : 1 ≤ sides.toNat) {n : Nat}
    {words : List UInt64} {vals : List UInt16}
    (h : (rollValues sides n (Words.mk words)).1 = some vals) :
    vals.length = n ∧ ∀ val ∈ vals, 1 ≤ val.toNat ∧ val.toNat ≤ sides.toNat :=
  rollValues_induct (fun _ _ hdie => uniform_range hsides hdie) h

/-- Words suffice for a roll if there are as many accepted ones among them as there are dice. -/
theorem exists_rollValues_words {sides : UInt16} {n : Nat} {words : List UInt64}
    (h : n ≤ words.countP fun word => (face? sides word).isSome) :
    ∃ vals s', rollValues sides n (Words.mk words) = (some vals, s') := by
  by_cases hsides : 2 ≤ sides.toNat
  · induction words generalizing n with
    | nil =>
      obtain rfl : n = 0 := Nat.le_zero.mp h
      exact ⟨[], _, rfl⟩
    | cons word words ih =>
      cases n with
      | zero => exact ⟨[], _, rfl⟩
      | succ n =>
        cases hface : face? sides word with
        | none =>
          rw [List.countP_cons_of_neg (by simp [hface])] at h
          rw [rollValues_succ_of_eq_none hsides hface]
          exact ih h
        | some face =>
          rw [List.countP_cons_of_pos (by simp [hface])] at h
          obtain ⟨vals, s', hvals⟩ := ih (Nat.le_of_succ_le_succ h)
          rw [rollValues_succ_of_eq_some hsides hface, hvals]
          exact ⟨face :: vals, s', rfl⟩
  · -- such dice take no word at all
    have hfew : sides ≤ 1 := by
      rw [two_le_toNat_iff, not_not] at hsides
      exact hsides
    exact ⟨_, _, rollValues_const (rollDie_words_of_le_one hfew words) n⟩

/-- Dice that leave nothing to chance are rolled without a word. -/
theorem roll_words_of_le_one {d : Dice} (h : d.sides ≤ 1) (words : List UInt64) :
    roll d (Words.mk words) =
      (some (Roll.ofValues d (List.replicate d.count.toNat d.sides)), Words.mk words) := by
  rw [roll_eq, rollValues_const (rollDie_words_of_le_one h words)]
  rfl

/-- Whatever words there are, with enough others behind them any dice are rolled. -/
theorem exists_execute_append (d : Dice) (words : List UInt64) :
    ∃ more r, execute d (words ++ more) = some r := by
  -- no die rejects the word 0
  have henough : d.count.toNat ≤ (words ++ List.replicate d.count.toNat 0).countP
      fun word => (face? d.sides word).isSome := by
    rw [List.countP_append, List.countP_replicate, if_pos (by rw [face?_zero]; rfl)]
    exact Nat.le_add_left _ _
  obtain ⟨r, s', hroll⟩ := exists_roll (exists_rollValues_words henough)
  exact ⟨_, r, by rw [execute, hroll]⟩

/-- A seeded generator always has a value for a die. -/
theorem exists_rollDie_wyRand (sides : UInt16) (g : WyRand) :
    ∃ val g', rollDie sides g = (some val, g') := by
  by_cases hfew : sides ≤ 1
  · exact ⟨sides, g, if_pos hfew⟩
  · rcases hface : g.face sides with ⟨face, g'⟩
    refine ⟨face, g', (if_neg hfew).trans ?_⟩
    rw [hface]

/-- A seeded generator rolls any dice. -/
theorem exists_rollValues_wyRand (sides : UInt16) (n : Nat) (g : WyRand) :
    ∃ vals g', rollValues sides n g = (some vals, g') :=
  exists_rollValues (exists_rollDie_wyRand sides) n g

end Roller

/-! ## Recorded values -/

namespace Recorded

/-- A die gets the first of the remaining values, whether or not it has been taken out. -/
theorem take_eq (s : Recorded) :
    s.take.1 = s.remaining.head? ∧ s.take.2.remaining = s.remaining.tail := by
  cases s with
  | mk values => cases values <;> exact ⟨rfl, rfl⟩
  | ahead next values => exact ⟨rfl, rfl⟩
  | atEnd => exact ⟨rfl, rfl⟩

/-- To look whether there is another value changes nothing about what remains. -/
theorem remaining_look (s : Recorded) : s.look.remaining = s.remaining := by
  cases s with
  | mk values => cases values <;> rfl
  | ahead next values => rfl
  | atEnd => rfl

theorem holds_look (s : Recorded) : s.look.holds = !s.remaining.isEmpty := by
  cases s with
  | mk values => cases values <;> rfl
  | ahead next values => rfl
  | atEnd => rfl

/-- Dice get the remaining values in order.  If there are too few, all of them are used up. -/
theorem rollValues_eq (sides : UInt16) (n : Nat) (s : Recorded) :
    (Roller.rollValues sides n s).1 =
        (if s.remaining.length < n then none else some (s.remaining.take n)) ∧
      (Roller.rollValues sides n s).2.remaining = s.remaining.drop n := by
  induction n generalizing s with
  | zero => exact ⟨rfl, rfl⟩
  | succ n ih =>
    obtain ⟨hhead, htail⟩ := s.take_eq
    rcases hfirst : s.take with ⟨first, s'⟩
    rw [hfirst] at hhead htail
    cases hs : s.remaining with
    | nil =>
      rw [hs] at hhead htail
      cases hhead
      rw [Roller.rollValues_succ_of_none hfirst]
      exact ⟨rfl, htail⟩
    | cons val rest =>
      rw [hs] at hhead htail
      cases hhead
      obtain ⟨hvals, hleft⟩ := ih s'
      have htail' : s'.remaining = rest := htail
      rw [Roller.rollValues_succ_of_some hfirst, hvals, hleft, htail']
      refine ⟨?_, rfl⟩
      simp only [List.length_cons, Nat.add_lt_add_iff_right]
      by_cases hshort : rest.length < n
      · rw [if_pos hshort, if_pos hshort]
        rfl
      · rw [if_neg hshort, if_neg hshort]
        rfl

end Recorded
end TabletopDice
