import TabletopDice.Proofs.Rollers

/-! # Dice in turn

Dice are rolled one by one, so a roll may be broken off anywhere and taken up again
by another roll: together the two take the same values from the roller as one roll
of all the dice (`Roller.rollValues_add_of_some`).  If the first of them finds too
few values, so does the one roll, in the same place
(`Roller.rollValues_add_of_none`).  What is selected among the dice or added to them
never reaches the roller.
-/
namespace TabletopDice

/-- `d` are the dice of `d₁` and those of `d₂` together, whatever is selected among any of them or
added to them. -/
structure Dice.Combines (d d₁ d₂ : Dice) : Prop where
  sides_left : d₁.sides = d.sides
  sides_right : d₂.sides = d.sides
  count : d.count.toNat = d₁.count.toNat + d₂.count.toNat

namespace Roller

/-- A roller that has no value for a die stays where it is from then on. -/
def RunsDry (σ : Type) [Roller σ] : Prop :=
  ∀ (sides : UInt16) (s s' : σ), rollDie sides s = (none, s') → rollDie sides s' = (none, s')

/-! ## Values in two parts -/

section General
variable {σ : Type} [Roller σ] {sides : UInt16} {s s' : σ}

/-- Where values are missing for some dice, they are missing for these and others. -/
theorem rollValues_add_of_none {n : Nat} (h : rollValues sides n s = (none, s')) (m : Nat) :
    rollValues sides (n + m) s = (none, s') := by
  induction n generalizing s with
  | zero => cases h
  | succ n ih =>
    rw [Nat.succ_add]
    rcases hfirst : rollDie sides s with ⟨first, s₁⟩
    cases first with
    | none =>
      rw [rollValues_succ_of_none hfirst] at h ⊢
      exact h
    | some val =>
      rw [rollValues_succ_of_some hfirst, Prod.mk.injEq, Option.map_eq_none_iff] at h
      rw [rollValues_succ_of_some hfirst, ih (Prod.ext h.1 h.2)]
      rfl

/-- Behind the values of some dice come those of the others. -/
theorem rollValues_add_of_some {n : Nat} {vals : List UInt16}
    (h : rollValues sides n s = (some vals, s')) (m : Nat) :
    rollValues sides (n + m) s =
      ((rollValues sides m s').1.map (vals ++ ·), (rollValues sides m s').2) := by
  induction n generalizing s vals with
  | zero =>
    cases h
    rw [Nat.zero_add]
    simp
  | succ n ih =>
    rw [Nat.succ_add]
    rcases hfirst : rollDie sides s with ⟨first, s₁⟩
    cases first with
    | none =>
      rw [rollValues_succ_of_none hfirst] at h
      cases h
    | some val =>
      rw [rollValues_succ_of_some hfirst, Prod.mk.injEq, Option.map_eq_some_iff] at h
      obtain ⟨⟨rest, hrest, rfl⟩, hstate⟩ := h
      rw [rollValues_succ_of_some hfirst, ih (Prod.ext hrest hstate), Option.map_map]
      rfl

/-! ## Rollers that have run out -/

/-- A roller that has run out during a roll has run out for all further dice of the kind. -/
theorem RunsDry.rollDie_of_rollValues (hdry : RunsDry σ) {n : Nat}
    (h : rollValues sides n s = (none, s')) : rollDie sides s' = (none, s') := by
  induction n generalizing s with
  | zero => cases h
  | succ n ih =>
    rcases hfirst : rollDie sides s with ⟨first, s₁⟩
    cases first with
    | none =>
      rw [rollValues_succ_of_none hfirst] at h
      cases h
      exact hdry _ _ _ hfirst
    | some val =>
      rw [rollValues_succ_of_some hfirst, Prod.mk.injEq, Option.map_eq_none_iff] at h
      exact ih (Prod.ext h.1 h.2)

theorem rollValues_snd_of_none (h : rollDie sides s = (none, s)) (n : Nat) :
    (rollValues sides n s).2 = s := by
  cases n with
  | zero => rfl
  | succ n => rw [rollValues_succ_of_none h]

end General

theorem runsDry_recorded : RunsDry Recorded := by
  intro sides s s' h
  have hnone : s' = .mk [] := by
    have h' : s.take = (none, s') := h
    cases s with
    | mk values =>
      cases values with
      | nil => cases h'; rfl
      | cons val rest => cases h'
    | ahead next values => cases h'
    | atEnd => cases h'; rfl
  rw [hnone]
  rfl

/-- Without a face all words are gone. -/
theorem runsDry_words : RunsDry Words := by
  intro sides s s' h
  by_cases hsides : 2 ≤ sides.toNat
  · obtain ⟨words⟩ := s
    rw [rollDie_words hsides] at h
    induction words with
    | nil =>
      cases h
      exact rollDie_words hsides []
    | cons word words ih =>
      rw [firstFace] at h
      split at h
      · cases h
      · exact ih h
  · rw [two_le_toNat_iff, not_not] at hsides
    rw [rollDie_words_of_le_one hsides] at h
    cases h

theorem runsDry_wyRand : RunsDry WyRand := by
  intro sides g g' h
  obtain ⟨val, g'', hval⟩ := exists_rollDie_wyRand sides g
  rw [hval] at h
  cases h

/-! ## Rolls in two parts -/

section Rolls
variable {σ : Type} [Roller σ] {d d₁ d₂ : Dice} {s s₁ : σ}

theorem roll_eq_none_iff {s' : σ} :
    roll d s = (none, s') ↔ rollValues d.sides d.count.toNat s = (none, s') := by
  rw [roll_eq, Prod.mk.injEq, Option.map_eq_none_iff, Prod.ext_iff]

/-- What comes up and what it leaves of the roller hang on the number of dice and sides alone. -/
theorem vals_and_state_roll (d : Dice) (s : σ) :
    (roll d s).1.map Roll.vals = (rollValues d.sides d.count.toNat s).1 ∧
      (roll d s).2 = (rollValues d.sides d.count.toNat s).2 := by
  rw [roll_eq, Option.map_map]
  refine ⟨?_, rfl⟩
  have hvals : Roll.vals ∘ Roll.ofValues d = id := funext (Roll.vals_ofValues d)
  rw [hvals, Option.map_id]
  rfl

/-- If there are too few values for some of the dice, there are too few for all of them. -/
theorem roll_of_left_none (h : d.Combines d₁ d₂) (h₁ : roll d₁ s = (none, s₁)) :
    roll d s = (none, s₁) := by
  rw [roll_eq_none_iff, h.sides_left] at h₁
  rw [roll_eq_none_iff, h.count]
  exact rollValues_add_of_none h₁ _

/-- Once some of the dice are rolled, it is up to the others. -/
theorem roll_of_left_some (h : d.Combines d₁ d₂) {r₁ : Roll} (h₁ : roll d₁ s = (some r₁, s₁)) :
    (roll d s).1.map Roll.vals = (roll d₂ s₁).1.map (fun r₂ => r₁.vals ++ r₂.vals) ∧
      (roll d s).2 = (roll d₂ s₁).2 := by
  obtain ⟨vals, hvals, rfl⟩ := roll_eq_some_iff_exists.mp h₁
  obtain ⟨hall, hstate⟩ := vals_and_state_roll d s
  obtain ⟨hright, hstate₂⟩ := vals_and_state_roll d₂ s₁
  rw [h.sides_left] at hvals
  rw [h.count, rollValues_add_of_some hvals] at hall hstate
  rw [h.sides_right] at hright hstate₂
  have hcomp : (fun r₂ : Roll => (Roll.ofValues d₁ vals).vals ++ r₂.vals) =
      (vals ++ ·) ∘ Roll.vals := by
    rw [Roll.vals_ofValues]
    rfl
  rw [hall, hstate, hstate₂, hcomp, ← Option.map_map, hright]
  exact ⟨rfl, rfl⟩

/-- With a roller that stays where it has run out, the others may be rolled in any case. -/
theorem RunsDry.state_roll (hdry : RunsDry σ) (h : d.Combines d₁ d₂) (s : σ) :
    (roll d s).2 = (roll d₂ (roll d₁ s).2).2 := by
  rcases h₁ : roll d₁ s with ⟨first, s₁⟩
  cases first with
  | none =>
    have hempty := hdry.rollDie_of_rollValues (roll_eq_none_iff.mp h₁)
    rw [h.sides_left, ← h.sides_right] at hempty
    rw [roll_of_left_none h h₁, (vals_and_state_roll d₂ s₁).2, rollValues_snd_of_none hempty]
  | some r₁ => exact (roll_of_left_some h h₁).2

end Rolls

/-- **Dice are rolled in turn, whatever is done with them afterwards.**  Dice that are as many and
have as many sides show the same values and leave the roller in the same state, whatever roller it
is.  To roll some dice and then others gives the values of a roll of all of them, one after the
other, and leaves the roller in the same state; the roll of all finds too few values iff one of the
two does.  The state is the same even then, since all rollers at hand stay where they have run
out. -/
theorem rolls_in_turn :
    (∀ {σ : Type} [Roller σ] (s : σ) (d d' : Dice), d.count = d'.count → d.sides = d'.sides →
      (roll d s).1.map Roll.vals = (roll d' s).1.map Roll.vals ∧ (roll d s).2 = (roll d' s).2) ∧
    (∀ {σ : Type} [Roller σ] (s : σ) (d d₁ d₂ : Dice), d.Combines d₁ d₂ →
      ((roll d s).1 = none ↔ (roll d₁ s).1 = none ∨ (roll d₂ (roll d₁ s).2).1 = none) ∧
      (∀ r₁ r₂ s₁ s₂, roll d₁ s = (some r₁, s₁) → roll d₂ s₁ = (some r₂, s₂) →
        ∃ r, roll d s = (some r, s₂) ∧ r.vals = r₁.vals ++ r₂.vals) ∧
      (RunsDry σ → (roll d s).2 = (roll d₂ (roll d₁ s).2).2)) ∧
    RunsDry Recorded ∧ RunsDry Fixed ∧ RunsDry Best ∧ RunsDry WyRand ∧ RunsDry Words := by
  refine ⟨fun s d d' hcount hsides => ?_, fun s d d₁ d₂ h => ⟨?_, ?_, fun hdry => ?_⟩,
    runsDry_recorded, nofun, nofun, runsDry_wyRand, runsDry_words⟩
  · obtain ⟨hvals, hstate⟩ := vals_and_state_roll d s
    obtain ⟨hvals', hstate'⟩ := vals_and_state_roll d' s
    rw [hvals, hvals', hstate, hstate', hcount, hsides]
    exact ⟨rfl, rfl⟩
  · rcases h₁ : roll d₁ s with ⟨first, s₁⟩
    cases first with
    | none => simp [roll_of_left_none h h₁]
    | some r₁ =>
      have hnone := congrArg (· = none) (roll_of_left_some h h₁).1
      simpa using hnone
  · intro r₁ r₂ s₁ s₂ h₁ h₂
    obtain ⟨hvals, hstate⟩ := roll_of_left_some h h₁
    rw [h₂] at hvals hstate
    obtain ⟨r, hr, hrvals⟩ := Option.map_eq_some_iff.mp hvals
    exact ⟨r, Prod.ext hr hstate, hrvals⟩
  · exact hdry.state_roll h s

/-- Two dice take the first two of five values and three dice the others.  Of three values, one is
left for the three dice, which is too few. -/
theorem rolls_in_turn_of_five_dice :
    Dice.Combines ⟨5, 6, -1, none⟩ ⟨2, 6, 3, some ⟨.keep, .highest, 1⟩⟩ ⟨3, 6, 0, none⟩ ∧
      (∃ r, roll ⟨5, 6, -1, none⟩ (Recorded.mk [3, 1, 4, 1, 5]) = (some r, .mk []) ∧
        r.vals = [3, 1] ++ [4, 1, 5]) ∧
      (roll ⟨3, 6, 0, none⟩ (roll ⟨2, 6, 3, some ⟨.keep, .highest, 1⟩⟩
        (Recorded.mk [3, 1, 4])).2).1 = none ∧
      (roll ⟨5, 6, -1, none⟩ (Recorded.mk [3, 1, 4])).1 = none ∧
      (roll ⟨5, 6, -1, none⟩ (Recorded.mk [3, 1, 4])).2 = .mk [] ∧
      (roll ⟨5, 6, 2, some ⟨.drop, .lowest, 1⟩⟩ (Recorded.mk [3, 1, 4])).2 = .mk [] := by
  obtain ⟨hsame, htwo, hdry, -⟩ := rolls_in_turn
  have hcombines :
      Dice.Combines ⟨5, 6, -1, none⟩ ⟨2, 6, 3, some ⟨.keep, .highest, 1⟩⟩ ⟨3, 6, 0, none⟩ :=
    ⟨rfl, rfl, rfl⟩
  obtain ⟨-, hboth, -⟩ := htwo (Recorded.mk [3, 1, 4, 1, 5]) _ _ _ hcombines
  obtain ⟨hnone, -, hstate⟩ := htwo (Recorded.mk [3, 1, 4]) _ _ _ hcombines
  have hleft : roll ⟨2, 6, 3, some ⟨.keep, .highest, 1⟩⟩ (Recorded.mk [3, 1, 4, 1, 5]) =
      (some (.ofValues ⟨2, 6, 3, some ⟨.keep, .highest, 1⟩⟩ [3, 1]), .mk [4, 1, 5]) := rfl
  have hright : roll ⟨3, 6, 0, none⟩ (Recorded.mk [4, 1, 5]) =
      (some (.ofValues ⟨3, 6, 0, none⟩ [4, 1, 5]), .mk []) := rfl
  have hshort : (roll ⟨3, 6, 0, none⟩ (roll ⟨2, 6, 3, some ⟨.keep, .highest, 1⟩⟩
      (Recorded.mk [3, 1, 4])).2).1 = none := rfl
  have hempty : (roll ⟨5, 6, -1, none⟩ (Recorded.mk [3, 1, 4])).2 = .mk [] :=
    (hstate hdry).trans rfl
  refine ⟨hcombines, ?_, hshort, hnone.mpr (Or.inr hshort), hempty,
    (hsame _ _ _ rfl rfl).2.symm.trans hempty⟩
  obtain ⟨r, hr, hvals⟩ := hboth _ _ _ _ hleft hright
  rw [Roll.vals_ofValues, Roll.vals_ofValues] at hvals
  exact ⟨r, hr, hvals⟩

end Roller
end TabletopDice
