import Mathlib.Data.List.Forall2
import TabletopDice.Proofs.Faces
import TabletopDice.Roller

/-! # Rolling with words

A roll records the values that its dice came up with, in order, whatever is
selected among them afterwards.  If the words are as many as the dice, the roll
takes exactly these words just in case each of them is accepted: a rejected word
leaves one die without a word of its own (`rollsTo_iff`).
-/
namespace TabletopDice

/-! ## The values of a roll -/

/-- A selection changes no value. -/
theorem Selection.map_val_apply (s : Selection) (rolls : List Die) :
    (s.apply rolls).map Die.val = rolls.map Die.val := by
  refine List.ext_getElem? fun i => ?_
  simp only [apply, List.getElem?_map, List.getElem?_mapIdx]
  cases rolls[i]? with
  | none => rfl
  | some die =>
    simp only [Option.map_some]
    split <;> rfl

/-- A roll shows the values that it is made from. -/
theorem Roll.vals_ofValues (d : Dice) (vals : List UInt16) :
    (Roll.ofValues d vals).vals = vals := by
  have hfresh : (vals.map fun v => ({ val := v } : Die)).map Die.val = vals := by
    rw [List.map_map]
    exact List.map_id vals
  show (settle d.selection vals).map Die.val = vals
  unfold settle
  cases d.selection with
  | none => exact hfresh
  | some s => exact (s.map_val_apply _).trans hfresh

theorem Roll.length_settle (selection : Option Selection) (vals : List UInt16) :
    (settle selection vals).length = vals.length := by
  have h := congrArg List.length (vals_ofValues { (default : Dice) with selection } vals)
  rw [Roll.vals, List.length_map] at h
  exact h

/-- The dice of a roll show nothing but the values that it is made from. -/
theorem Roll.val_mem_of_mem_rolls {d : Dice} {vals : List UInt16} {die : Die}
    (h : die ∈ (Roll.ofValues d vals).rolls) : die.val ∈ vals := by
  rw [← vals_ofValues d vals]
  exact List.mem_map_of_mem h

/-! ## Values in turn -/

namespace Roller

section General
variable {σ : Type} [Roller σ]

/-- A roll is made from the values of its dice. -/
theorem roll_eq (d : Dice) (s : σ) :
    roll d s = ((rollValues d.sides d.count.toNat s).1.map (Roll.ofValues d),
      (rollValues d.sides d.count.toNat s).2) := by
  unfold roll
  split <;> rename_i h <;> rw [h] <;> rfl

/-- A roll has an outcome iff its dice have values, and it is made from these. -/
theorem roll_eq_some_iff_exists {d : Dice} {s s' : σ} {r : Roll} :
    roll d s = (some r, s') ↔
      ∃ vals, rollValues d.sides d.count.toNat s = (some vals, s') ∧ r = Roll.ofValues d vals := by
  rw [roll_eq, Prod.mk.injEq, Option.map_eq_some_iff]
  constructor
  · rintro ⟨⟨vals, hvals, rfl⟩, hstate⟩
    exact ⟨vals, Prod.ext hvals hstate, rfl⟩
  · rintro ⟨vals, hvals, rfl⟩
    rw [hvals]
    exact ⟨⟨vals, rfl, rfl⟩, rfl⟩

theorem rollValues_succ_of_none {sides : UInt16} {n : Nat} {s s' : σ}
    (h : rollDie sides s = (none, s')) : rollValues sides (n + 1) s = (none, s') := by
  rw [rollValues, h]

theorem rollValues_succ_of_some {sides val : UInt16} {n : Nat} {s s' : σ}
    (h : rollDie sides s = (some val, s')) :
    rollValues sides (n + 1) s =
      ((rollValues sides n s').1.map (val :: ·), (rollValues sides n s').2) := by
  rw [rollValues, h]
  simp only
  split <;> rename_i hrest <;> rw [hrest] <;> rfl

end General

/-! ## Words in turn -/

variable {sides : UInt16} {n : Nat} {word : UInt64} {words rest : List UInt64}

theorem rollDie_words (hsides : 2 ≤ sides.toNat) (words : List UInt64) :
    rollDie sides (Words.mk words) =
      ((firstFace sides words).1, Words.mk (firstFace sides words).2) := by
  show ((uniform sides words).1, Words.mk (uniform sides words).2) = _
  rw [uniform_of_two_le hsides]

/-- A die that leaves nothing to chance takes no word. -/
theorem rollDie_words_of_le_one (hsides : sides ≤ 1) (words : List UInt64) :
    rollDie sides (Words.mk words) = (some sides, Words.mk words) := by
  show ((uniform sides words).1, Words.mk (uniform sides words).2) = _
  rw [uniform, if_pos hsides]

/-- Without a word there is no die. -/
theorem rollValues_succ_nil (hsides : 2 ≤ sides.toNat) :
    rollValues sides (n + 1) (Words.mk []) = (none, ⟨[]⟩) :=
  rollValues_succ_of_none (rollDie_words hsides [])

/-- An accepted word is the face of one die. -/
theorem rollValues_succ_of_eq_some (hsides : 2 ≤ sides.toNat) {face : UInt16}
    (h : face? sides word = some face) :
    rollValues sides (n + 1) (Words.mk (word :: words)) =
      ((rollValues sides n (Words.mk words)).1.map (face :: ·),
        (rollValues sides n (Words.mk words)).2) := by
  refine rollValues_succ_of_some ?_
  rw [rollDie_words hsides, firstFace, h]

/-- A rejected word is passed over. -/
theorem rollValues_succ_of_eq_none (hsides : 2 ≤ sides.toNat) (h : face? sides word = none) :
    rollValues sides (n + 1) (Words.mk (word :: words)) =
      rollValues sides (n + 1) (Words.mk words) := by
  have hfirst : firstFace sides (word :: words) = firstFace sides words := by rw [firstFace, h]
  rw [rollValues, rollValues, rollDie_words hsides, rollDie_words hsides, hfirst]

/-- Every die takes a word at least. -/
theorem length_of_rollValues_eq_some (hsides : 2 ≤ sides.toNat) {vals : List UInt16}
    (h : rollValues sides n (Words.mk words) = (some vals, ⟨rest⟩)) :
    n + rest.length ≤ words.length := by
  induction words generalizing n vals with
  | nil =>
    cases n with
    | zero =>
      cases h
      exact Nat.le_refl _
    | succ n =>
      rw [rollValues_succ_nil hsides] at h
      cases h
  | cons word words ih =>
    cases n with
    | zero =>
      cases h
      exact Nat.le_of_eq (Nat.zero_add _)
    | succ n =>
      rw [List.length_cons]
      cases hface : face? sides word with
      | none =>
        rw [rollValues_succ_of_eq_none hsides hface] at h
        exact Nat.le_succ_of_le (ih h)
      | some face =>
        rw [rollValues_succ_of_eq_some hsides hface, Prod.mk.injEq, Option.map_eq_some_iff] at h
        obtain ⟨⟨vals', hvals, -⟩, hrest⟩ := h
        have hle := ih (Prod.ext hvals hrest)
        omega

/-- As many words as there are dice are all used up iff each of them is the face of its die. -/
theorem rollValues_append_eq_some_iff (hsides : 2 ≤ sides.toNat) {vals : List UInt16} :
    rollValues sides words.length (Words.mk (words ++ rest)) = (some vals, ⟨rest⟩) ↔
      List.Forall₂ (fun word val => face? sides word = some val) words vals := by
  induction words generalizing vals with
  | nil =>
    rw [List.forall₂_nil_left_iff]
    constructor
    · intro h
      cases h
      rfl
    · rintro rfl
      rfl
  | cons word words ih =>
    rw [List.length_cons, List.cons_append, List.forall₂_cons_left_iff]
    cases hface : face? sides word with
    | none =>
      rw [rollValues_succ_of_eq_none hsides hface]
      constructor
      · intro h
        -- one word fewer is left than there are dice
        have hle := length_of_rollValues_eq_some hsides h
        rw [List.length_append] at hle
        omega
      · rintro ⟨val, vals', h, -, -⟩
        contradiction
    | some face =>
      rw [rollValues_succ_of_eq_some hsides hface, Prod.mk.injEq, Option.map_eq_some_iff]
      constructor
      · rintro ⟨⟨vals', hvals, rfl⟩, hrest⟩
        exact ⟨face, vals', rfl, ih.mp (Prod.ext hvals hrest), rfl⟩
      · rintro ⟨val, vals', hval, hvals, rfl⟩
        cases hval
        have hrec := ih.mpr hvals
        rw [hrec]
        exact ⟨⟨vals', rfl, rfl⟩, rfl⟩

end Roller

/-- The dice take these words and no other, whatever comes behind them, and show these values, in
the order in which they are rolled. -/
def RollsTo (d : Dice) (words : List UInt64) (vals : List UInt16) : Prop :=
  ∀ rest, ∃ r, Roller.roll d (Words.mk (words ++ rest)) = (some r, ⟨rest⟩) ∧ r.vals = vals

theorem roll_eq_some_iff {d : Dice} {words rest : List UInt64} {vals : List UInt16} :
    (∃ r, Roller.roll d (Words.mk words) = (some r, ⟨rest⟩) ∧ r.vals = vals) ↔
      Roller.rollValues d.sides d.count.toNat (Words.mk words) = (some vals, ⟨rest⟩) := by
  constructor
  · rintro ⟨r, hr, rfl⟩
    obtain ⟨vals, hvals, rfl⟩ := Roller.roll_eq_some_iff_exists.mp hr
    rw [Roll.vals_ofValues]
    exact hvals
  · intro h
    exact ⟨_, Roller.roll_eq_some_iff_exists.mpr ⟨vals, h, rfl⟩, Roll.vals_ofValues d vals⟩

/-- Dice take as many words as they are, if they show the faces for these words. -/
theorem rollsTo_iff {d : Dice} (hsides : 2 ≤ d.sides.toNat) {words : List UInt64}
    {vals : List UInt16} (hlength : words.length = d.count.toNat) :
    RollsTo d words vals ↔
      List.Forall₂ (fun word val => face? d.sides word = some val) words vals := by
  have hstep : ∀ rest, (∃ r, Roller.roll d (Words.mk (words ++ rest)) = (some r, ⟨rest⟩) ∧
      r.vals = vals) ↔ List.Forall₂ (fun word val => face? d.sides word = some val) words vals := by
    intro rest
    rw [roll_eq_some_iff, ← hlength, Roller.rollValues_append_eq_some_iff hsides]
  exact ⟨fun h => (hstep []).mp (h []), fun h rest => (hstep rest).mpr h⟩

end TabletopDice
