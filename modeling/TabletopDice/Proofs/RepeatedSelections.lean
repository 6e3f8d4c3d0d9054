import TabletopDice.Proofs.Parting

/-! # Selections applied in turn

Several selections may be applied to the same dice, one after the other.  Each of
them ranks all dice by their values, those that were dropped before included, so
what it keeps does not depend on the marks that it finds
(`Selection.keeps_vals_iff`).  A die is kept in the end iff it was kept at the start
and each of the selections, taken by itself, would keep it
(`Selection.getElem?_applyAll`); in which order they come, and how often, does not
matter.
-/
namespace TabletopDice

/-- A rank does not depend on which dice have been dropped. -/
theorem Extreme.rank_fresh (x : Extreme) (rolls : List Die) (i : Nat) :
    x.rank ((rolls.map Die.val).map fun v => { val := v }) i = x.rank rolls i := by
  unfold rank
  rw [List.map_map, List.getElem?_map]
  cases rolls[i]? with
  | none => simp only [Option.map_none, List.length_map]
  | some die =>
    simp only [Option.map_some, ← List.map_take, List.countP_map]
    rfl

/-- The same values in the same places, and every die that counts has counted before. -/
structure MoreDropped (before after : List Die) : Prop where
  vals_eq : after.map Die.val = before.map Die.val
  kept_before : ∀ (i : Nat) die, after[i]? = some die → die.kept = true → before[i]? = some die

theorem MoreDropped.trans {before between after : List Die} (h : MoreDropped before between)
    (h' : MoreDropped between after) : MoreDropped before after where
  vals_eq := h'.vals_eq.trans h.vals_eq
  kept_before i die hi hkept := h.kept_before i die (h'.kept_before i die hi hkept) hkept

namespace Selection

variable (s : Selection) (selections : List Selection) (rolls : List Die)

/-! ## One selection -/

/-- What a selection keeps of dice with any marks is what it keeps of fresh dice. -/
theorem keeps_vals_iff (i : Nat) :
    s.Keeps (rolls.map Die.val) i ↔ s.Admits (s.extreme.rank rolls i) := by
  rw [Keeps, Extreme.rank_fresh]

theorem getElem?_apply_eq (i : Nat) :
    (s.apply rolls)[i]? =
      rolls[i]?.map fun die => ⟨die.val, die.kept && decide (s.Keeps (rolls.map Die.val) i)⟩ := by
  rw [getElem?_apply]
  refine congrArg (rolls[i]?.map ·) (funext fun die => ?_)
  by_cases h : s.Keeps (rolls.map Die.val) i
  · rw [if_pos ((s.keeps_vals_iff rolls i).mp h), decide_eq_true h, Bool.and_true]
  · rw [if_neg (mt (s.keeps_vals_iff rolls i).mpr h), decide_eq_false h, Bool.and_false]
    rfl

variable {rolls} in
/-- A selection by itself keeps a die of fresh dice with the same values. -/
theorem getElem?_settle_eq_kept_iff {s : Selection} {i : Nat} {die : Die}
    (hi : rolls[i]? = some die) :
    (Roll.settle (some s) (rolls.map Die.val))[i]? = some { val := die.val, kept := true } ↔
      s.Keeps (rolls.map Die.val) i := by
  rw [Roll.getElem?_settle, List.getElem?_map, hi]
  simp only [Option.map_some, Option.some.injEq, Die.mk.injEq, true_and, decide_eq_true_eq]

/-- No selection takes a die back that was dropped, or changes a value. -/
theorem moreDropped_apply : MoreDropped rolls (s.apply rolls) where
  vals_eq := s.map_val_apply rolls
  kept_before := by
    intro i die hi hkept
    rw [s.getElem?_apply_eq, Option.map_eq_some_iff] at hi
    obtain ⟨earlier, hearlier, rfl⟩ := hi
    rw [Bool.and_eq_true] at hkept
    rw [hearlier, hkept.1, hkept.2]
    exact congrArg (fun kept => some (Die.mk earlier.val kept)) hkept.1

/-! ## Selections in turn -/

/-- A die is dropped by the first of the selections that does not keep it, wherever this stands. -/
theorem getElem?_applyAll (i : Nat) :
    (applyAll selections rolls)[i]? =
      rolls[i]?.map fun die =>
        ⟨die.val, die.kept && selections.all fun s => decide (s.Keeps (rolls.map Die.val) i)⟩ := by
  induction selections generalizing rolls with
  | nil =>
    simp only [List.all_nil, Bool.and_true]
    show rolls[i]? = _
    cases rolls[i]? <;> rfl
  | cons s selections ih =>
    show (applyAll selections (s.apply rolls))[i]? = _
    rw [ih, s.map_val_apply, s.getElem?_apply_eq, Option.map_map]
    refine congrArg (rolls[i]?.map ·) (funext fun die => ?_)
    rw [Function.comp_apply, List.all_cons, Bool.and_assoc]

/-- Dice that have been dropped stay dropped, all along the selections. -/
theorem pairwise_applyEach : (rolls :: applyEach selections rolls).Pairwise MoreDropped := by
  induction selections generalizing rolls with
  | nil => exact List.pairwise_singleton _ _
  | cons s selections ih =>
    have hstep := s.moreDropped_apply rolls
    have hrest := ih (s.apply rolls)
    refine List.pairwise_cons.mpr ⟨fun later hlater => ?_, hrest⟩
    rcases List.mem_cons.mp hlater with rfl | hlater
    · exact hstep
    · exact hstep.trans ((List.pairwise_cons.mp hrest).1 later hlater)

theorem getLast?_applyEach :
    (rolls :: applyEach selections rolls).getLast? = some (applyAll selections rolls) := by
  induction selections generalizing rolls with
  | nil => rfl
  | cons s selections ih =>
    rw [applyEach, List.getLast?_cons_cons]
    exact ih (s.apply rolls)

/-- **Selections only accumulate.**  The same selections lead to the same dice in any order and any
number of times.  A die is kept in the end iff it was kept at the start and each of the selections
keeps it when it is applied by itself to the same values, freshly rolled.  No selection along the
way takes a dropped die back or changes a value. -/
theorem selections_accumulate (selections : List Selection) (rolls : List Die) :
    (∀ selections' : List Selection, (∀ s, s ∈ selections' ↔ s ∈ selections) →
      applyAll selections' rolls = applyAll selections rolls) ∧
    (∀ (i : Nat) die, rolls[i]? = some die →
      ∃ marked, (applyAll selections rolls)[i]? = some marked ∧ marked.val = die.val ∧
        (marked.kept = true ↔ die.kept = true ∧ ∀ s ∈ selections,
          (Roll.settle (some s) (rolls.map Die.val))[i]? = some { val := die.val, kept := true })) ∧
    (rolls :: applyEach selections rolls).Pairwise MoreDropped ∧
    (rolls :: applyEach selections rolls).getLast? = some (applyAll selections rolls) := by
  refine ⟨fun selections' hsame => ?_, fun i die hi => ?_, pairwise_applyEach selections rolls,
    getLast?_applyEach selections rolls⟩
  · refine List.ext_getElem? fun i => ?_
    have hall : (selections'.all fun s => decide (s.Keeps (rolls.map Die.val) i)) =
        selections.all fun s => decide (s.Keeps (rolls.map Die.val) i) := by
      rw [Bool.eq_iff_iff, List.all_eq_true, List.all_eq_true]
      exact forall_congr' fun s => imp_congr_left (hsame s)
    rw [getElem?_applyAll, getElem?_applyAll, hall]
  · have hmarked := getElem?_applyAll selections rolls i
    rw [hi, Option.map_some] at hmarked
    refine ⟨_, hmarked, rfl, ?_⟩
    simp only [getElem?_settle_eq_kept_iff hi, Bool.and_eq_true, List.all_eq_true,
      decide_eq_true_eq]

/-- To keep the two highest of four dice and to drop the lowest one, in either order and with the
first of them repeated. -/
theorem selections_accumulate_of_three :
    applyAll [⟨.keep, .highest, 2⟩, ⟨.drop, .lowest, 1⟩, ⟨.keep, .highest, 2⟩]
        [⟨5, false⟩, ⟨8, true⟩, ⟨2, true⟩, ⟨5, true⟩] =
      applyAll [⟨.drop, .lowest, 1⟩, ⟨.keep, .highest, 2⟩]
        [⟨5, false⟩, ⟨8, true⟩, ⟨2, true⟩, ⟨5, true⟩] := by
  refine (selections_accumulate [⟨.drop, .lowest, 1⟩, ⟨.keep, .highest, 2⟩] _).1 _ fun s => ?_
  simp only [List.mem_cons, List.not_mem_nil, or_false]
  constructor
  · rintro (h | h | h)
    · exact .inr h
    · exact .inl h
    · exact .inr h
  · rintro (h | h)
    · exact .inr (.inl h)
    · exact .inl h

end Selection
end TabletopDice
