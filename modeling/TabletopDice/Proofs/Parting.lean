import TabletopDice.Proofs.Ranks
import TabletopDice.Proofs.Totals

/-! # Parting dice by value

A selection of fresh dice leaves no die on the table that should have been kept in
place of another: those that are kept are, by their values, at one end of the scale
(`Roll.parts_settle`).  Keeping the dice that it names, this is the end from which
the selection counts, and dropping them it is the opposite one.

Such a parting is the only one, up to dice of equal value, with so many dice kept
(`Extreme.Parts.unique`).  Two selections that part the dice at the same end and keep
the same number of them agree up to the order of the dice
(`Roll.settle_perm_settle`), whether one of them keeps what it names and the other
drops it, or the same selection meets the values in another order.
-/
namespace TabletopDice

/-- The other end of the scale. -/
def Extreme.opposite : Extreme → Extreme
  | highest => lowest
  | lowest => highest

/-- The end of the scale at which the dice lie that a selection keeps. -/
def Selection.favours (s : Selection) : Extreme :=
  match s.action with
  | .keep => s.extreme
  | .drop => s.extreme.opposite

/-- How many of so many fresh dice a selection keeps. -/
def Selection.keptOf (s : Selection) (total : Nat) : Nat :=
  match s.action with
  | .keep => min s.number.toNat total
  | .drop => total - min s.number.toNat total

/-! ## The only parting -/

namespace Extreme

variable (x : Extreme)

@[simp] theorem opposite_opposite : x.opposite.opposite = x := by
  cases x <;> rfl

theorem beats_opposite (a b : UInt16) : x.opposite.beats a b = x.beats b a := by
  cases x <;> rfl

/-- The values are those that are kept and those that are dropped, and none of the latter is
further towards this end than one of the former. -/
structure Parts (vals kept dropped : List UInt16) : Prop where
  perm : (kept ++ dropped).Perm vals
  not_beats : ∀ a ∈ kept, ∀ b ∈ dropped, ¬x.beats b a = true

/-- The values in order, beginning from this end. -/
def inOrder (vals : List UInt16) : List UInt16 :=
  vals.mergeSort fun a b => decide (x.distance a ≤ x.distance b)

theorem inOrder_perm (vals : List UInt16) : (x.inOrder vals).Perm vals := List.mergeSort_perm _ _

theorem pairwise_inOrder (vals : List UInt16) :
    (x.inOrder vals).Pairwise fun a b => x.distance a ≤ x.distance b := by
  have hsorted : (x.inOrder vals).Pairwise
      fun a b => decide (x.distance a ≤ x.distance b) = true := by
    refine List.pairwise_mergeSort (fun a b c hab hbc => ?_) (fun a b => ?_) vals
    · rw [decide_eq_true_eq] at *
      exact Nat.le_trans hab hbc
    · rw [Bool.or_eq_true, decide_eq_true_eq, decide_eq_true_eq]
      exact Nat.le_total _ _
  exact hsorted.imp of_decide_eq_true

/-- There is only one way to put values in order. -/
theorem eq_inOrder {l vals : List UInt16}
    (hsorted : l.Pairwise fun a b => x.distance a ≤ x.distance b) (hperm : l.Perm vals) :
    l = x.inOrder vals :=
  List.Perm.eq_of_pairwise (fun _ _ _ _ hab hba => x.distance_inj.mp (Nat.le_antisymm hab hba))
    hsorted (x.pairwise_inOrder vals) (hperm.trans (x.inOrder_perm vals).symm)

variable {x} {vals kept dropped : List UInt16}

theorem Parts.inOrder_append (h : x.Parts vals kept dropped) :
    x.inOrder kept ++ x.inOrder dropped = x.inOrder vals := by
  refine x.eq_inOrder (List.pairwise_append.mpr
    ⟨x.pairwise_inOrder kept, x.pairwise_inOrder dropped, fun a ha b hb => ?_⟩)
    (((x.inOrder_perm kept).append (x.inOrder_perm dropped)).trans h.perm)
  have hnot := h.not_beats a ((x.inOrder_perm kept).mem_iff.mp ha) b
    ((x.inOrder_perm dropped).mem_iff.mp hb)
  rw [beats_iff] at hnot
  exact Nat.le_of_not_lt hnot

/-- **Values are parted in one way only, up to their order.** -/
theorem Parts.unique {vals' kept' dropped' : List UInt16} (h : x.Parts vals kept dropped)
    (h' : x.Parts vals' kept' dropped') (hvals : vals.Perm vals')
    (hlength : kept.length = kept'.length) : kept.Perm kept' ∧ dropped.Perm dropped' := by
  have hsame : x.inOrder vals = x.inOrder vals' :=
    x.eq_inOrder (x.pairwise_inOrder vals) ((x.inOrder_perm vals).trans hvals)
  have happend : x.inOrder kept ++ x.inOrder dropped = x.inOrder kept' ++ x.inOrder dropped' := by
    rw [h.inOrder_append, h'.inOrder_append, hsame]
  have hfirst : (x.inOrder kept).length = (x.inOrder kept').length := by
    rw [(x.inOrder_perm kept).length_eq, (x.inOrder_perm kept').length_eq, hlength]
  obtain ⟨hkept, hdropped⟩ := List.append_inj happend hfirst
  constructor
  · exact (x.inOrder_perm kept).symm.trans (hkept ▸ x.inOrder_perm kept')
  · exact (x.inOrder_perm dropped).symm.trans (hdropped ▸ x.inOrder_perm dropped')

end Extreme

/-! ## How a selection parts fresh dice -/

namespace Selection

variable (s : Selection) {vals : List UInt16} {i j : Nat} {val other : UInt16}

/-- The selection keeps the die at place `i` of fresh dice. -/
def Keeps (vals : List UInt16) (i : Nat) : Prop :=
  s.Admits (s.extreme.rank (vals.map fun v => { val := v }) i)

instance (vals : List UInt16) (i : Nat) : Decidable (s.Keeps vals i) := by
  unfold Keeps
  infer_instance

/-- A die that is kept is favoured over one that is dropped.  Where their values are equal the one
that is named was rolled before the other. -/
theorem beats_or_eq_of_keeps (hi : vals[i]? = some val) (hj : vals[j]? = some other)
    (hkept : s.Keeps vals i) (hdropped : ¬s.Keeps vals j) :
    s.favours.beats val other = true ∨
      val = other ∧ match s.action with
        | .keep => i ≤ j
        | .drop => j ≤ i := by
  have hi : (vals.map fun v => ({ val := v } : Die))[i]? = some { val } := by
    rw [List.getElem?_map, hi, Option.map_some]
  have hj : (vals.map fun v => ({ val := v } : Die))[j]? = some { val := other } := by
    rw [List.getElem?_map, hj, Option.map_some]
  unfold Keeps Admits at hkept hdropped
  unfold favours
  cases haction : s.action with
  | keep =>
    simp only [haction, Nat.not_lt] at hkept hdropped
    have h := s.extreme.precedes_of_rank_lt hi hj (Nat.lt_of_lt_of_le hkept hdropped)
    rwa [Extreme.precedes_iff, ← Extreme.beats_iff, Extreme.distance_inj] at h
  | drop =>
    simp only [haction, Nat.not_le] at hkept hdropped
    have h := s.extreme.precedes_of_rank_lt hj hi (Nat.lt_of_lt_of_le hdropped hkept)
    rw [Extreme.precedes_iff, ← Extreme.beats_iff, Extreme.distance_inj] at h
    simp only [Extreme.beats_opposite]
    exact h.imp_right fun ⟨hval, hle⟩ => ⟨hval.symm, hle⟩

/-- No dropped die lies further towards the favoured end than a kept one. -/
theorem distance_le_of_keeps (hi : vals[i]? = some val) (hj : vals[j]? = some other)
    (hkept : s.Keeps vals i) (hdropped : ¬s.Keeps vals j) :
    s.favours.distance val ≤ s.favours.distance other := by
  obtain h | ⟨h, -⟩ := s.beats_or_eq_of_keeps hi hj hkept hdropped
  · exact Nat.le_of_lt (s.favours.beats_iff.mp h)
  · rw [h]

end Selection

namespace Roll

variable (s : Selection) (vals : List UInt16)

theorem getElem?_settle (i : Nat) :
    (settle (some s) vals)[i]? = vals[i]?.map fun val => ⟨val, decide (s.Keeps vals i)⟩ := by
  show (s.apply (vals.map fun v => { val := v }))[i]? = _
  rw [Selection.getElem?_apply, List.getElem?_map, Option.map_map]
  refine congrArg (vals[i]?.map ·) (funext fun val => ?_)
  show (if s.Keeps vals i then _ else _) = _
  split <;> rename_i h
  · rw [decide_eq_true h]
  · rw [decide_eq_false h]
    rfl

theorem map_val_settle : (settle (some s) vals).map Die.val = vals :=
  vals_ofValues { (default : Dice) with selection := some s } vals

/-- The values of the dice that count, or of the dropped dice. -/
def valsWith (kept : Bool) (rolls : List Die) : List UInt16 :=
  (rolls.filter (·.kept == kept)).map Die.val

theorem map_val_kept (r : Roll) : r.kept.map Die.val = valsWith true r.rolls := by
  refine congrArg (List.map Die.val) (List.filter_congr fun die _ => ?_)
  rw [beq_true]

theorem map_val_dropped (r : Roll) : r.dropped.map Die.val = valsWith false r.rolls := by
  refine congrArg (List.map Die.val) (List.filter_congr fun die _ => ?_)
  rw [beq_false]
  rfl

theorem valsWith_perm (kept : Bool) {rolls rolls' : List Die} (h : rolls.Perm rolls') :
    (valsWith kept rolls).Perm (valsWith kept rolls') :=
  (h.filter _).map Die.val

theorem mem_valsWith_iff {kept : Bool} {rolls : List Die} {val : UInt16} :
    val ∈ valsWith kept rolls ↔ ∃ i : Nat, rolls[i]? = some (Die.mk val kept) := by
  rw [valsWith, List.mem_map, ← List.mem_iff_getElem?]
  constructor
  · rintro ⟨die, hdie, rfl⟩
    obtain ⟨hmem, hkept⟩ := List.mem_filter.mp hdie
    rw [← eq_of_beq hkept]
    exact hmem
  · intro hmem
    exact ⟨_, List.mem_filter.mpr ⟨hmem, beq_self_eq_true kept⟩, rfl⟩

theorem mem_valsWith_settle_iff {kept : Bool} {s : Selection} {vals : List UInt16} {val : UInt16} :
    val ∈ valsWith kept (settle (some s) vals) ↔
      ∃ i : Nat, vals[i]? = some val ∧ decide (s.Keeps vals i) = kept := by
  simp only [mem_valsWith_iff, getElem?_settle, Option.map_eq_some_iff, Die.mk.injEq]
  constructor
  · rintro ⟨i, _, hi, rfl, hkept⟩
    exact ⟨i, hi, hkept⟩
  · rintro ⟨i, hi, hkept⟩
    exact ⟨i, val, hi, rfl, hkept⟩

/-- A die is known by its value and whether it counts. -/
theorem map_mk_valsWith (kept : Bool) (rolls : List Die) :
    (valsWith kept rolls).map (Die.mk · kept) = rolls.filter (·.kept == kept) := by
  rw [valsWith, List.map_map]
  refine (List.map_congr_left fun die hdie => ?_).trans (List.map_id _)
  rw [← eq_of_beq (List.mem_filter.mp hdie).2]
  rfl

theorem filter_append_perm (rolls : List Die) :
    (rolls.filter (·.kept == true) ++ rolls.filter (·.kept == false)).Perm rolls := by
  have hdropped : rolls.filter (·.kept == false) = rolls.filter fun die => !die.kept == true :=
    List.filter_congr fun die _ => by rw [beq_false, beq_true]
  rw [hdropped]
  exact List.filter_append_perm _ rolls

/-- Of fresh dice a selection keeps as many as its number says. -/
theorem countP_settle : (settle (some s) vals).countP Die.kept = s.keptOf vals.length := by
  have hcount := s.countP_kept_apply (Selection.kept_of_fresh vals)
  rw [List.length_map] at hcount
  refine hcount.trans ?_
  unfold Selection.keptOf
  cases s.action with
  | keep => rfl
  | drop =>
    show vals.length - s.number.toNat = vals.length - min s.number.toNat vals.length
    omega

theorem length_valsWith_settle :
    (valsWith true (settle (some s) vals)).length = s.keptOf vals.length := by
  rw [valsWith, List.length_map, List.filter_congr fun die _ => beq_true die.kept,
    ← List.countP_eq_length_filter]
  exact countP_settle s vals

/-- **A selection parts fresh dice at the end that it favours.** -/
theorem parts_settle :
    s.favours.Parts vals (valsWith true (settle (some s) vals))
      (valsWith false (settle (some s) vals)) where
  perm := by
    have hperm := (filter_append_perm (settle (some s) vals)).map Die.val
    rwa [List.map_append, map_val_settle] at hperm
  not_beats := by
    intro val hval other hother hbeats
    obtain ⟨i, hi, hkept⟩ := mem_valsWith_settle_iff.mp hval
    obtain ⟨j, hj, hdropped⟩ := mem_valsWith_settle_iff.mp hother
    rw [Extreme.beats_iff] at hbeats
    exact Nat.not_lt.mpr (s.distance_le_of_keeps hi hj (of_decide_eq_true hkept)
      (of_decide_eq_false hdropped)) hbeats

/-- **Selections that part the dice at the same end, and keep as many of them, agree up to the
order of the dice.** -/
theorem settle_perm_settle {s t : Selection} {v w : List UInt16} (hfavours : s.favours = t.favours)
    (hkept : s.keptOf v.length = t.keptOf w.length) (hvals : v.Perm w) :
    (settle (some s) v).Perm (settle (some t) w) := by
  obtain ⟨hkeptVals, hdroppedVals⟩ := (parts_settle s v).unique (hfavours ▸ parts_settle t w) hvals
    (by rw [length_valsWith_settle, length_valsWith_settle, hkept])
  have hkept := hkeptVals.map (Die.mk · true)
  have hdropped := hdroppedVals.map (Die.mk · false)
  rw [map_mk_valsWith, map_mk_valsWith] at hkept hdropped
  exact (filter_append_perm _).symm.trans ((hkept.append hdropped).trans (filter_append_perm _))

/-! ## The order of the values -/

/-- **The order in which the dice come up changes nothing but the order of the record.**  The dice
show the same values, of equal dice as many count, and the totals are the same. -/
theorem rolls_and_totals_of_perm (d : Dice) {v w : List UInt16} (h : v.Perm w) :
    (ofValues d v).rolls.Perm (ofValues d w).rolls ∧
      (ofValues d v).subtotal = (ofValues d w).subtotal ∧
      (ofValues d v).total = (ofValues d w).total := by
  have hrolls : (ofValues d v).rolls.Perm (ofValues d w).rolls := by
    show (settle d.selection v).Perm (settle d.selection w)
    cases d.selection with
    | none => exact h.map _
    | some s => exact settle_perm_settle rfl (congrArg s.keptOf h.length_eq) h
  have hsubtotal := subtotal_eq_of_perm hrolls
  exact ⟨hrolls, hsubtotal, total_eq_of_subtotal_eq hsubtotal rfl⟩

/-- Of two threes the first counts, wherever the one lies. -/
theorem rolls_and_totals_of_swap :
    ([3, 1, 3] : List UInt16).Perm [1, 3, 3] ∧
      (ofValues ⟨3, 6, 2, some ⟨.keep, .highest, 1⟩⟩ [3, 1, 3]).rolls.Perm
        (ofValues ⟨3, 6, 2, some ⟨.keep, .highest, 1⟩⟩ [1, 3, 3]).rolls ∧
      (ofValues ⟨3, 6, 2, some ⟨.keep, .highest, 1⟩⟩ [3, 1, 3]).subtotal =
        (ofValues ⟨3, 6, 2, some ⟨.keep, .highest, 1⟩⟩ [1, 3, 3]).subtotal ∧
      (ofValues ⟨3, 6, 2, some ⟨.keep, .highest, 1⟩⟩ [3, 1, 3]).total =
        (ofValues ⟨3, 6, 2, some ⟨.keep, .highest, 1⟩⟩ [1, 3, 3]).total := by
  have hswap : ([3, 1, 3] : List UInt16).Perm [1, 3, 3] := .swap 1 3 [3]
  exact ⟨hswap, rolls_and_totals_of_perm _ hswap⟩

end Roll
end TabletopDice
