import TabletopDice.Proofs.BestSums

/-! # Rolling higher

A die that shows more never makes a total smaller, and never makes it larger by more
than the die has gained.  Higher values may change which dice are kept.  But dice at
the same places are as many in both lists, and a selection keeps the best choice of
as many dice from each of them, so what it keeps of one list is compared with the
same places of the other (`Roll.exactSum_settle_some_bounds`).
-/
namespace TabletopDice

variable {v w : List UInt16}

/-- By how much the second values exceed the first, place by place, all together. -/
def excess : List UInt16 → List UInt16 → Nat
  | a :: v, b :: w => b.toNat - a.toNat + excess v w
  | _, _ => 0

theorem excess_eq_sum (h : v.length = w.length) :
    excess v w = ∑ i : Fin v.length, (w[i.cast h].toNat - v[i].toNat) := by
  induction v generalizing w with
  | nil =>
    cases w with
    | nil => rfl
    | cons b w => cases h
  | cons a v ih =>
    cases w with
    | nil => cases h
    | cons b w =>
      rw [excess, ih (Nat.succ.inj h)]
      exact (Fin.sum_univ_succ fun i : Fin (v.length + 1) =>
        ((b :: w).get (i.cast h)).toNat - ((a :: v).get i).toNat).symm

/-! ## The same places of two lists -/

/-- The same places of another list of as many values. -/
def across (h : v.length = w.length) : Finset (Fin v.length) ≃ Finset (Fin w.length) :=
  (finCongr h).finsetCongr

theorem card_across (h : v.length = w.length) (places : Finset (Fin v.length)) :
    (across h places).card = places.card :=
  Finset.card_map _

theorem sum_across (h : v.length = w.length) (places : Finset (Fin v.length)) :
    ∑ j ∈ across h places, w[j].toNat = ∑ i ∈ places, w[i.cast h].toNat :=
  Finset.sum_map _ _ _

section Across
variable (hlength : v.length = w.length) (h : List.Forall₂ (· ≤ ·) v w)
include h

theorem toNat_le_of_forall₂ (i : Fin v.length) : v[i].toNat ≤ w[i.cast hlength].toNat :=
  UInt16.le_iff_toNat_le.mp (h.get i.isLt (hlength ▸ i.isLt))

/-- At the same places the higher values have the larger sum. -/
theorem sum_le_sum_across (places : Finset (Fin v.length)) :
    ∑ i ∈ places, v[i].toNat ≤ ∑ j ∈ across hlength places, w[j].toNat := by
  rw [sum_across]
  exact Finset.sum_le_sum fun i _ => toNat_le_of_forall₂ hlength h i

/-- At the same places the sums differ by no more than the values do all together. -/
theorem sum_across_le (places : Finset (Fin v.length)) :
    ∑ j ∈ across hlength places, w[j].toNat ≤ ∑ i ∈ places, v[i].toNat + excess v w := by
  rw [sum_across, excess_eq_sum hlength]
  calc ∑ i ∈ places, w[i.cast hlength].toNat
      = ∑ i ∈ places, (v[i].toNat + (w[i.cast hlength].toNat - v[i].toNat)) := by
        refine Finset.sum_congr rfl fun i _ => ?_
        have hle := toNat_le_of_forall₂ hlength h i
        omega
    _ = ∑ i ∈ places, v[i].toNat + ∑ i ∈ places, (w[i.cast hlength].toNat - v[i].toNat) :=
        Finset.sum_add_distrib
    _ ≤ ∑ i ∈ places, v[i].toNat + ∑ i : Fin v.length, (w[i.cast hlength].toNat - v[i].toNat) :=
        Nat.add_le_add_left (Finset.sum_le_sum_of_subset (Finset.subset_univ places)) _

end Across

namespace Roll

/-! ## What is kept of two lists -/

/-- Without a selection the sums differ by as much as the values do. -/
theorem exactSum_settle_none (h : List.Forall₂ (· ≤ ·) v w) :
    exactSum (settle none w) = exactSum (settle none v) + excess v w := by
  induction h with
  | nil => rfl
  | @cons a b v w hab _ ih =>
    have hle : a.toNat ≤ b.toNat := UInt16.le_iff_toNat_le.mp hab
    show b.toNat + exactSum (settle none w) =
      a.toNat + exactSum (settle none v) + (b.toNat - a.toNat + excess v w)
    omega

/-- What a selection keeps of the higher values has a larger sum, by no more than the values differ
all together. -/
theorem exactSum_settle_some_bounds (s : Selection) (h : List.Forall₂ (· ≤ ·) v w) :
    exactSum (settle (some s) v) ≤ exactSum (settle (some s) w) ∧
      exactSum (settle (some s) w) ≤ exactSum (settle (some s) v) + excess v w := by
  have hlength : v.length = w.length := h.length_eq
  have hkept : (keptSet s v).card = (keptSet s w).card := by
    rw [card_keptSet, card_keptSet, hlength]
  -- the places kept of the lower values, seen in the higher ones, and the other way round
  have hthere : (across hlength (keptSet s v)).card = (keptSet s w).card := by
    rw [card_across, hkept]
  obtain ⟨here, hplaces⟩ := (across hlength).surjective (keptSet s w)
  have hhere : here.card = (keptSet s v).card := by
    rw [hkept, ← hplaces, card_across]
  rw [exactSum_settle, exactSum_settle]
  cases hfavours : s.favours with
  | highest =>
    constructor
    · calc ∑ i ∈ keptSet s v, v[i].toNat
          ≤ ∑ j ∈ across hlength (keptSet s v), w[j].toNat := sum_le_sum_across hlength h _
        _ ≤ ∑ j ∈ keptSet s w, w[j].toNat := sum_le_sum_keptSet hfavours hthere
    · calc ∑ j ∈ keptSet s w, w[j].toNat
          = ∑ j ∈ across hlength here, w[j].toNat := by rw [hplaces]
        _ ≤ ∑ i ∈ here, v[i].toNat + excess v w := sum_across_le hlength h here
        _ ≤ ∑ i ∈ keptSet s v, v[i].toNat + excess v w :=
          Nat.add_le_add_right (sum_le_sum_keptSet hfavours hhere) _
  | lowest =>
    constructor
    · calc ∑ i ∈ keptSet s v, v[i].toNat
          ≤ ∑ i ∈ here, v[i].toNat := sum_keptSet_le_sum hfavours hhere
        _ ≤ ∑ j ∈ across hlength here, w[j].toNat := sum_le_sum_across hlength h here
        _ = ∑ j ∈ keptSet s w, w[j].toNat := by rw [hplaces]
    · calc ∑ j ∈ keptSet s w, w[j].toNat
          ≤ ∑ j ∈ across hlength (keptSet s v), w[j].toNat := sum_keptSet_le_sum hfavours hthere
        _ ≤ ∑ i ∈ keptSet s v, v[i].toNat + excess v w := sum_across_le hlength h _

theorem exactSum_settle_bounds (selection : Option Selection) (h : List.Forall₂ (· ≤ ·) v w) :
    exactSum (settle selection v) ≤ exactSum (settle selection w) ∧
      exactSum (settle selection w) ≤ exactSum (settle selection v) + excess v w := by
  cases selection with
  | none =>
    rw [exactSum_settle_none h]
    exact ⟨Nat.le_add_right _ _, Nat.le_refl _⟩
  | some s => exact exactSum_settle_some_bounds s h

/-- **To roll higher never hurts.**  If no die shows less than before, the total is no smaller than
before, and it is larger by no more than all of the dice together have gained, whatever is selected
among them. -/
theorem total_gain_bounds (d : Dice) {v w : List UInt16} (h : List.Forall₂ (· ≤ ·) v w) :
    0 ≤ (ofValues d w).total.toInt - (ofValues d v).total.toInt ∧
      (ofValues d w).total.toInt - (ofValues d v).total.toInt ≤ excess v w := by
  obtain ⟨hlow, hhigh⟩ := exactSum_settle_bounds d.selection h
  have hsubtotal : ∀ vals, (ofValues d vals).subtotal.toNat =
      min (exactSum (settle d.selection vals)) 4294967295 := fun vals => toNat_sum _
  rw [toInt_total_ofValues, toInt_total_ofValues, hsubtotal, hsubtotal]
  omega

/-- The lowest of four dice becomes the highest.  It counts now, and the three is dropped in its
place, so that the total grows by three, and the die by five. -/
theorem total_gain_bounds_of_lowest_die :
    List.Forall₂ (· ≤ ·) ([3, 1, 5, 4] : List UInt16) [3, 6, 5, 4] ∧
      0 ≤ (ofValues ⟨4, 6, 2, some ⟨.drop, .lowest, 1⟩⟩ [3, 6, 5, 4]).total.toInt -
        (ofValues ⟨4, 6, 2, some ⟨.drop, .lowest, 1⟩⟩ [3, 1, 5, 4]).total.toInt ∧
      (ofValues ⟨4, 6, 2, some ⟨.drop, .lowest, 1⟩⟩ [3, 6, 5, 4]).total.toInt -
        (ofValues ⟨4, 6, 2, some ⟨.drop, .lowest, 1⟩⟩ [3, 1, 5, 4]).total.toInt ≤ 5 := by
  have hle : List.Forall₂ (· ≤ ·) ([3, 1, 5, 4] : List UInt16) [3, 6, 5, 4] := by decide
  exact ⟨hle, total_gain_bounds ⟨4, 6, 2, some ⟨.drop, .lowest, 1⟩⟩ hle⟩

end Roll
end TabletopDice
