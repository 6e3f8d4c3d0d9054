import Mathlib.Algebra.BigOperators.Fin
import Mathlib.Algebra.Order.BigOperators.Group.Finset
import TabletopDice.Proofs.Parting

/-! # The best sum

No other choice of as many dice comes to more than the dice that a selection keeps,
if it favours the highest, or to less, if it favours the lowest
(`Roll.isBest_exactSum`).  A choice that leaves out some of the kept dice holds as
many dropped ones instead, and none of these is better than one of those, so the
exchange does not pay (`sum_le_sum_of_exchange`).
-/
namespace TabletopDice

/-- Of two choices of equally many, the one that is not better where they differ has the smaller
sum. -/
theorem sum_le_sum_of_exchange {ι : Type} [DecidableEq ι] {f : ι → Nat} {A B : Finset ι}
    (hcard : A.card = B.card) (h : ∀ a ∈ A, a ∉ B → ∀ b ∈ B, b ∉ A → f a ≤ f b) :
    ∑ i ∈ A, f i ≤ ∑ i ∈ B, f i := by
  have hdiff : ∑ i ∈ A \ B, f i ≤ ∑ i ∈ B \ A, f i := by
    have hcard' : (A \ B).card = (B \ A).card := Finset.card_sdiff_comm hcard
    obtain hempty | hsome := (B \ A).eq_empty_or_nonempty
    · rw [hempty, Finset.card_empty, Finset.card_eq_zero] at hcard'
      rw [hcard', hempty]
    · -- the least value to be gained is a bound for every value that is given for it
      obtain ⟨least, hleast, hmin⟩ := Finset.exists_min_image (B \ A) f hsome
      rw [Finset.mem_sdiff] at hleast
      calc ∑ i ∈ A \ B, f i ≤ (A \ B).card • f least := by
            refine Finset.sum_le_card_nsmul _ _ _ fun a ha => ?_
            rw [Finset.mem_sdiff] at ha
            exact h a ha.1 ha.2 least hleast.1 hleast.2
        _ = (B \ A).card • f least := by rw [hcard']
        _ ≤ ∑ i ∈ B \ A, f i := Finset.card_nsmul_le_sum _ _ _ hmin
  rw [← Finset.sum_inter_add_sum_sdiff A B, ← Finset.sum_inter_add_sum_sdiff B A,
    Finset.inter_comm B A]
  exact Nat.add_le_add_left hdiff _

/-- The sums of the values at so many different places. -/
def sumsOver (vals : List UInt16) (k : Nat) : Set Nat :=
  {sum | ∃ places : Finset (Fin vals.length), places.card = k ∧ ∑ i ∈ places, vals[i].toNat = sum}

/-- The sum is the one furthest towards this end. -/
def Extreme.IsBest (x : Extreme) (sums : Set Nat) (sum : Nat) : Prop :=
  match x with
  | .highest => IsGreatest sums sum
  | .lowest => IsLeast sums sum

namespace Roll

/-! ## Sums over places -/

theorem exactSum_ofFn {n : Nat} (dice : Fin n → Die) :
    exactSum (List.ofFn dice) = ∑ i with (dice i).kept, (dice i).val.toNat := by
  rw [Finset.sum_filter]
  induction n with
  | zero => rfl
  | succ n ih => rw [List.ofFn_succ, exactSum, ih, Fin.sum_univ_succ]

theorem countP_ofFn {n : Nat} (dice : Fin n → Die) :
    (List.ofFn dice).countP Die.kept = Finset.card {i | (dice i).kept} := by
  rw [Finset.card_filter]
  induction n with
  | zero => rfl
  | succ n ih => rw [List.ofFn_succ, List.countP_cons, ih, Fin.sum_univ_succ, Nat.add_comm]

variable (s : Selection) (vals : List UInt16)

/-- The places of the dice that a selection keeps of fresh dice. -/
def keptSet : Finset (Fin vals.length) := {i | s.Keeps vals i}

theorem settle_eq_ofFn :
    settle (some s) vals =
      List.ofFn fun i : Fin vals.length => ⟨vals[i], decide (s.Keeps vals i)⟩ := by
  refine List.ext_getElem? fun i => ?_
  rw [getElem?_settle, List.getElem?_ofFn]
  split <;> rename_i hi
  · rw [List.getElem?_eq_getElem hi]
    rfl
  · rw [List.getElem?_eq_none (Nat.le_of_not_lt hi)]
    rfl

theorem card_keptSet : (keptSet s vals).card = s.keptOf vals.length := by
  rw [← countP_settle, settle_eq_ofFn, countP_ofFn]
  simp only [decide_eq_true_eq]
  rfl

theorem exactSum_settle :
    exactSum (settle (some s) vals) = ∑ i ∈ keptSet s vals, vals[i].toNat := by
  rw [settle_eq_ofFn, exactSum_ofFn]
  simp only [decide_eq_true_eq]
  rfl

/-! ## No better choice -/

variable {s vals}

theorem mem_keptSet_iff {i : Fin vals.length} : i ∈ keptSet s vals ↔ s.Keeps vals i :=
  Finset.mem_filter_univ i

theorem distance_le_of_mem_keptSet {i j : Fin vals.length} (hi : i ∈ keptSet s vals)
    (hj : j ∉ keptSet s vals) : s.favours.distance vals[i] ≤ s.favours.distance vals[j] :=
  s.distance_le_of_keeps (List.getElem?_eq_getElem i.isLt) (List.getElem?_eq_getElem j.isLt)
    (mem_keptSet_iff.mp hi) (mt mem_keptSet_iff.mpr hj)

/-- Where the highest dice are favoured, no other choice of as many places has a larger sum. -/
theorem sum_le_sum_keptSet (hs : s.favours = .highest) {places : Finset (Fin vals.length)}
    (hcard : places.card = (keptSet s vals).card) :
    ∑ i ∈ places, vals[i].toNat ≤ ∑ i ∈ keptSet s vals, vals[i].toNat := by
  refine sum_le_sum_of_exchange hcard fun j _ hj i hi _ => ?_
  have hle : 65535 - vals[i].toNat ≤ 65535 - vals[j].toNat := by
    have hdistance := distance_le_of_mem_keptSet hi hj
    rwa [hs] at hdistance
  have hlt : vals[j].toNat < 65536 := vals[j].toNat_lt
  omega

/-- Where the lowest dice are favoured, no other choice of as many places has a smaller sum. -/
theorem sum_keptSet_le_sum (hs : s.favours = .lowest) {places : Finset (Fin vals.length)}
    (hcard : places.card = (keptSet s vals).card) :
    ∑ i ∈ keptSet s vals, vals[i].toNat ≤ ∑ i ∈ places, vals[i].toNat := by
  refine sum_le_sum_of_exchange hcard.symm fun i hi _ j _ hj => ?_
  have hdistance := distance_le_of_mem_keptSet hi hj
  rwa [hs] at hdistance

/-- **A selection keeps the best dice.**  It keeps as many as it should, and of all choices of as
many of the values theirs has the largest sum, if the selection keeps the highest or drops the
lowest, and the smallest, if it keeps the lowest or drops the highest. -/
theorem isBest_exactSum (d : Dice) (s : Selection) (vals : List UInt16) :
    let r := ofValues { d with selection := some s } vals
    r.kept.length = s.keptOf vals.length ∧
      s.favours.IsBest (sumsOver vals (s.keptOf vals.length)) (exactSum r.rolls) := by
  intro r
  have hsum : exactSum r.rolls = ∑ i ∈ keptSet s vals, vals[i].toNat := exactSum_settle s vals
  have hmem : exactSum r.rolls ∈ sumsOver vals (s.keptOf vals.length) :=
    ⟨keptSet s vals, card_keptSet s vals, hsum.symm⟩
  refine ⟨?_, ?_⟩
  · rw [kept, ← List.countP_eq_length_filter]
    exact countP_settle s vals
  unfold Extreme.IsBest
  split <;> rename_i hfavours
  · refine ⟨hmem, ?_⟩
    rintro sum ⟨places, hcard, rfl⟩
    rw [hsum]
    exact sum_le_sum_keptSet hfavours (hcard.trans (card_keptSet s vals).symm)
  · refine ⟨hmem, ?_⟩
    rintro sum ⟨places, hcard, rfl⟩
    rw [hsum]
    exact sum_keptSet_le_sum hfavours (hcard.trans (card_keptSet s vals).symm)

end Roll
end TabletopDice
