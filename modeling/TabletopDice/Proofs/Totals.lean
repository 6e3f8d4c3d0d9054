import TabletopDice.Audit

/-! # Exact sums

The subtotal is added up in 32 bits that stop at the largest number.  Sums of
numbers only grow, so this is to cut the exact sum off once (`Roll.toNat_sum`), and
the order of the dice does not matter to it (`Roll.subtotal_eq_of_perm`).
The total is added up in 64 bits, where a subtotal and a modifier of 32 bits
always fit (`Roll.toInt_total_ofValues`).
-/
namespace TabletopDice

theorem toNat_cappedAdd (a b : UInt32) :
    (cappedAdd a b).toNat = min (a.toNat + b.toNat) 4294967295 := by
  by_cases h : a.toNat + b.toNat < UInt32.size
  · have hlt : a.toNat + b.toNat < 4294967296 := h
    rw [cappedAdd, UInt32.toNat_ofNatClamp_of_lt h]
    omega
  · have hle : 4294967296 ≤ a.toNat + b.toNat := Nat.le_of_not_lt h
    rw [cappedAdd, UInt32.toNat_ofNatClamp_of_le (Nat.le_of_not_lt h)]
    show 4294967295 = _
    omega

namespace Roll

/-! ## The subtotal -/

/-- A sum that goes on from a number that is cut off is the exact sum, cut off. -/
theorem toNat_foldl_cappedAdd (rolls : List Die) (acc : UInt32) :
    ((rolls.filter (·.kept)).foldl (fun acc die => cappedAdd acc die.val.toUInt32) acc).toNat =
      min (acc.toNat + exactSum rolls) 4294967295 := by
  induction rolls generalizing acc with
  | nil =>
    have hacc : acc.toNat < 4294967296 := acc.toNat_lt
    show acc.toNat = min (acc.toNat + 0) 4294967295
    omega
  | cons die rolls ih =>
    rw [exactSum]
    cases hkept : die.kept with
    | false =>
      rw [List.filter_cons_of_neg (by simp [hkept]), ih, if_neg Bool.false_ne_true, Nat.zero_add]
    | true =>
      rw [List.filter_cons_of_pos hkept, List.foldl_cons, ih, toNat_cappedAdd,
        UInt16.toNat_toUInt32, if_pos rfl]
      omega

/-- The subtotal is the exact sum of the kept dice, unless this needs more than 32 bits. -/
theorem toNat_sum (rolls : List Die) : (sum rolls).toNat = min (exactSum rolls) 4294967295 := by
  have h := toNat_foldl_cappedAdd rolls 0
  rw [UInt32.toNat_zero, Nat.zero_add] at h
  exact h

/-- Kept dice whose values lie between two bounds have a sum between as many times these. -/
theorem exactSum_bounds {rolls : List Die} {lo hi : Nat}
    (h : ∀ die ∈ rolls, lo ≤ die.val.toNat ∧ die.val.toNat ≤ hi) :
    rolls.countP Die.kept * lo ≤ exactSum rolls ∧
      exactSum rolls ≤ rolls.countP Die.kept * hi := by
  induction rolls with
  | nil => simp [exactSum]
  | cons die rolls ih =>
    obtain ⟨hdie, hrolls⟩ := List.forall_mem_cons.mp h
    obtain ⟨hlo, hhi⟩ := ih hrolls
    rw [exactSum]
    cases hkept : die.kept with
    | false =>
      rw [List.countP_cons_of_neg (by simp [hkept]), if_neg Bool.false_ne_true, Nat.zero_add]
      exact ⟨hlo, hhi⟩
    | true =>
      rw [List.countP_cons_of_pos hkept, if_pos rfl, Nat.succ_mul, Nat.succ_mul]
      omega

/-- An exact sum does not depend on the order of the dice. -/
theorem exactSum_perm {rolls rolls' : List Die} (h : rolls.Perm rolls') :
    exactSum rolls = exactSum rolls' := by
  induction h with
  | nil => rfl
  | cons die _ ih => rw [exactSum, exactSum, ih]
  | swap a b rolls =>
    simp only [exactSum]
    omega
  | trans _ _ ih ih' => exact ih.trans ih'

/-- What the kept dice show is all that an exact sum depends on. -/
theorem exactSum_filter_kept (rolls : List Die) :
    exactSum (rolls.filter (·.kept)) = exactSum rolls := by
  induction rolls with
  | nil => rfl
  | cons die rolls ih =>
    cases hkept : die.kept with
    | false =>
      rw [List.filter_cons_of_neg (by simp [hkept]), ih, exactSum, hkept, if_neg Bool.false_ne_true,
        Nat.zero_add]
    | true => rw [List.filter_cons_of_pos hkept, exactSum, exactSum, ih]

/-- A sum of few enough kept dice fits into 32 bits: 65537 of the largest values make up the
largest number. -/
theorem toNat_sum_of_countP_le {rolls : List Die} (h : rolls.countP Die.kept ≤ 65537) :
    (sum rolls).toNat = exactSum rolls := by
  have hvals : ∀ die ∈ rolls, 0 ≤ die.val.toNat ∧ die.val.toNat ≤ 65535 :=
    fun die _ => ⟨Nat.zero_le _, Nat.le_of_lt_succ die.val.toNat_lt⟩
  have hsum := (exactSum_bounds hvals).2
  rw [toNat_sum]
  omega

theorem toNat_sum_of_length_le {rolls : List Die} (h : rolls.length ≤ 65537) :
    (sum rolls).toNat = exactSum rolls :=
  toNat_sum_of_countP_le (Nat.le_trans List.countP_le_length h)

/-! ## The total -/

/-- The total is the subtotal and the modifier, exactly. -/
theorem toInt_total_ofValues (d : Dice) (vals : List UInt16) :
    (ofValues d vals).total.toInt = (ofValues d vals).subtotal.toNat + d.modifier.toInt := by
  have hsub : (ofValues d vals).subtotal.toNat < 4294967296 := UInt32.toNat_lt _
  have hlow : -2147483648 ≤ d.modifier.toInt := d.modifier.le_toInt
  have hhigh : d.modifier.toInt < 2147483648 := d.modifier.toInt_lt
  have hword : (Int64.ofNat (ofValues d vals).subtotal.toNat).toInt =
      (ofValues d vals).subtotal.toNat := by
    refine Int64.toInt_ofNat_of_lt ?_
    omega
  show (clampedAdd (Int64.ofNat (ofValues d vals).subtotal.toNat) d.modifier.toInt64).toInt = _
  rw [clampedAdd, hword, Int32.toInt_toInt64]
  refine Int64.toInt_ofIntClamp ?_ ?_
  · show -9223372036854775808 ≤ _
    omega
  · show _ ≤ 9223372036854775807
    omega

/-! ## The same totals -/

/-- Dice that are the same up to their order have the same subtotal, wherever it is cut off. -/
theorem subtotal_eq_of_perm {d e : Dice} {v w : List UInt16}
    (h : (ofValues d v).rolls.Perm (ofValues e w).rolls) :
    (ofValues d v).subtotal = (ofValues e w).subtotal := by
  refine UInt32.toNat_inj.mp ?_
  show (sum (ofValues d v).rolls).toNat = (sum (ofValues e w).rolls).toNat
  rw [toNat_sum, toNat_sum, exactSum_perm h]

theorem total_eq_of_subtotal_eq {d e : Dice} {v w : List UInt16}
    (hsubtotal : (ofValues d v).subtotal = (ofValues e w).subtotal)
    (hmodifier : d.modifier = e.modifier) : (ofValues d v).total = (ofValues e w).total := by
  refine Int64.toInt_inj.mp ?_
  rw [toInt_total_ofValues, toInt_total_ofValues, hsubtotal, hmodifier]

end Roll
end TabletopDice
