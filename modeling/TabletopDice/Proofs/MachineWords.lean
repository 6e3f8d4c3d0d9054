import TabletopDice.Parse

/-! # Checks in machine words

The checks of an expression read its digits into words of 32 or 64 bits, narrow
them to 8, 16 or 32 bits, subtract and negate.  None of this is ever felt.  A run
that needs more bits than a word has stands for a number above every limit, what
is narrowed is within bounds already, one is subtracted from a count that is at
least one, and digits carry no sign, so their number can be negated.  So the
checks find what they would find on numbers of any size (`check_eq_judge`).
-/
namespace TabletopDice

/-! ## Reading digits -/

theorem le_ofDigitChars (run : List Char) (n : Nat) : n ≤ Nat.ofDigitChars 10 run n := by
  induction run generalizing n with
  | nil => exact Nat.le_refl n
  | cons c run ih =>
    rw [Nat.ofDigitChars_cons]
    exact Nat.le_trans (by omega) (ih _)

theorem push32?_eq (n : UInt32) (c : Char) :
    push32? n c = if 10 * n.toNat + (c.toNat - '0'.toNat) < UInt32.size
      then some (UInt32.ofNat (10 * n.toNat + (c.toNat - '0'.toNat))) else none := by
  have hw : n * 10 + UInt32.ofNat (c.toNat - '0'.toNat) =
      UInt32.ofNat (10 * n.toNat + (c.toNat - '0'.toNat)) := by
    rw [UInt32.ofNat_add, UInt32.ofNat_mul, UInt32.ofNat_toNat, UInt32.mul_comm]
    rfl
  rw [push32?, hw, Nat.mul_comm]

/-- Digits are read on to a word as long as the number fits into 32 bits. -/
theorem foldlM_push32? (run : List Char) (n : UInt32) :
    run.foldlM push32? n = if Nat.ofDigitChars 10 run n.toNat < UInt32.size
      then some (UInt32.ofNat (Nat.ofDigitChars 10 run n.toNat)) else none := by
  induction run generalizing n with
  | nil =>
    rw [List.foldlM_nil, Nat.ofDigitChars_nil, if_pos n.toNat_lt_size, UInt32.ofNat_toNat]
    rfl
  | cons c run ih =>
    rw [List.foldlM_cons, push32?_eq, Nat.ofDigitChars_cons]
    by_cases h : 10 * n.toNat + (c.toNat - '0'.toNat) < UInt32.size
    · rw [if_pos h]
      show run.foldlM push32? _ = _
      rw [ih, UInt32.toNat_ofNat_of_lt' h]
    · -- what does not fit here does not fit with more digits behind it either
      have hle := le_ofDigitChars run (10 * n.toNat + (c.toNat - '0'.toNat))
      rw [if_neg h, if_neg (by omega)]
      rfl

theorem read32?_eq (run : List Char) :
    read32? run = if value run < UInt32.size then some (UInt32.ofNat (value run)) else none :=
  foldlM_push32? run 0

/-- The word that is read from digits is their number or the largest word. -/
theorem toNat_read32 (run : List Char) :
    (read32 run).toNat = min (value run) 4294967295 := by
  rw [read32, read32?_eq]
  by_cases h : value run < UInt32.size
  · rw [if_pos h, Option.getD_some, UInt32.toNat_ofNat_of_lt' h]
    have : value run < 4294967296 := h
    omega
  · rw [if_neg h, Option.getD_none]
    have : ¬value run < 4294967296 := h
    show 4294967295 = _
    omega

theorem push64?_eq {n : Nat} (hn : n < 9223372036854775808) (c : Char) :
    push64? (Int64.ofNat n) c = if 10 * n + (c.toNat - '0'.toNat) < 9223372036854775808
      then some (Int64.ofNat (10 * n + (c.toNat - '0'.toNat))) else none := by
  have hint : (Int64.ofNat n).toInt = n := Int64.toInt_ofNat_of_lt hn
  have hw : Int64.ofNat n * 10 + Int64.ofNat (c.toNat - '0'.toNat) =
      Int64.ofNat (10 * n + (c.toNat - '0'.toNat)) := by
    rw [Int64.ofNat_add, Int64.ofNat_mul, Int64.mul_comm]
    rfl
  have hmax : Int64.maxValue.toInt = 9223372036854775807 := rfl
  rw [push64?, hw, hint, hmax]
  exact ite_congr (propext (by omega)) (fun _ => rfl) fun _ => rfl

/-- Digits are read on to a signed word as long as the number fits into 63 bits. -/
theorem foldlM_push64? (run : List Char) {n : Nat} (hn : n < 9223372036854775808) :
    run.foldlM push64? (Int64.ofNat n) =
      if Nat.ofDigitChars 10 run n < 9223372036854775808
        then some (Int64.ofNat (Nat.ofDigitChars 10 run n)) else none := by
  induction run generalizing n with
  | nil =>
    rw [List.foldlM_nil, Nat.ofDigitChars_nil, if_pos hn]
    rfl
  | cons c run ih =>
    rw [List.foldlM_cons, push64?_eq hn, Nat.ofDigitChars_cons]
    by_cases h : 10 * n + (c.toNat - '0'.toNat) < 9223372036854775808
    · rw [if_pos h]
      exact ih h
    · have hle := le_ofDigitChars run (10 * n + (c.toNat - '0'.toNat))
      rw [if_neg h, if_neg (by omega)]
      rfl

theorem read64?_eq (run : List Char) :
    read64? run = if value run < 9223372036854775808
      then some (Int64.ofNat (value run)) else none :=
  foldlM_push64? run (by decide)

/-! ## Numbers within bounds -/

theorem narrow8?_eq {n : UInt32} (h : n.toNat ≤ 255) :
    narrow8? n = some (UInt8.ofNat n.toNat) := by
  have hle : n ≤ 0xFF := UInt32.le_iff_toNat_le.mpr h
  rw [narrow8?, if_pos hle]
  rfl

theorem narrow16?_eq {n : UInt32} (h : n.toNat ≤ 65535) :
    narrow16? n = some (UInt16.ofNat n.toNat) := by
  have hle : n ≤ 0xFFFF := UInt32.le_iff_toNat_le.mpr h
  rw [narrow16?, if_pos hle]
  rfl

theorem narrow32?_eq (z : Int64) : narrow32? z =
    if -2147483648 ≤ z.toInt ∧ z.toInt ≤ 2147483647 then some (Int32.ofInt z.toInt) else none := by
  have hw : z.toInt32 = Int32.ofInt z.toInt := by
    rw [← Int32.toInt_inj, Int64.toInt_toInt32, Int32.toInt_ofInt]
  rw [narrow32?, hw]
  exact ite_congr (propext (and_congr Int64.le_iff_toInt_le Int64.le_iff_toInt_le))
    (fun _ => rfl) fun _ => rfl

/-- A bounded number is checked as if it had been read in full: the largest word is above every
limit, and what is narrowed fits. -/
theorem bounded_eq {α : Type} {narrow? : UInt32 → Option α} {narrow : Nat → α} {most : UInt32}
    (hmost : most.toNat < 4294967295)
    (hnarrow : ∀ n : UInt32, n.toNat ≤ most.toNat → narrow? n = some (narrow n.toNat))
    (run : List Char) (low high : Reason) :
    bounded narrow? run most low high =
      if value run = 0 then .error low
      else if most.toNat < value run then .error high
      else .ok (narrow (value run)) := by
  have hread := toNat_read32 run
  have hlow : read32 run < 1 ↔ value run = 0 := by
    rw [UInt32.lt_iff_toNat_lt, hread]
    show _ < 1 ↔ _
    omega
  have hhigh : most < read32 run ↔ most.toNat < value run := by
    rw [UInt32.lt_iff_toNat_lt, hread]
    omega
  simp only [bounded, hlow, hhigh]
  by_cases h₁ : value run = 0
  · rw [if_pos h₁, if_pos h₁]
  · by_cases h₂ : most.toNat < value run
    · rw [if_neg h₁, if_neg h₁, if_pos h₂, if_pos h₂]
    · have hval : (read32 run).toNat = value run := by omega
      rw [if_neg h₁, if_neg h₁, if_neg h₂, if_neg h₂, hnarrow _ (by omega), hval]
      rfl

theorem bounded8_eq {most : UInt32} (hmost : most.toNat ≤ 255) (run : List Char)
    (low high : Reason) :
    bounded narrow8? run most low high =
      if value run = 0 then .error low
      else if most.toNat < value run then .error high
      else .ok (UInt8.ofNat (value run)) :=
  bounded_eq (by omega) (fun _ hn => narrow8?_eq (Nat.le_trans hn hmost)) run low high

theorem bounded16_eq {most : UInt32} (hmost : most.toNat ≤ 65535) (run : List Char)
    (low high : Reason) :
    bounded narrow16? run most low high =
      if value run = 0 then .error low
      else if most.toNat < value run then .error high
      else .ok (UInt16.ofNat (value run)) :=
  bounded_eq (by omega) (fun _ hn => narrow16?_eq (Nat.le_trans hn hmost)) run low high

/-! ## The checks -/

/-- The number of a modifier with its sign. -/
def Modifier.value (m : Modifier) : Int :=
  match m.sign with
  | .plus => TabletopDice.value m.magnitude
  | .minus => -TabletopDice.value m.magnitude

theorem signed?_eq (m : Modifier) : signed? m =
    if -2147483648 ≤ m.value ∧ m.value ≤ 2147483647 then some (Int32.ofInt m.value) else none := by
  obtain ⟨sign, run⟩ := m
  by_cases h : value run < 9223372036854775808
  · have hread : read64? run = some (Int64.ofNat (value run)) := by rw [read64?_eq, if_pos h]
    have hint : (Int64.ofNat (value run)).toInt = value run := Int64.toInt_ofNat_of_lt h
    rw [signed?, hread]
    show narrow32? _ = _
    cases sign with
    | plus =>
      rw [narrow32?_eq, hint]
      rfl
    | minus =>
      have hneg : (-Int64.ofNat (value run)).toInt = -value run := by
        rw [Int64.toInt_neg, hint]
        exact Int.bmod_eq_of_le (by omega) (by omega)
      rw [narrow32?_eq, hneg]
      rfl
  · -- a magnitude beyond 63 bits is out of range with either sign
    have hread : read64? run = none := by rw [read64?_eq, if_neg h]
    have hout : ¬(-2147483648 ≤ Modifier.value ⟨sign, run⟩ ∧
        Modifier.value ⟨sign, run⟩ ≤ 2147483647) := by
      cases sign <;> simp only [Modifier.value] <;> omega
    rw [signed?, hread, if_neg hout]
    rfl

/-- The number of a selector is checked in full.  There is at least one die, so that one can be
subtracted from their number. -/
theorem checkSelector_eq (s : Selector) {count : UInt8} (hcount : 1 ≤ count.toNat) :
    checkSelector s count =
      match Expression.selectorFault? s count.toNat with
      | some reason => .error reason
      | none => .ok ⟨s.action, s.extreme, UInt8.ofNat (value s.number)⟩ := by
  have hlt : count.toNat < 256 := count.toNat_lt_size
  have hword : count.toUInt32.toNat = count.toNat := UInt8.toNat_toUInt32 count
  obtain ⟨action, extreme, run⟩ := s
  cases action with
  | keep =>
    simp only [checkSelector, Expression.selectorFault?]
    rw [bounded8_eq (by omega), hword]
    split
    · rfl
    · split <;> rfl
  | drop =>
    -- one die must be left, so the limit is one less than the count
    have hpred : (count.toUInt32 - 1).toNat = count.toNat - 1 := by
      rw [UInt32.toNat_sub_of_le, hword]
      · rfl
      · rw [UInt32.le_iff_toNat_le, hword]
        exact hcount
    simp only [checkSelector, Expression.selectorFault?]
    rw [bounded8_eq (by omega), hpred]
    split
    · rfl
    · have hhigh : count.toNat - 1 < value run ↔ count.toNat ≤ value run := by omega
      simp only [hhigh]
      split <;> rfl

namespace Expression

variable (e : Expression)

theorem checkCount_eq : e.checkCount =
    if e.countValue = 0 then .error .countTooLow
    else if 100 < e.countValue then .error .countTooHigh
    else .ok (UInt8.ofNat e.countValue) := by
  unfold checkCount countValue
  by_cases h : e.count.isEmpty = true
  · simp only [if_pos h]
    rfl
  · simp only [if_neg h]
    exact bounded8_eq (by decide) e.count _ _

theorem checkSides_eq : e.checkSides =
    if value e.sides = 0 then .error .sidesTooLow
    else if 1000 < value e.sides then .error .sidesTooHigh
    else .ok (UInt16.ofNat (value e.sides)) :=
  bounded16_eq (by decide) e.sides _ _

theorem checkSelection_eq {count : UInt8} (hcount : 1 ≤ count.toNat) : e.checkSelection count =
    match e.selector.bind (selectorFault? · count.toNat) with
    | some reason => .error reason
    | none => .ok e.dice.selection := by
  unfold checkSelection dice
  cases e.selector with
  | none => rfl
  | some s =>
    simp only [Option.bind_some, Option.map_some]
    rw [checkSelector_eq s hcount]
    cases selectorFault? s count.toNat with
    | none => rfl
    | some reason => rfl

theorem modifierValue_of_some {m : Modifier} (h : e.modifier = some m) :
    e.modifierValue = m.value := by
  obtain ⟨sign, run⟩ := m
  rw [modifierValue, h]
  cases sign <;> rfl

theorem checkModifier_eq : e.checkModifier =
    if -2147483648 ≤ e.modifierValue ∧ e.modifierValue ≤ 2147483647
    then .ok (Int32.ofInt e.modifierValue) else .error .modifierOutOfRange := by
  unfold checkModifier
  cases hm : e.modifier with
  | none =>
    rw [modifierValue, hm]
    rfl
  | some m =>
    rw [e.modifierValue_of_some hm]
    simp only [signed?_eq]
    by_cases h : -2147483648 ≤ m.value ∧ m.value ≤ 2147483647
    · rw [if_pos h, if_pos h]
      rfl
    · rw [if_neg h, if_neg h]
      rfl

/-- **Words are wide enough.**  The checks in machine words find what the checks on numbers of any
size find. -/
theorem check_eq_judge : e.check = e.judge := by
  unfold check judge fault?
  rw [checkCount_eq, checkSides_eq, checkModifier_eq]
  by_cases h₁ : e.countValue = 0
  · simp only [if_pos h₁]
    rfl
  by_cases h₂ : 100 < e.countValue
  · simp only [if_neg h₁, if_pos h₂]
    rfl
  by_cases h₃ : value e.sides = 0
  · simp only [if_neg h₁, if_neg h₂, if_pos h₃]
    rfl
  by_cases h₄ : 1000 < value e.sides
  · simp only [if_neg h₁, if_neg h₂, if_neg h₃, if_pos h₄]
    rfl
  simp only [if_neg h₁, if_neg h₂, if_neg h₃, if_neg h₄]
  have hn : (UInt8.ofNat e.countValue).toNat = e.countValue :=
    UInt8.toNat_ofNat_of_lt' (Nat.lt_of_le_of_lt (Nat.not_lt.mp h₂) (by decide))
  have hselection := e.checkSelection_eq (hn.symm ▸ Nat.pos_of_ne_zero h₁)
  rw [hn] at hselection
  -- the count and the sides have passed, so their words are known
  show (do
    let selection ← blame .selector (e.checkSelection (UInt8.ofNat e.countValue))
    let modifier ← blame .modifier _
    return { count := UInt8.ofNat e.countValue, sides := UInt16.ofNat (value e.sides), modifier,
             selection } : Except (Reason × Field) Dice) = _
  rw [hselection]
  cases e.selector.bind (selectorFault? · e.countValue) with
  | some reason => rfl
  | none =>
    by_cases h₅ : -2147483648 ≤ e.modifierValue ∧ e.modifierValue ≤ 2147483647
    · simp only [if_pos h₅]
      rfl
    · simp only [if_neg h₅]
      rfl

end Expression
end TabletopDice
