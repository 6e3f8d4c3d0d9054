import TabletopDice.Proofs.MachineWords
import TabletopDice.Proofs.Numbers

/-! # No overflow

A word wraps around where a result does not fit, and what is found by way of such
a result may look right.  Here an expression is checked strictly: its digits are
read as any text would be, with a sign where one stands in front, and the first
operation without an exact result ends everything.  Such a result would be a
difference below zero, the opposite of the least integer, or a number within
bounds that is too long for the word it goes into.  With digits for its numbers
an expression meets none of them (`WellFormed.checkStrictly_eq`).  The first and
the last are ruled out by checks made before, of the count and of the bounds, and
the opposite by there being no sign in front of digits.
-/
namespace TabletopDice

/-! ## Strict computations -/

/-- An operation on words that has no exact result. -/
inductive Overflow where
  /-- A difference below zero. -/
  | difference
  /-- The opposite of the least integer. -/
  | opposite
  /-- A number within bounds that is too long for the word it goes into. -/
  | narrowing
  deriving DecidableEq, Repr

/-- A computation that stops at the first overflow, and otherwise ends with an answer or an
error. -/
abbrev Strict (ε : Type) := ExceptT ε (Except Overflow)

namespace Strict

variable {ε α β : Type}

/-- The computation stops. -/
def stopped (o : Overflow) : Strict ε α := ExceptT.mk (.error o)

/-- The computation ends with a result. -/
def ended (r : Except ε α) : Strict ε α := ExceptT.mk (.ok r)

/-- The difference of two words. -/
def difference (a b : UInt32) : Strict ε UInt32 :=
  if b ≤ a then pure (a - b) else stopped .difference

/-- The opposite of an integer. -/
def opposite (z : Int64) : Strict ε Int64 :=
  if z = Int64.minValue then stopped .opposite else pure (-z)

/-- A computation ends if its first part does, and the second does with what the first gives. -/
theorem ended_bind {r : Except ε α} {f : α → Except ε β} {g : α → Strict ε β}
    (h : ∀ a, r = .ok a → g a = ended (f a)) : ended r >>= g = ended (r >>= f) := by
  cases r with
  | error fault => rfl
  | ok a => exact h a rfl

theorem elim_throw (fault : ε) (x : Option α) :
    (x.elim (throw fault) pure : Strict ε α) = ended (x.elim (.error fault) .ok) := by
  cases x <;> rfl

theorem difference_bind {a b : UInt32} (h : b ≤ a) (g : UInt32 → Strict ε α) :
    difference a b >>= g = g (a - b) := by
  rw [difference, if_pos h]
  rfl

theorem opposite_bind {z : Int64} (h : 0 ≤ z.toInt) (g : Int64 → Strict ε α) :
    opposite z >>= g = g (-z) := by
  have hne : z ≠ Int64.minValue := by
    rintro rfl
    exact absurd h (by decide)
  rw [opposite, if_neg hne]
  rfl

end Strict

/-! ## Reading text as a number -/

/-- The number that a text stands for, if it is one of 32 bits: digits, and in front of them a plus
sign or none. -/
def readUnsigned? (text : List Char) : Option UInt32 :=
  match scanSign? text with
  | none => if IsNumber text then read32? text else none
  | some (.plus, run) => if IsNumber run then read32? run else none
  | some (.minus, _) => none

/-- The opposite of the number that digits stand for, if it fits into a signed word of 64 bits. -/
def readOpposite64? (run : List Char) : Option Int64 :=
  if value run ≤ 9223372036854775808 then some (Int64.ofInt (-value run)) else none

/-- The integer that a text stands for, if it is one of 64 bits: digits, and in front of them a sign
or none. -/
def readSigned? (text : List Char) : Option Int64 :=
  match scanSign? text with
  | none => if IsNumber text then read64? text else none
  | some (.plus, run) => if IsNumber run then read64? run else none
  | some (.minus, run) => if IsNumber run then readOpposite64? run else none

/-- Digits have no sign in front. -/
theorem IsNumber.scanSign?_eq_none {run : List Char} (h : IsNumber run) : scanSign? run = none := by
  obtain ⟨hne, hdigits⟩ := h
  cases run with
  | nil => contradiction
  | cons c run =>
    have hc : c.isDigit = true := hdigits c List.mem_cons_self
    have hsign : Sign.ofChar? c = none := by
      rw [Option.eq_none_iff_forall_ne_some]
      intro s hs
      rw [Sign.ofChar?_eq_some_iff.mp hs] at hc
      cases s <;> contradiction
    rw [scanSign?, hsign, Option.map_none]

theorem readUnsigned?_eq {run : List Char} (h : IsNumber run) : readUnsigned? run = read32? run := by
  rw [readUnsigned?, h.scanSign?_eq_none]
  exact if_pos h

theorem readSigned?_eq {run : List Char} (h : IsNumber run) : readSigned? run = read64? run := by
  rw [readSigned?, h.scanSign?_eq_none]
  exact if_pos h

/-- What is read from digits is not negative. -/
theorem toInt_nonneg_of_read64? {run : List Char} {z : Int64} (h : read64? run = some z) :
    0 ≤ z.toInt := by
  rw [read64?_eq] at h
  by_cases hfits : value run < 9223372036854775808
  · rw [if_pos hfits] at h
    cases h
    rw [Int64.toInt_ofNat_of_lt hfits]
    exact Int.natCast_nonneg _
  · rw [if_neg hfits] at h
    contradiction

/-! ## The strict checks -/

/-- The number of a field, as `bounded` finds it, but with no way out if it does not fit where it is
kept. -/
def boundedStrictly {α : Type} (narrow? : UInt32 → Option α) (text : List Char) (most : UInt32)
    (low high : Reason) : Strict Reason α :=
  let n := (readUnsigned? text).getD 0xFFFFFFFF
  if n < 1 then throw low
  else if most < n then throw high
  else (narrow? n).elim (Strict.stopped .narrowing) pure

/-- The number of a modifier with its sign. -/
def signedStrictly (m : Modifier) : Strict Reason Int32 :=
  match readSigned? m.magnitude with
  | none => throw .modifierOutOfRange
  | some magnitude => do
    let z ← match m.sign with
      | .plus => pure magnitude
      | .minus => Strict.opposite magnitude
    (narrow32? z).elim (throw .modifierOutOfRange) pure

/-- The number of a selector among `count` dice. -/
def selectorStrictly (s : Selector) (count : UInt8) : Strict Reason Selection := do
  let number ← match s.action with
    | .keep => boundedStrictly narrow8? s.number count.toUInt32 .keepTooLow .keepTooHigh
    | .drop => do
      let most ← Strict.difference count.toUInt32 1
      boundedStrictly narrow8? s.number most .dropTooLow .dropTooHigh
  return { action := s.action, extreme := s.extreme, number }

/-- What is wrong with a field is wrong at the place of the field. -/
def located {α : Type} (place : Field → Span) (r : Except (Reason × Field) α) :
    Except (Reason × Span) α :=
  r.mapError fun fault => (fault.1, place fault.2)

namespace Expression

/-- The verdict on an expression in numbers of any size: the first check that fails, or all of the
numbers. -/
def reckon (e : Expression) : Except (Reason × Field) Numbers :=
  match e.fault? with
  | some fault => .error fault
  | none => .ok e.numbers

/-- The number of dice: one, if it is not written. -/
def countStrictly (e : Expression) : Strict Reason UInt8 :=
  if e.count.isEmpty then pure 1
  else boundedStrictly narrow8? e.count Dice.maxCount.toUInt32 .countTooLow .countTooHigh

/-- The number of sides. -/
def sidesStrictly (e : Expression) : Strict Reason UInt16 :=
  boundedStrictly narrow16? e.sides Dice.maxSides.toUInt32 .sidesTooLow .sidesTooHigh

/-- The selection among `count` dice, if one is written. -/
def selectionStrictly (e : Expression) (count : UInt8) : Strict Reason (Option Selection) :=
  match e.selector with
  | none => pure none
  | some s => do return some (← selectorStrictly s count)

/-- The modifier: zero, if it is not written. -/
def modifierStrictly (e : Expression) : Strict Reason Int32 :=
  match e.modifier with
  | none => pure 0
  | some m => signedStrictly m

/-- The dice that an expression stands for, or the first check that fails and where the number is
that fails it. -/
def checkStrictly (e : Expression) (place : Field → Span) : Strict (Reason × Span) Dice := do
  let count ← e.countStrictly.adapt (·, place .count)
  let sides ← e.sidesStrictly.adapt (·, place .sides)
  let selection ← (e.selectionStrictly count).adapt (·, place .selector)
  let modifier ← e.modifierStrictly.adapt (·, place .modifier)
  return { count, sides, modifier, selection }

end Expression

/-! ## Digits never overflow -/

theorem boundedStrictly_eq {α : Type} {narrow? : UInt32 → Option α} {run : List Char}
    {most : UInt32} (hrun : IsNumber run)
    (hnarrow : ∀ n : UInt32, n.toNat ≤ most.toNat → ∃ a, narrow? n = some a) (low high : Reason) :
    boundedStrictly narrow? run most low high =
      Strict.ended (bounded narrow? run most low high) := by
  have hread : (readUnsigned? run).getD 0xFFFFFFFF = read32 run := by
    rw [readUnsigned?_eq hrun, read32]
  simp only [boundedStrictly, bounded, hread]
  by_cases hlow : read32 run < 1
  · rw [if_pos hlow, if_pos hlow]
    rfl
  · by_cases hhigh : most < read32 run
    · rw [if_neg hlow, if_neg hlow, if_pos hhigh, if_pos hhigh]
      rfl
    · -- within bounds, the number fits into the narrower word
      obtain ⟨a, ha⟩ := hnarrow (read32 run)
        (UInt32.le_iff_toNat_le.mp (UInt32.not_lt.mp hhigh))
      rw [if_neg hlow, if_neg hlow, if_neg hhigh, if_neg hhigh, ha]
      rfl

theorem boundedStrictly8_eq {run : List Char} {most : UInt32} (hrun : IsNumber run)
    (hmost : most.toNat ≤ 255) (low high : Reason) :
    boundedStrictly narrow8? run most low high =
      Strict.ended (bounded narrow8? run most low high) :=
  boundedStrictly_eq hrun (fun _ hn => ⟨_, narrow8?_eq (Nat.le_trans hn hmost)⟩) low high

theorem signedStrictly_eq {m : Modifier} (hm : IsNumber m.magnitude) :
    signedStrictly m = Strict.ended ((signed? m).elim (.error .modifierOutOfRange) .ok) := by
  rw [signedStrictly, signed?, readSigned?_eq hm]
  cases hread : read64? m.magnitude with
  | none => rfl
  | some magnitude =>
    obtain ⟨sign, run⟩ := m
    cases sign with
    | plus => exact Strict.elim_throw _ (narrow32? magnitude)
    | minus =>
      simp only [Strict.opposite_bind (toInt_nonneg_of_read64? hread)]
      exact Strict.elim_throw _ (narrow32? (-magnitude))

/-- With a sign in front of its digits, the least integer is read and would be negated. -/
example : (signedStrictly ⟨.minus, "-9223372036854775808".toList⟩).run = .error .opposite := by rfl

/-- The strict check of a selector ends if there is at least one die: one can then be subtracted
from their number. -/
theorem selectorStrictly_eq {s : Selector} (hs : IsNumber s.number) {count : UInt8}
    (hcount : 1 ≤ count.toNat) :
    selectorStrictly s count = Strict.ended (checkSelector s count) := by
  have hword : count.toUInt32.toNat = count.toNat := UInt8.toNat_toUInt32 count
  have hlt : count.toNat < 256 := count.toNat_lt_size
  obtain ⟨action, extreme, run⟩ := s
  cases action with
  | keep =>
    simp only [selectorStrictly]
    rw [boundedStrictly8_eq hs (by omega)]
    exact Strict.ended_bind fun _ _ => rfl
  | drop =>
    have hle : 1 ≤ count.toUInt32 := by
      rw [UInt32.le_iff_toNat_le, hword]
      exact hcount
    have hpred : (count.toUInt32 - 1).toNat ≤ 255 := by
      rw [UInt32.toNat_sub_of_le _ _ hle, hword]
      omega
    simp only [selectorStrictly, Strict.difference_bind hle]
    rw [boundedStrictly8_eq hs hpred]
    exact Strict.ended_bind fun _ _ => rfl

namespace Expression

variable {e : Expression}

theorem WellFormed.countStrictly_eq (he : e.WellFormed) :
    e.countStrictly = Strict.ended e.checkCount := by
  unfold countStrictly checkCount
  by_cases h : e.count.isEmpty = true
  · rw [if_pos h, if_pos h]
    rfl
  · rw [if_neg h, if_neg h]
    exact boundedStrictly8_eq ⟨fun hnil => h (List.isEmpty_iff.mpr hnil), he.count⟩ (by decide) _ _

theorem WellFormed.sidesStrictly_eq (he : e.WellFormed) :
    e.sidesStrictly = Strict.ended e.checkSides :=
  boundedStrictly_eq he.sides
    (fun _ hn => ⟨_, narrow16?_eq (Nat.le_trans hn (by decide))⟩) _ _

theorem WellFormed.selectionStrictly_eq (he : e.WellFormed) {count : UInt8}
    (hcount : 1 ≤ count.toNat) :
    e.selectionStrictly count = Strict.ended (e.checkSelection count) := by
  unfold selectionStrictly checkSelection
  cases hs : e.selector with
  | none => rfl
  | some s =>
    show (selectorStrictly s count >>= fun x => pure (some x)) =
      Strict.ended ((checkSelector s count).map some)
    rw [selectorStrictly_eq (he.selector s hs) hcount]
    cases checkSelector s count <;> rfl

theorem WellFormed.modifierStrictly_eq (he : e.WellFormed) :
    e.modifierStrictly = Strict.ended e.checkModifier := by
  unfold modifierStrictly checkModifier
  cases hm : e.modifier with
  | none => rfl
  | some m => exact signedStrictly_eq (he.modifier m hm)

/-- A number of dice that passes its checks is not zero. -/
theorem one_le_of_checkCount_eq_ok {count : UInt8} (h : e.checkCount = .ok count) :
    1 ≤ count.toNat := by
  rw [checkCount_eq] at h
  by_cases hlow : e.countValue = 0
  · rw [if_pos hlow] at h
    contradiction
  · by_cases hhigh : 100 < e.countValue
    · rw [if_neg hlow, if_pos hhigh] at h
      contradiction
    · rw [if_neg hlow, if_neg hhigh] at h
      cases h
      rw [UInt8.toNat_ofNat_of_lt' (Nat.lt_of_le_of_lt (Nat.not_lt.mp hhigh) (by decide))]
      exact Nat.pos_of_ne_zero hlow

/-- A strict check that ends goes on as the check does, with the place of its field. -/
theorem located_bind {α β : Type} {place : Field → Span} {f : Field} {x : Strict Reason α}
    {r : Except Reason α} (hx : x = Strict.ended r) {g : α → Strict (Reason × Span) β}
    {k : α → Except (Reason × Field) β}
    (hg : ∀ a, r = .ok a → g a = Strict.ended (located place (k a))) :
    x.adapt (·, place f) >>= g = Strict.ended (located place (blame f r >>= k)) := by
  subst hx
  cases r with
  | error reason => rfl
  | ok a => exact hg a rfl

/-- The strict checks of digits end, and with what the checks find. -/
theorem WellFormed.checkStrictly_eq (he : e.WellFormed) (place : Field → Span) :
    e.checkStrictly place = Strict.ended (located place e.check) := by
  refine located_bind he.countStrictly_eq fun count hcount => ?_
  refine located_bind he.sidesStrictly_eq fun sides _ => ?_
  -- a selector is checked only against a count that has passed its own checks
  refine located_bind
    (he.selectionStrictly_eq (one_le_of_checkCount_eq_ok hcount)) fun selection _ => ?_
  exact located_bind he.modifierStrictly_eq fun modifier _ => rfl

/-- The numbers of the dice are those that are written, whatever their size. -/
theorem map_numbers_check (e : Expression) : e.check.map Dice.numbers = e.reckon := by
  rw [check_eq_judge, judge, reckon]
  cases hfault : e.fault? with
  | some fault => rfl
  | none =>
    show Except.ok e.dice.numbers = _
    rw [numbers_dice (not_fails_of_fault?_eq_none hfault)]

/-- **The width of words makes no difference.**  Whatever the digits of an expression and wherever
they are, the strict checks end without an overflow and with what the checks find; and this is the
verdict in numbers of any size: the same reason at the same place, or dice that hold just the
numbers that are written. -/
theorem checkStrictly_eq_reckon {e : Expression} (he : e.WellFormed) (place : Field → Span) :
    (e.checkStrictly place).run = .ok (located place e.check) ∧
      (located place e.check).map Dice.numbers = located place e.reckon := by
  refine ⟨he.checkStrictly_eq place, ?_⟩
  rw [← map_numbers_check]
  cases e.check with
  | error fault => rfl
  | ok dice => rfl

/-- Each number is the last that passes its checks, behind more zeros than a word has digits. -/
def lastNumbers : Expression where
  count := "000000000000100".toList
  sides := "000000000001000".toList
  selector := some ⟨.drop, .lowest, "000000000099".toList⟩
  modifier := some ⟨.minus, "000000000000000000002147483648".toList⟩

/-- One is subtracted from the count and the modifier is negated, and both stay in range. -/
theorem checkStrictly_eq_reckon_of_lastNumbers :
    lastNumbers.WellFormed ∧
      (lastNumbers.checkStrictly lastNumbers.span).run =
        .ok (.ok ⟨100, 1000, -2147483648, some ⟨.drop, .lowest, 99⟩⟩) ∧
      located lastNumbers.span lastNumbers.reckon =
        .ok ⟨100, 1000, some (.drop, .lowest, 99), -2147483648⟩ := by
  have hcount : IsNumber lastNumbers.count := by decide
  have he : lastNumbers.WellFormed :=
    { count := hcount.2
      sides := by decide
      selector := fun s hs => by
        cases hs
        decide
      modifier := fun m hm => by
        cases hm
        decide }
  have hcheck : lastNumbers.check = .ok ⟨100, 1000, -2147483648, some ⟨.drop, .lowest, 99⟩⟩ := by
    rfl
  obtain ⟨hends, hreckon⟩ := checkStrictly_eq_reckon he lastNumbers.span
  rw [hcheck] at hends hreckon
  exact ⟨he, hends, hreckon.symm⟩

end Expression
end TabletopDice
