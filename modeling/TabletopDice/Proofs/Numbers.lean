import TabletopDice.Parse

/-! # Numbers out of bounds

What dice and what an expression say, as plain numbers: `Numbers` may be of any
size, within the limits or not.  `Numbers.Fails` states the nine checks, each by
itself, and `Numbers.FirstFails` picks the one that is reported.  The verdict on
an expression (`Expression.judge`) follows: it finds the first check that fails
(`firstFails_of_fault?`), and if there is none, the dice with the same numbers
(`judge_eq_ok_iff`).
-/
namespace TabletopDice

/-- What some dice are made of, as numbers of any size. -/
structure Numbers where
  count : Nat
  sides : Nat
  /-- The kind of the selection and its number, if there is a selection. -/
  selection : Option (Action × Extreme × Nat)
  modifier : Int

/-- The numbers that an expression gives. -/
def Expression.numbers (e : Expression) : Numbers where
  count := e.countValue
  sides := value e.sides
  selection := e.selector.map fun s => (s.action, s.extreme, value s.number)
  modifier := e.modifierValue

/-- The numbers that dice hold. -/
def Dice.numbers (d : Dice) : Numbers where
  count := d.count.toNat
  sides := d.sides.toNat
  selection := d.selection.map fun s => (s.action, s.extreme, s.number.toNat)
  modifier := d.modifier.toInt

/-- The number that a reason finds fault with. -/
def Reason.field? : Reason → Option Field
  | empty | invalid => none
  | countTooLow | countTooHigh => some .count
  | sidesTooLow | sidesTooHigh => some .sides
  | keepTooLow | keepTooHigh | dropTooLow | dropTooHigh => some .selector
  | modifierOutOfRange => some .modifier

namespace Numbers

/-- The numbers fail a check. -/
def Fails (m : Numbers) : Reason → Prop
  | .empty | .invalid => False
  | .countTooLow => m.count = 0
  | .countTooHigh => 100 < m.count
  | .sidesTooLow => m.sides = 0
  | .sidesTooHigh => 1000 < m.sides
  | .keepTooLow => ∃ x, m.selection = some (.keep, x, 0)
  | .keepTooHigh => ∃ x n, m.selection = some (.keep, x, n) ∧ m.count < n
  | .dropTooLow => ∃ x, m.selection = some (.drop, x, 0)
  | .dropTooHigh => ∃ x n, m.selection = some (.drop, x, n) ∧ m.count ≤ n
  | .modifierOutOfRange => m.modifier < -2147483648 ∨ 2147483647 < m.modifier

/-- The checks of the count and the sides, in the order in which they are made. -/
def sizeChecks : List Reason := [.countTooLow, .countTooHigh, .sidesTooLow, .sidesTooHigh]

/-- The checks of a selection, in the order in which they are made. -/
def selectionChecks : List Reason := [.keepTooLow, .keepTooHigh, .dropTooLow, .dropTooHigh]

/-- All checks, in the order in which they are made. -/
def checks : List Reason := sizeChecks ++ selectionChecks ++ [.modifierOutOfRange]

/-- The check is the first that the numbers fail. -/
def FirstFails (m : Numbers) (reason : Reason) : Prop :=
  ∃ before after, checks = before ++ reason :: after ∧ m.Fails reason ∧
    ∀ earlier ∈ before, ¬m.Fails earlier

variable {m : Numbers}

theorem FirstFails.fails {reason : Reason} (h : m.FirstFails reason) : m.Fails reason := by
  obtain ⟨-, -, -, hfails, -⟩ := h
  exact hfails

theorem FirstFails.ne_empty {reason : Reason} (h : m.FirstFails reason) : reason ≠ .empty := by
  rintro rfl
  exact h.fails

theorem FirstFails.ne_invalid {reason : Reason} (h : m.FirstFails reason) : reason ≠ .invalid := by
  rintro rfl
  exact h.fails

end Numbers

/-! ## Dice by their numbers -/

namespace Dice

theorem numbers_injective {d d' : Dice} (h : d.numbers = d'.numbers) : d = d' := by
  obtain ⟨count, sides, modifier, selection⟩ := d
  obtain ⟨count', sides', modifier', selection'⟩ := d'
  simp only [numbers, Numbers.mk.injEq] at h
  obtain ⟨hcount, hsides, hselection, hmodifier⟩ := h
  have hinj : Function.Injective fun s : Selection => (s.action, s.extreme, s.number.toNat) := by
    rintro ⟨a, x, n⟩ ⟨a', x', n'⟩ hs
    simp only [Prod.mk.injEq, UInt8.toNat_inj] at hs
    obtain ⟨rfl, rfl, rfl⟩ := hs
    rfl
  rw [UInt8.toNat_inj.mp hcount, UInt16.toNat_inj.mp hsides, Int32.toInt_inj.mp hmodifier,
    Option.map_injective hinj hselection]

theorem numbers_selection_eq_some {d : Dice} {a : Action} {x : Extreme} {n : Nat}
    (h : d.numbers.selection = some (a, x, n)) :
    ∃ s ∈ d.selection, s.action = a ∧ s.number.toNat = n := by
  obtain ⟨s, hs, hsn⟩ := Option.map_eq_some_iff.mp h
  simp only [Prod.mk.injEq] at hsn
  exact ⟨s, hs, hsn.1, hsn.2.2⟩

/-- A modifier that fits into 32 bits cannot be out of range. -/
theorem not_fails_modifierOutOfRange (d : Dice) : ¬d.numbers.Fails .modifierOutOfRange := by
  have hlow : -2147483648 ≤ d.numbers.modifier := Int32.le_toInt d.modifier
  have hhigh : d.numbers.modifier ≤ 2147483647 := Int32.toInt_le d.modifier
  simp only [Numbers.Fails]
  omega

/-- Dice are within the limits iff their numbers fail no check. -/
theorem legal_iff {d : Dice} : d.Legal ↔ ∀ reason, ¬d.numbers.Fails reason := by
  constructor
  · intro h reason hfails
    have hcount : 1 ≤ d.numbers.count ∧ d.numbers.count ≤ 100 := h.count
    have hsides : 1 ≤ d.numbers.sides ∧ d.numbers.sides ≤ 1000 := h.sides
    cases reason with
    | empty | invalid => exact hfails
    | countTooLow | countTooHigh | sidesTooLow | sidesTooHigh =>
      simp only [Numbers.Fails] at hfails
      omega
    | modifierOutOfRange => exact d.not_fails_modifierOutOfRange hfails
    | keepTooLow | dropTooLow =>
      obtain ⟨x, hx⟩ := hfails
      obtain ⟨s, hs, -, hn⟩ := numbers_selection_eq_some hx
      have hfits := (h.selection s hs).1
      omega
    | keepTooHigh =>
      obtain ⟨x, n, hx, hn⟩ := hfails
      obtain ⟨s, hs, ha, rfl⟩ := numbers_selection_eq_some hx
      have hfits := (h.selection s hs).2
      rw [ha] at hfits
      exact Nat.not_lt.mpr hfits hn
    | dropTooHigh =>
      obtain ⟨x, n, hx, hn⟩ := hfails
      obtain ⟨s, hs, ha, rfl⟩ := numbers_selection_eq_some hx
      have hfits := (h.selection s hs).2
      rw [ha] at hfits
      exact Nat.not_le.mpr hfits hn
  · intro h
    refine ⟨?_, ?_, ?_⟩
    · have hlow := h .countTooLow
      have hhigh := h .countTooHigh
      simp only [Numbers.Fails, numbers] at hlow hhigh
      omega
    · have hlow := h .sidesTooLow
      have hhigh := h .sidesTooHigh
      simp only [Numbers.Fails, numbers] at hlow hhigh
      omega
    · intro s hs
      have hsel : d.numbers.selection = some (s.action, s.extreme, s.number.toNat) := by
        rw [numbers, Option.mem_def.mp hs]
        rfl
      unfold Selection.Fits
      cases ha : s.action with
      | keep =>
        rw [ha] at hsel
        refine ⟨Nat.pos_of_ne_zero fun h₀ => h .keepTooLow ⟨s.extreme, h₀ ▸ hsel⟩, ?_⟩
        exact Nat.not_lt.mp fun hn => h .keepTooHigh ⟨s.extreme, _, hsel, hn⟩
      | drop =>
        rw [ha] at hsel
        refine ⟨Nat.pos_of_ne_zero fun h₀ => h .dropTooLow ⟨s.extreme, h₀ ▸ hsel⟩, ?_⟩
        exact Nat.not_le.mp fun hn => h .dropTooHigh ⟨s.extreme, _, hsel, hn⟩

end Dice

/-! ## Expressions by their numbers -/

namespace Expression

variable {e : Expression}

theorem numbers_selection_of_some {s : Selector} (h : e.selector = some s) :
    e.numbers.selection = some (s.action, s.extreme, value s.number) := by
  rw [numbers, h]
  rfl

/-- The fault of a selector is the first of the checks of a selection that fails, and without one
they all pass. -/
theorem selectorFault?_spec (hsize : ∀ earlier ∈ Numbers.sizeChecks, ¬e.numbers.Fails earlier) :
    match e.selector.bind (selectorFault? · e.countValue) with
    | some reason => e.numbers.FirstFails reason ∧ reason.field? = some .selector
    | none => ∀ reason ∈ Numbers.selectionChecks, ¬e.numbers.Fails reason := by
  have hcount : e.numbers.count = e.countValue := rfl
  cases hs : e.selector with
  | none =>
    have hsel : e.numbers.selection = none := by rw [numbers, hs, Option.map_none]
    simp [Numbers.selectionChecks, Numbers.Fails, hsel]
  | some s =>
    have hsel := numbers_selection_of_some hs
    obtain ⟨action, extreme, run⟩ := s
    cases action with
    | keep =>
      simp only [Option.bind_some, selectorFault?]
      by_cases h₀ : value run = 0
      · rw [if_pos h₀]
        exact ⟨⟨Numbers.sizeChecks, _, rfl, ⟨extreme, h₀ ▸ hsel⟩, hsize⟩, rfl⟩
      by_cases h₁ : e.countValue < value run
      · rw [if_neg h₀, if_pos h₁]
        refine ⟨⟨Numbers.sizeChecks ++ [.keepTooLow], _, rfl, ⟨extreme, _, hsel, h₁⟩, ?_⟩, rfl⟩
        refine List.forall_mem_append.mpr ⟨hsize, ?_⟩
        simp [Numbers.Fails, hsel, h₀]
      rw [if_neg h₀, if_neg h₁]
      simpa [Numbers.selectionChecks, Numbers.Fails, hsel, h₀, hcount] using h₁
    | drop =>
      -- the checks of a keep are in front, and a drop fails none of them
      simp only [Option.bind_some, selectorFault?]
      by_cases h₀ : value run = 0
      · rw [if_pos h₀]
        refine ⟨⟨Numbers.sizeChecks ++ [.keepTooLow, .keepTooHigh], _, rfl,
          ⟨extreme, h₀ ▸ hsel⟩, ?_⟩, rfl⟩
        refine List.forall_mem_append.mpr ⟨hsize, ?_⟩
        simp [Numbers.Fails, hsel]
      by_cases h₁ : e.countValue ≤ value run
      · rw [if_neg h₀, if_pos h₁]
        refine ⟨⟨Numbers.sizeChecks ++ [.keepTooLow, .keepTooHigh, .dropTooLow], _, rfl,
          ⟨extreme, _, hsel, h₁⟩, ?_⟩, rfl⟩
        refine List.forall_mem_append.mpr ⟨hsize, ?_⟩
        simp [Numbers.Fails, hsel, h₀]
      rw [if_neg h₀, if_neg h₁]
      simpa [Numbers.selectionChecks, Numbers.Fails, hsel, h₀, hcount] using h₁

/-- The fault of an expression is the first check that its numbers fail, and without one they fail
none. -/
theorem fault?_spec :
    match e.fault? with
    | some (reason, f) => e.numbers.FirstFails reason ∧ reason.field? = some f
    | none => ∀ reason, ¬e.numbers.Fails reason := by
  -- a check is reached once those in front of it have passed
  unfold fault?
  by_cases h₁ : e.countValue = 0
  · rw [if_pos h₁]
    exact ⟨⟨[], _, rfl, h₁, nofun⟩, rfl⟩
  by_cases h₂ : 100 < e.countValue
  · rw [if_neg h₁, if_pos h₂]
    refine ⟨⟨[.countTooLow], _, rfl, h₂, ?_⟩, rfl⟩
    simpa [Numbers.Fails, numbers] using h₁
  by_cases h₃ : value e.sides = 0
  · rw [if_neg h₁, if_neg h₂, if_pos h₃]
    refine ⟨⟨[.countTooLow, .countTooHigh], _, rfl, h₃, ?_⟩, rfl⟩
    simpa [Numbers.Fails, numbers] using ⟨h₁, Nat.not_lt.mp h₂⟩
  by_cases h₄ : 1000 < value e.sides
  · rw [if_neg h₁, if_neg h₂, if_neg h₃, if_pos h₄]
    refine ⟨⟨[.countTooLow, .countTooHigh, .sidesTooLow], _, rfl, h₄, ?_⟩, rfl⟩
    simpa [Numbers.Fails, numbers] using ⟨h₁, Nat.not_lt.mp h₂, h₃⟩
  rw [if_neg h₁, if_neg h₂, if_neg h₃, if_neg h₄]
  have hsize : ∀ earlier ∈ Numbers.sizeChecks, ¬e.numbers.Fails earlier := by
    simpa [Numbers.sizeChecks, Numbers.Fails, numbers] using
      ⟨h₁, Nat.not_lt.mp h₂, h₃, Nat.not_lt.mp h₄⟩
  have hselection := selectorFault?_spec hsize
  cases hs : e.selector.bind (selectorFault? · e.countValue) with
  | some reason =>
    rw [hs] at hselection
    exact hselection
  | none =>
    rw [hs] at hselection
    by_cases h₅ : -2147483648 ≤ e.modifierValue ∧ e.modifierValue ≤ 2147483647
    · simp only [if_pos h₅]
      intro reason
      cases reason with
      | empty | invalid => exact id
      | countTooLow | countTooHigh | sidesTooLow | sidesTooHigh => exact hsize _ (by decide)
      | keepTooLow | keepTooHigh | dropTooLow | dropTooHigh => exact hselection _ (by decide)
      | modifierOutOfRange =>
        simp only [Numbers.Fails, numbers]
        omega
    · simp only [if_neg h₅]
      refine ⟨⟨Numbers.sizeChecks ++ Numbers.selectionChecks, _, rfl, ?_, ?_⟩, rfl⟩
      · simp only [Numbers.Fails, numbers]
        omega
      · exact List.forall_mem_append.mpr ⟨hsize, hselection⟩

theorem firstFails_of_fault? {reason : Reason} {f : Field} (h : e.fault? = some (reason, f)) :
    e.numbers.FirstFails reason ∧ reason.field? = some f := by
  have hspec := e.fault?_spec
  rw [h] at hspec
  exact hspec

theorem not_fails_of_fault?_eq_none (h : e.fault? = none) (reason : Reason) :
    ¬e.numbers.Fails reason := by
  have hspec := e.fault?_spec
  rw [h] at hspec
  exact hspec reason

/-- An expression has no fault iff its numbers fail no check. -/
theorem fault?_eq_none_iff : e.fault? = none ↔ ∀ reason, ¬e.numbers.Fails reason := by
  refine ⟨not_fails_of_fault?_eq_none, fun h => ?_⟩
  rw [Option.eq_none_iff_forall_ne_some]
  rintro ⟨reason, f⟩ hfault
  exact h reason (firstFails_of_fault? hfault).1.fails

/-- A selection that fails no check names no more dice than there are. -/
theorem selector_le_count (h : ∀ reason, ¬e.numbers.Fails reason) {s : Selector}
    (hs : e.selector = some s) : value s.number ≤ e.countValue := by
  have hsel := numbers_selection_of_some hs
  cases ha : s.action with
  | keep =>
    rw [ha] at hsel
    exact Nat.not_lt.mp fun hlt => h .keepTooHigh ⟨s.extreme, _, hsel, hlt⟩
  | drop =>
    rw [ha] at hsel
    exact Nat.not_lt.mp fun hlt => h .dropTooHigh ⟨s.extreme, _, hsel, Nat.le_of_lt hlt⟩

/-- Numbers that fail no check fit into the words that dice keep them in. -/
theorem numbers_dice (h : ∀ reason, ¬e.numbers.Fails reason) : e.dice.numbers = e.numbers := by
  have hle : e.countValue ≤ 100 := Nat.not_lt.mp (h .countTooHigh)
  have hcount : (UInt8.ofNat e.countValue).toNat = e.countValue :=
    UInt8.toNat_ofNat_of_lt' (Nat.lt_of_le_of_lt hle (by decide))
  have hsides : (UInt16.ofNat (value e.sides)).toNat = value e.sides :=
    UInt16.toNat_ofNat_of_lt'
      (Nat.lt_of_le_of_lt (Nat.not_lt.mp (h .sidesTooHigh)) (by decide))
  have hmodifier : (Int32.ofInt e.modifierValue).toInt = e.modifierValue := by
    have hrange := h .modifierOutOfRange
    simp only [Numbers.Fails, numbers] at hrange
    exact Int32.toInt_ofInt_of_le (by omega) (by omega)
  have hselection : e.dice.numbers.selection = e.numbers.selection := by
    cases hs : e.selector with
    | none => simp only [dice, Dice.numbers, numbers, hs, Option.map_none]
    | some s =>
      have hn : (UInt8.ofNat (value s.number)).toNat = value s.number :=
        UInt8.toNat_ofNat_of_lt'
          (Nat.lt_of_le_of_lt (Nat.le_trans (selector_le_count h hs) hle) (by decide))
      simp only [dice, Dice.numbers, numbers, hs, Option.map_some, hn]
  rw [Dice.numbers, numbers, Numbers.mk.injEq]
  exact ⟨hcount, hsides, hselection, hmodifier⟩

/-- **The verdict on an expression.**  It is the dice with the same numbers, which must be within
the limits. -/
theorem judge_eq_ok_iff {d : Dice} : e.judge = .ok d ↔ e.numbers = d.numbers ∧ d.Legal := by
  rw [Dice.legal_iff, judge]
  constructor
  · intro h
    split at h
    · contradiction
    · rename_i hnone
      cases h
      have hpass := fault?_eq_none_iff.mp hnone
      rw [numbers_dice hpass]
      exact ⟨rfl, hpass⟩
  · rintro ⟨hnumbers, hpass⟩
    rw [← hnumbers] at hpass
    have hdice : e.dice = d := Dice.numbers_injective ((numbers_dice hpass).trans hnumbers)
    rw [fault?_eq_none_iff.mpr hpass, hdice]

theorem firstFails_of_judge {reason : Reason} {f : Field} (h : e.judge = .error (reason, f)) :
    e.numbers.FirstFails reason ∧ reason.field? = some f := by
  unfold judge at h
  split at h
  · rename_i hfault
    cases h
    exact firstFails_of_fault? hfault
  · contradiction

end Expression
end TabletopDice
