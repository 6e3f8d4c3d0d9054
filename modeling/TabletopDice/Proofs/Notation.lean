import TabletopDice.Proofs.Parsing

/-! # Dice as they are written

`Dice.expression` is the expression that dice are printed as.  It gives the
numbers of the dice (`Dice.numbers_expression`), and the printed dice spell it
(`Dice.spells_toString`), so what comes of reading them again is known from
their numbers alone.
-/
namespace TabletopDice

/-- The selector that a selection is written as. -/
def Selection.selector (s : Selection) : Selector where
  action := s.action
  extreme := s.extreme
  number := decimal s.number.toNat

namespace Dice

/-- The modifier with its sign as it is written, none if it is zero. -/
def writtenModifier (d : Dice) : Option Modifier :=
  if d.modifier.toInt = 0 then none
  else if d.modifier.toInt < 0 then some ⟨.minus, decimal d.modifier.toInt.natAbs⟩
  else some ⟨.plus, decimal d.modifier.toInt.natAbs⟩

/-- The expression that dice are written as. -/
def expression (d : Dice) : Expression where
  count := decimal d.count.toNat
  sides := decimal d.sides.toNat
  selector := d.selection.map Selection.selector
  modifier := d.writtenModifier

theorem selectionText_eq (d : Dice) :
    d.selectionText = d.expression.keyword ++ d.expression.digits .selector := by
  unfold selectionText Expression.keyword Expression.digits expression
  cases d.selection with
  | none => rfl
  | some s => rfl

theorem modifierText_eq (d : Dice) :
    d.modifierText = d.expression.signText ++ d.expression.digits .modifier := by
  unfold modifierText Expression.signText Expression.digits expression writtenModifier
  split
  · rfl
  · split <;> rfl

/-- Dice are written as their expression. -/
theorem text_expression (d : Dice) : d.expression.text = d.text := by
  rw [text, selectionText_eq, modifierText_eq]
  simp [Expression.text, expression]

theorem wellFormed_expression (d : Dice) : d.expression.WellFormed where
  count := (isNumber_decimal _).2
  sides := isNumber_decimal _
  selector := by
    intro s hs
    obtain ⟨s', -, rfl⟩ := Option.map_eq_some_iff.mp (Option.mem_def.mp hs)
    exact isNumber_decimal _
  modifier := by
    intro m hm
    have hm' : d.writtenModifier = some m := hm
    unfold writtenModifier at hm'
    split at hm'
    · contradiction
    · split at hm' <;> cases hm' <;> exact isNumber_decimal _

theorem modifierValue_expression (d : Dice) : d.expression.modifierValue = d.modifier.toInt := by
  by_cases hzero : d.modifier.toInt = 0
  · have hnone : d.expression.modifier = none := if_pos hzero
    rw [Expression.modifierValue, hnone, hzero]
  · by_cases hneg : d.modifier.toInt < 0
    · have hminus : d.expression.modifier = some ⟨.minus, decimal d.modifier.toInt.natAbs⟩ :=
        (if_neg hzero).trans (if_pos hneg)
      rw [d.expression.modifierValue_of_some hminus]
      show -(value (decimal d.modifier.toInt.natAbs) : Int) = d.modifier.toInt
      rw [value_decimal]
      omega
    · have hplus : d.expression.modifier = some ⟨.plus, decimal d.modifier.toInt.natAbs⟩ :=
        (if_neg hzero).trans (if_neg hneg)
      rw [d.expression.modifierValue_of_some hplus]
      show (value (decimal d.modifier.toInt.natAbs) : Int) = d.modifier.toInt
      rw [value_decimal]
      omega

/-- The expression of dice gives the numbers of the dice. -/
theorem numbers_expression (d : Dice) : d.expression.numbers = d.numbers := by
  have hcount : d.expression.countValue = d.count.toNat := by
    have hne : d.expression.count.isEmpty = false :=
      List.isEmpty_eq_false_iff.mpr (isNumber_decimal d.count.toNat).1
    rw [Expression.countValue, hne]
    exact value_decimal _
  have hsides : value d.expression.sides = d.sides.toNat := value_decimal _
  have hselection : d.expression.numbers.selection = d.numbers.selection := by
    unfold Expression.numbers Dice.numbers expression
    cases d.selection with
    | none => rfl
    | some s => simp only [Option.map_some, Selection.selector, value_decimal]
  rw [Expression.numbers, Dice.numbers, Numbers.mk.injEq]
  exact ⟨hcount, hsides, hselection, d.modifierValue_expression⟩

/-- Other dice are written in another way. -/
theorem text_injective {d d' : Dice} (h : d.text = d'.text) : d = d' := by
  rw [← text_expression, ← text_expression] at h
  have he := Expression.text_injective d.wellFormed_expression d'.wellFormed_expression h
  apply numbers_injective
  rw [← numbers_expression, he, numbers_expression]

theorem toString_inj {d d' : Dice} : toString d = toString d' ↔ d = d' :=
  ⟨fun h => text_injective (String.ofList_injective h), congrArg toString⟩

/-- Printed dice spell their expression: there is no blank to trim and no capital letter. -/
theorem spells_toString (d : Dice) : Spells (toString d) d.expression := by
  have hwf := d.wellFormed_expression
  have htext : (toString d).toList = d.expression.text := by
    rw [text_expression]
    exact String.toList_ofList
  exact ⟨hwf, [], d.expression.text, [], List.forall_mem_nil _, sameLetters_iff.mpr rfl,
    List.forall_mem_nil _, by rw [htext, List.nil_append, List.append_nil]⟩

/-- **Dice can be read back exactly if they are within the limits.**  The printed dice are then read
as these very dice, whatever they are.  Otherwise they are rejected for the first of their numbers
that is out of bounds: of the count, the sides and the selection, in this order. -/
theorem parse_toString (d : Dice) :
    (parse (toString d) = .ok d ↔ d.Legal) ∧
      (¬d.Legal → ∃ r, parse (toString d) = .error r ∧ d.numbers.FirstFails r.reason ∧
        r.reason ≠ .empty ∧ r.reason ≠ .invalid ∧ r.reason ≠ .modifierOutOfRange) := by
  have hspells := d.spells_toString
  have hok : ∀ d', parse (toString d) = .ok d' ↔ d.numbers = d'.numbers ∧ d'.Legal := by
    intro d'
    rw [hspells.parse_eq_ok_iff, numbers_expression]
  refine ⟨⟨fun h => ((hok d).mp h).2, fun h => (hok d).mpr ⟨rfl, h⟩⟩, fun hlegal => ?_⟩
  cases hparse : parse (toString d) with
  | ok d' =>
    obtain ⟨hnumbers, hlegal'⟩ := (hok d').mp hparse
    rw [numbers_injective hnumbers] at hlegal
    contradiction
  | error r =>
    obtain ⟨-, hfirst, -⟩ := hspells.of_parse_eq_error hparse
    rw [numbers_expression] at hfirst
    refine ⟨r, rfl, hfirst, hfirst.ne_empty, hfirst.ne_invalid, fun hr => ?_⟩
    have hfails := hfirst.fails
    rw [hr] at hfails
    exact d.not_fails_modifierOutOfRange hfails

end Dice
end TabletopDice
