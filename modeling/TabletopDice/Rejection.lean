import TabletopDice.Characters
import TabletopDice.Dice

/-! # Rejections

Why a text is not accepted as dice: the first check that fails, and the part of
the text that fails it.
-/
namespace TabletopDice

/-- The checks that a text can fail. -/
inductive Reason where
  /-- There is nothing but blanks. -/
  | empty
  /-- The text is not in the grammar. -/
  | invalid
  /-- The count is zero. -/
  | countTooLow
  /-- The count is over the limit. -/
  | countTooHigh
  /-- The number of sides is zero. -/
  | sidesTooLow
  /-- The number of sides is over the limit. -/
  | sidesTooHigh
  /-- No dice would be kept. -/
  | keepTooLow
  /-- More dice would be kept than there are. -/
  | keepTooHigh
  /-- No dice would be dropped. -/
  | dropTooLow
  /-- All of the dice would be dropped. -/
  | dropTooHigh
  /-- The modifier needs more than 32 bits. -/
  | modifierOutOfRange
  deriving DecidableEq, Repr

namespace Reason

/-- The reason in words. -/
def text : Reason → List Char
  | empty => "empty expression".toList
  | invalid =>
    ("invalid expression, expected a format like \"d20\", \"2d6+3\", \"4d6dl1\", or \"2d20kh1-1\" "
      ++ "([count]d<sides>, optionally kh/kl/dh/dl with a count, optionally +/- a modifier)").toList
  | countTooLow => "dice count must be at least 1".toList
  | countTooHigh =>
    "too many dice, maximum is ".toList ++ decimal Dice.maxCount.toNat ++ " dice".toList
  | sidesTooLow => "number of sides must be at least 1".toList
  | sidesTooHigh => "too many sides, maximum is ".toList ++ decimal Dice.maxSides.toNat
  | keepTooLow => "keep count must be at least 1".toList
  | keepTooHigh => "cannot keep more dice than rolled".toList
  | dropTooLow => "drop count must be at least 1".toList
  | dropTooHigh => "cannot drop all or more dice than rolled".toList
  | modifierOutOfRange => "modifier is out of range".toList

instance : ToString Reason := ⟨fun r => String.ofList r.text⟩

end Reason

/-- A text that was not accepted as dice. -/
structure Rejection where
  /-- The text exactly as it was given. -/
  input : String
  reason : Reason
  /-- The part of the text that the reason is about. -/
  span : Span
  deriving DecidableEq, Repr

namespace Rejection

/-- The rejection in words, on one line. -/
def text (r : Rejection) : List Char :=
  "invalid dice expression ".toList ++ quoted r.input.toList ++ [':', ' '] ++ r.reason.text

instance : ToString Rejection := ⟨fun r => String.ofList r.text⟩

end Rejection
end TabletopDice
