import TabletopDice.Text

/-! # Dice

What to roll: a number of like dice, a selection among them and a flat modifier.
The notation, such as `4d6dl1+2`, names each part once; a modifier of zero and a
missing selection are not written.  The limits hold for dice that are read from
notation, and `Dice.Legal` states them; any other value may be built directly.
-/
namespace TabletopDice

/-! ## Selections

A selection names some of the dice of a roll, counted from one end of their
ranking, and says whether those are kept or dropped: `kh3` keeps the three
highest dice, `dl1` drops the lowest.
-/

/-- What becomes of the dice that a selection names. -/
inductive Action where
  | keep
  | drop
  deriving DecidableEq, Repr

/-- The end of the ranking from which a selection counts. -/
inductive Extreme where
  | highest
  | lowest
  deriving DecidableEq, Repr

/-- A number of dice from one end of the ranking, to keep or to drop. -/
structure Selection where
  action : Action
  extreme : Extreme
  number : UInt8
  deriving DecidableEq, Repr

/-- The first letter of a selector. -/
def Action.letter : Action → Char
  | keep => 'k'
  | drop => 'd'

/-- The second letter of a selector. -/
def Extreme.letter : Extreme → Char
  | highest => 'h'
  | lowest => 'l'

/-- The action that a letter stands for. -/
def Action.ofLetter? (c : Char) : Option Action :=
  if c = 'k' then some keep else if c = 'd' then some drop else none

/-- The end of the ranking that a letter stands for. -/
def Extreme.ofLetter? (c : Char) : Option Extreme :=
  if c = 'h' then some highest else if c = 'l' then some lowest else none

theorem Action.ofLetter?_eq_some_iff {c : Char} {a : Action} :
    Action.ofLetter? c = some a ↔ c = a.letter := by
  cases a <;> simp only [Action.ofLetter?, Action.letter] <;> grind

theorem Extreme.ofLetter?_eq_some_iff {c : Char} {x : Extreme} :
    Extreme.ofLetter? c = some x ↔ c = x.letter := by
  cases x <;> simp only [Extreme.ofLetter?, Extreme.letter] <;> grind

namespace Selection

/-- The selection names the dice to keep, rather than those to drop. -/
def isKeep (s : Selection) : Bool := s.action = .keep

/-- The selection counts from the highest die downwards. -/
def isHigh (s : Selection) : Bool := s.extreme = .highest

/-- The two letters that stand for the kind of a selection. -/
def symbol (s : Selection) : List Char := [s.action.letter, s.extreme.letter]

/-- The selection in notation: its two letters and its number. -/
def text (s : Selection) : List Char := s.symbol ++ decimal s.number.toNat

instance : ToString Selection := ⟨fun s => String.ofList s.text⟩

/-- The selection names at least one of `count` dice and leaves at least one. -/
def Fits (s : Selection) (count : UInt8) : Prop :=
  1 ≤ s.number.toNat ∧
    match s.action with
    | .keep => s.number.toNat ≤ count.toNat
    | .drop => s.number.toNat < count.toNat

instance (s : Selection) (count : UInt8) : Decidable (s.Fits count) := by
  unfold Fits
  cases s.action <;> infer_instance

end Selection

/-! ## Dice with their selection -/

/-- A number of dice with like sides, rolled together. -/
structure Dice where
  /-- How many dice to roll. -/
  count : UInt8
  /-- How many sides each die has. -/
  sides : UInt16
  /-- What is added to the sum of the kept dice. -/
  modifier : Int32 := 0
  /-- Which dice to keep, if not all of them. -/
  selection : Option Selection := none
  deriving DecidableEq, Repr

namespace Dice

/-- The most dice that notation may ask for. -/
def maxCount : UInt8 := 100

/-- The most sides that notation may give a die. -/
def maxSides : UInt16 := 1000

/-- A single twenty-sided die. -/
def standard : Dice := { count := 1, sides := 20 }

instance : Inhabited Dice := ⟨standard⟩

/-- The same dice without their selection and modifier. -/
def plain (d : Dice) : Dice := { count := d.count, sides := d.sides }

/-- The dice leave nothing to chance: each has a single side. -/
def isDeterministic (d : Dice) : Bool := d.sides = 1

/-- The selection in notation, if there is one. -/
def selectionText (d : Dice) : List Char := d.selection.elim [] Selection.text

/-- The modifier in notation, behind its sign; a modifier of zero is not written. -/
def modifierText (d : Dice) : List Char :=
  if d.modifier.toInt = 0 then []
  else if d.modifier.toInt < 0 then '-' :: decimal d.modifier.toInt.natAbs
  else '+' :: decimal d.modifier.toInt.natAbs

/-- The dice in notation. -/
def text (d : Dice) : List Char :=
  decimal d.count.toNat ++ 'd' :: decimal d.sides.toNat ++ d.selectionText ++ d.modifierText

instance : ToString Dice := ⟨fun d => String.ofList d.text⟩

/-- The dice lie within the limits of notation. -/
structure Legal (d : Dice) : Prop where
  count : 1 ≤ d.count.toNat ∧ d.count.toNat ≤ 100
  sides : 1 ≤ d.sides.toNat ∧ d.sides.toNat ≤ 1000
  selection : ∀ s ∈ d.selection, s.Fits d.count

/-- One change to the parts of some dice. -/
inductive Setting where
  | count (n : UInt8)
  | sides (n : UInt16)
  | modifier (m : Int32)
  | selection (s : Selection)
  deriving DecidableEq, Repr

/-- The dice with one part replaced, a selection by the new one. -/
def set (d : Dice) : Setting → Dice
  | .count n => { d with count := n }
  | .sides n => { d with sides := n }
  | .modifier m => { d with modifier := m }
  | .selection s => { d with selection := some s }

/-- The standard die, and the dice after each of the settings made to it in turn. -/
def assembly (settings : List Setting) : List Dice := go standard settings
where
  /-- The dice so far, and the dice after each further setting. -/
  go (d : Dice) : List Setting → List Dice
    | [] => [d]
    | s :: rest => d :: go (d.set s) rest

end Dice
end TabletopDice
