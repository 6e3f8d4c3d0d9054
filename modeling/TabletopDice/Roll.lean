import TabletopDice.Dice

/-! # Rolls

What lies on the table after a roll, which of it a selection takes out, the
record that is kept of it, and how that is written.
-/
namespace TabletopDice

/-! ## Dice on the table

A die that has been rolled shows a value, and counts towards the total unless it
has been dropped.
-/

/-- A rolled die. -/
structure Die where
  /-- The value that the die shows. -/
  val : UInt16
  /-- The die counts towards the total. -/
  kept : Bool := true
  deriving DecidableEq, Repr

namespace Die

/-- The die taken out of the total. -/
def drop (d : Die) : Die := { d with kept := false }

/-- The die, and the die after each of `n` times that it is dropped. -/
def dropped (d : Die) : Nat → List Die
  | 0 => [d]
  | n + 1 => d :: d.drop.dropped n

/-- The die no longer counts. -/
def isDropped (d : Die) : Bool := !d.kept

/-- The value, with a mark behind it once the die is dropped. -/
def text (d : Die) : List Char :=
  decimal d.val.toNat ++ if d.kept then [] else [' ', '(', 'd', ')']

instance : ToString Die := ⟨fun d => String.ofList d.text⟩

end Die

/-! ## Ranking and cutting

A selection ranks the dice on the table by value, from its own end of the scale;
of two equal dice the one rolled first comes first.  It then cuts the ranking
behind its number and drops the dice on the losing side of the cut.  Dice that
were dropped before are ranked like any others, and stay dropped.

`ranked` sorts; `rank` counts the dice ahead of a given one, which says the same
without sorting.
-/

/-- Of two values, `a` comes strictly before `b`, counted from this end. -/
def Extreme.beats (x : Extreme) (a b : UInt16) : Bool :=
  match x with
  | .highest => b < a
  | .lowest => a < b

/-- The order of a ranking: by value, and among equal dice by place. -/
def Extreme.precedes (x : Extreme) (a b : Die × Nat) : Bool :=
  x.beats a.1.val b.1.val || (a.1.val == b.1.val && a.2 ≤ b.2)

/-- The places of the dice, counted from 0 in the order of the roll, in the order of their
ranking. -/
def Extreme.ranked (x : Extreme) (rolls : List Die) : List Nat :=
  (rolls.zipIdx.mergeSort x.precedes).map (·.2)

/-- How many dice are ahead of the one at place `i`: those that beat it, and those that equal it
and were rolled before. -/
def Extreme.rank (x : Extreme) (rolls : List Die) (i : Nat) : Nat :=
  match rolls[i]? with
  | none => rolls.length
  | some die =>
    rolls.countP (fun other => x.beats other.val die.val)
      + (rolls.take i).countP (fun other => other.val == die.val)

namespace Selection

/-- The places of the dice that the selection names, at most all there are. -/
def named (s : Selection) (rolls : List Die) : List Nat :=
  (s.extreme.ranked rolls).take s.number.toNat

/-- Drops the dice that the selection rules out.  The order of the dice does not change. -/
def apply (s : Selection) (rolls : List Die) : List Die :=
  let named := s.named rolls
  rolls.mapIdx fun i die => if named.contains i == s.isKeep then die else die.drop

/-- The dice after each of the selections applied in turn. -/
def applyEach : List Selection → List Die → List (List Die)
  | [], _ => []
  | s :: rest, rolls => s.apply rolls :: applyEach rest (s.apply rolls)

/-- The dice after all of the selections, applied in turn. -/
def applyAll (selections : List Selection) (rolls : List Die) : List Die :=
  selections.foldl (fun rolls s => s.apply rolls) rolls

end Selection

/-! ## The record of a roll

The dice that were asked for, every die on the table in the order it was rolled,
and the sums.  `Roll.ofValues` makes the record from the raw values, and so
replays a roll whose values are known.
-/

/-- A roll and its outcome. -/
structure Roll where
  /-- The dice that were asked for. -/
  dice : Dice
  /-- The dice on the table, in the order they were rolled. -/
  rolls : List Die
  /-- The sum of the kept dice. -/
  subtotal : UInt32
  /-- What was added to the subtotal. -/
  modifier : Int32
  /-- The subtotal and the modifier together. -/
  total : Int64
  deriving DecidableEq, Repr

/-- The sum of two numbers, or the largest number if the sum needs more than 32 bits. -/
def cappedAdd (a b : UInt32) : UInt32 := UInt32.ofNatClamp (a.toNat + b.toNat)

/-- The sum of two integers, or the nearest 64-bit integer if the sum lies out of range. -/
def clampedAdd (a b : Int64) : Int64 := Int64.ofIntClamp (a.toInt + b.toInt)

namespace Roll

/-- The dice on the table once the selection, if there is one, has been applied to fresh
values. -/
def settle (selection : Option Selection) (vals : List UInt16) : List Die :=
  let fresh := vals.map fun v => { val := v }
  match selection with
  | none => fresh
  | some s => s.apply fresh

/-- The sum of the kept dice, at most the largest 32-bit number. -/
def sum (rolls : List Die) : UInt32 :=
  (rolls.filter (·.kept)).foldl (fun acc die => cappedAdd acc die.val.toUInt32) 0

/-- The record of a roll from the values that came up, in order. -/
def ofValues (dice : Dice) (vals : List UInt16) : Roll :=
  let rolls := settle dice.selection vals
  let subtotal := sum rolls
  { dice, rolls, subtotal
    modifier := dice.modifier
    total := clampedAdd (Int64.ofNat subtotal.toNat) dice.modifier.toInt64 }

/-- The raw values that came up, in order. -/
def vals (r : Roll) : List UInt16 := r.rolls.map (·.val)

/-- The dice that count, in order. -/
def kept (r : Roll) : List Die := r.rolls.filter (·.kept)

/-- The dice that were dropped, in order. -/
def dropped (r : Roll) : List Die := r.rolls.filter (·.isDropped)

/-- The places of the dice that count, from 0. -/
def keptPlaces (r : Roll) : List Nat := (r.rolls.zipIdx.filter (·.1.kept)).map (·.2)

/-- The places of the dropped dice, from 0. -/
def droppedPlaces (r : Roll) : List Nat := (r.rolls.zipIdx.filter (·.1.isDropped)).map (·.2)

end Roll

/-! ## Descriptions

A description shows the dice in notation, the list of the dice on the table in
brackets and, behind it, the modifier.  A limit cuts the list short and adds how
many dice are left out.
-/

namespace Roll

/-- Two dice in a list are set apart by a comma and a blank. -/
def separator : List Char := [',', ' ']

/-- The words that stand for the dice left out of a list. -/
def remainder (n : Nat) : List Char := decimal n ++ " more...".toList

/-- The inside of the brackets: the first `limit` dice, and how many more there are. -/
def listing (rolls : List Die) (limit : Option Nat) : List Char :=
  match limit with
  | none => separator.intercalate (rolls.map Die.text)
  | some k =>
    separator.intercalate ((rolls.take k).map Die.text)
      ++ if k < rolls.length then separator ++ remainder (rolls.length - k) else []

/-- A modifier behind the brackets: a sign set apart by blanks, nothing for zero. -/
def surcharge (m : Int32) : List Char :=
  if m.toInt = 0 then []
  else if m.toInt < 0 then [' ', '-', ' '] ++ decimal m.toInt.natAbs
  else [' ', '+', ' '] ++ decimal m.toInt.natAbs

/-- The roll with its list of dice, cut short after `limit` of them. -/
def descriptionText (r : Roll) (limit : Option Nat) : List Char :=
  { r.dice with modifier := 0 }.text ++ '[' :: listing r.rolls limit ++ ']' :: surcharge r.modifier

/-- The roll with all of its dice, and the total. -/
def text (r : Roll) : List Char :=
  r.descriptionText none ++ [' ', '=', ' '] ++ integer r.total.toInt

/-- The roll with its list of dice, cut short after `limit` of them. -/
def describe (r : Roll) (limit : Option Nat) : String := String.ofList (r.descriptionText limit)

instance : ToString Roll := ⟨fun r => String.ofList r.text⟩

end Roll
end TabletopDice
