import TabletopDice.Roll

/-! # Audits

An audit recounts a roll: how many dice there are, whether their values are
possible, and whether the sums and the selection come out again from the raw
values.
-/
namespace TabletopDice

/-- The findings about a roll. -/
structure Audit where
  /-- The dice on the table. -/
  rolls : Nat
  /-- Every die shows a face that it has, counted from 1, or 0 if it has none. -/
  inRange : Bool
  /-- The dice that count. -/
  kept : Nat
  /-- The dice that were dropped. -/
  dropped : Nat
  /-- The subtotal is the exact sum of the kept dice. -/
  subtotalExact : Bool
  /-- The total is the exact sum of the kept dice and the modifier. -/
  totalExact : Bool
  /-- The roll is made again from its dice and raw values. -/
  replays : Bool
  deriving DecidableEq, Repr

namespace Roll

/-- The exact sum of the kept dice. -/
def exactSum : List Die → Nat
  | [] => 0
  | die :: rest => (if die.kept then die.val.toNat else 0) + exactSum rest

/-- A die with so many sides can show the value. -/
def possible (sides val : UInt16) : Bool :=
  if sides = 0 then val = 0 else 1 ≤ val && val ≤ sides

/-- The findings about the roll. -/
def audit (r : Roll) : Audit where
  rolls := r.rolls.length
  inRange := r.vals.all (possible r.dice.sides)
  kept := r.kept.length
  dropped := r.dropped.length
  subtotalExact := r.subtotal.toNat = exactSum r.rolls
  totalExact := r.total.toInt = exactSum r.rolls + r.modifier.toInt
  replays := r = ofValues r.dice r.vals

end Roll
end TabletopDice
