import TabletopDice.Roll

/-! # Rollers

A roller is something that dice can be rolled with: it gives a value for a die
and goes on to its next state.  Some rollers run out of values.  A roll asks for
one value per die, in order, whatever is selected or added afterwards, and keeps
the values it has taken even if there are too few of them.
-/
namespace TabletopDice

/-- A way to roll dice, by the state it is in. -/
class Roller (σ : Type) where
  /-- The value of one die with so many sides, if there is one, and the state after it. -/
  rollDie : UInt16 → σ → Option UInt16 × σ
  /-- Whether another die can be rolled, and the state after finding out. -/
  canRoll : σ → Bool × σ := fun s => (true, s)

namespace Roller

variable {σ : Type} [Roller σ]

/-- The values of `n` dice, one after the other. -/
def rollValues (sides : UInt16) : Nat → σ → Option (List UInt16) × σ
  | 0, s => (some [], s)
  | n + 1, s =>
    match rollDie sides s with
    | (none, s) => (none, s)
    | (some val, s) =>
      match rollValues sides n s with
      | (none, s) => (none, s)
      | (some vals, s) => (some (val :: vals), s)

/-- A roll of dice, if there are values enough. -/
def roll (dice : Dice) (s : σ) : Option Roll × σ :=
  match rollValues dice.sides dice.count.toNat s with
  | (none, s) => (none, s)
  | (some vals, s) => (some (Roll.ofValues dice vals), s)

end Roller

/-! ## Rollers without chance -/

/-- Values known in advance, taken one by one whatever the die.  To find out whether there is
another value is to take it out ahead of its turn, and it is kept until a die asks for it. -/
inductive Recorded where
  /-- The values that have not been taken out. -/
  | mk (values : List UInt16)
  /-- The next value has been taken out ahead of its turn. -/
  | ahead (next : UInt16) (values : List UInt16)
  /-- There was no value to take out. -/
  | atEnd
  deriving DecidableEq, Repr

namespace Recorded

/-- The values that dice will get, in order. -/
def remaining : Recorded → List UInt16
  | mk values => values
  | ahead next values => next :: values
  | atEnd => []

/-- Takes the next value, from where it is kept if it was taken out before. -/
def take : Recorded → Option UInt16 × Recorded
  | mk [] => (none, mk [])
  | mk (val :: rest) => (some val, mk rest)
  | ahead next values => (some next, mk values)
  | atEnd => (none, mk [])

/-- Takes the next value out ahead of its turn, unless that has been done. -/
def look : Recorded → Recorded
  | mk [] => atEnd
  | mk (val :: rest) => ahead val rest
  | ahead next values => ahead next values
  | atEnd => atEnd

/-- A value has been taken out ahead of its turn. -/
def holds : Recorded → Bool
  | ahead .. => true
  | mk _ | atEnd => false

end Recorded

instance : Roller Recorded where
  rollDie _ s := s.take
  canRoll s := (s.look.holds, s.look)

/-- The same value for every die. -/
structure Fixed where
  value : UInt16 := 0
  deriving DecidableEq, Repr

instance : Roller Fixed where
  rollDie _ s := (some s.value, s)

/-- The last face of every die. -/
structure Best where
  deriving DecidableEq, Repr

instance : Roller Best where
  rollDie sides s := (some sides, s)

/-! ## Fair dice

A source of randomness draws 64-bit words, each as likely as any other.  The
remainder of a word by the number of sides is a fair face as long as every face
gets the same number of words, so the few words above the largest multiple of
the number of sides are rejected and drawn again.
-/

/-- The largest word that is accepted for a die: all but the last `2 ^ 64 % sides` words are,
and that number is found without leaving 64 bits. -/
def lastAccepted (sides : UInt16) : UInt64 :=
  let s := sides.toUInt64
  0xFFFFFFFFFFFFFFFF - (0xFFFFFFFFFFFFFFFF % s + 1) % s

/-- The face for a word: its remainder, counted from 1, with the last face standing in for a
remainder that does not fit into 16 bits. -/
def faceOf (sides : UInt16) (word : UInt64) : UInt16 :=
  let r := word % sides.toUInt64
  if r ≤ 0xFFFF then r.toUInt16 + 1 else sides

/-- The face for a word, unless the word is rejected. -/
def face? (sides : UInt16) (word : UInt64) : Option UInt16 :=
  if word ≤ lastAccepted sides then some (faceOf sides word) else none

theorem face?_zero (sides : UInt16) : face? sides 0 = some (faceOf sides 0) :=
  if_pos (UInt64.le_iff_toNat_le.mpr (Nat.zero_le _))

/-- The face for the first word that is accepted, and the words behind it. -/
def firstFace (sides : UInt16) : List UInt64 → Option UInt16 × List UInt64
  | [] => (none, [])
  | word :: words =>
    match face? sides word with
    | some face => (some face, words)
    | none => firstFace sides words

/-- A fair face of a die, and the words that are left.  There is no face if the words run out. A
die with fewer than two sides leaves nothing to chance and takes no word. -/
def uniform (sides : UInt16) (words : List UInt64) : Option UInt16 × List UInt64 :=
  if sides ≤ 1 then (some sides, words) else firstFace sides words

/-- Fair faces from a supply of random words. -/
structure Words where
  words : List UInt64
  deriving DecidableEq, Repr

instance : Roller Words where
  rollDie sides s :=
    let (face, rest) := uniform sides s.words
    (face, ⟨rest⟩)

/-- The dice rolled once with fair faces, if the words suffice. -/
def execute (dice : Dice) (words : List UInt64) : Option Roll :=
  (Roller.roll dice (Words.mk words)).1

end TabletopDice
