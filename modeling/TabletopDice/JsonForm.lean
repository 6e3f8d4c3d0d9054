import TabletopDice.Json
import TabletopDice.Roll

/-! # JSON forms

How dice, selections, dice on the table and rolls are written as JSON, and how
they are read back.  A record is written as an object with its parts in order.
It is read from an object with these parts in any order, among others that do
not matter, or from an array of just these parts.  Numbers must be whole and in
the range of their type; no other bounds are checked.
-/
namespace TabletopDice

/-- A type whose values have a JSON form. -/
class JsonForm (α : Type) where
  /-- The value as JSON. -/
  toJson : α → Json
  /-- The value that JSON stands for. -/
  ofJson? : Json → Option α

namespace Json

/-- A natural number as JSON. -/
def ofNat (n : Nat) : Json := .number (decimal n)

/-- An integer as JSON. -/
def ofInt (z : Int) : Json := .number (integer z)

/-- The integer that a number stands for.  A number with a fraction or an exponent stands for none,
and neither does zero with a sign. -/
def toInt? : Json → Option Int
  | .number ('-' :: run) =>
    if run.all Char.isDigit && value run ≠ 0 then some (-(value run : Int)) else none
  | .number run => if run.all Char.isDigit then some (value run) else none
  | _ => none

/-- The natural number that a number stands for, if it is less than `size`. -/
def toNatBelow? (size : Nat) (v : Json) : Option Nat :=
  match v.toInt? with
  | some (.ofNat n) => if n < size then some n else none
  | _ => none

/-- The integer that a number stands for, if it lies between `low` and `high`. -/
def toIntWithin? (low high : Int) (v : Json) : Option Int :=
  match v.toInt? with
  | some z => if low ≤ z ∧ z ≤ high then some z else none
  | none => none

/-- The member of a name: none if it is missing, and a failure if it is repeated. -/
def member? (name : List Char) (members : List (List Char × Json)) : Option (Option Json) :=
  match members.filter (·.1 = name) with
  | [] => some none
  | [(_, v)] => some (some v)
  | _ => none

/-- The members of an object by the names that their strings stand for. -/
def named? (members : List (List Char × Json)) : Option (List (List Char × Json)) :=
  members.mapM fun m => (JsonToken.unescape m.1).map (·, m.2)

/-- The parts of a record with the given names, in that order, those missing left out. -/
def parts? (names : List (List Char)) : Json → Option (List (Option Json))
  | .object members => do
    let members ← named? members
    names.mapM (member? · members)
  | .array items => if items.length = names.length then some (items.map some) else none
  | _ => none

end Json

/-! ## Numbers and truth values -/

instance : JsonForm UInt8 where
  toJson n := .ofNat n.toNat
  ofJson? v := (v.toNatBelow? UInt8.size).map UInt8.ofNat

instance : JsonForm UInt16 where
  toJson n := .ofNat n.toNat
  ofJson? v := (v.toNatBelow? UInt16.size).map UInt16.ofNat

instance : JsonForm UInt32 where
  toJson n := .ofNat n.toNat
  ofJson? v := (v.toNatBelow? UInt32.size).map UInt32.ofNat

instance : JsonForm Int32 where
  toJson z := .ofInt z.toInt
  ofJson? v := (v.toIntWithin? Int32.minValue.toInt Int32.maxValue.toInt).map Int32.ofInt

instance : JsonForm Int64 where
  toJson z := .ofInt z.toInt
  ofJson? v := (v.toIntWithin? Int64.minValue.toInt Int64.maxValue.toInt).map Int64.ofInt

instance : JsonForm Bool where
  toJson := .bool
  ofJson?
    | .bool b => some b
    | _ => none

open JsonForm

/-! ## Selections -/

namespace Selection

/-- The name of the kind of a selection. -/
def jsonName : Action → Extreme → List Char
  | .keep, .highest => "KeepHigh".toList
  | .keep, .lowest => "KeepLow".toList
  | .drop, .highest => "DropHigh".toList
  | .drop, .lowest => "DropLow".toList

/-- The kind of selection that a name stands for. -/
def ofJsonName? (name : List Char) : Option (Action × Extreme) :=
  [(Action.keep, Extreme.highest), (.keep, .lowest), (.drop, .highest), (.drop, .lowest)].find?
    fun kind => jsonName kind.1 kind.2 = name

instance : JsonForm Selection where
  toJson s := .object [(jsonName s.action s.extreme, toJson s.number)]
  ofJson?
    | .object [(name, v)] => do
      let (action, extreme) ← ofJsonName? (← JsonToken.unescape name)
      return { action, extreme, number := ← ofJson? v }
    | _ => none

end Selection

/-- A value that may be missing is written as null without it. -/
instance {α : Type} [JsonForm α] : JsonForm (Option α) where
  toJson
    | none => .null
    | some a => toJson a
  ofJson?
    | .null => some none
    | v => (ofJson? v).map some

/-- A list is an array. -/
instance {α : Type} [JsonForm α] : JsonForm (List α) where
  toJson as := .array (as.map toJson)
  ofJson?
    | .array items => items.mapM ofJson?
    | _ => none

/-! ## Records -/

instance : JsonForm Dice where
  toJson d := .object [("count".toList, toJson d.count), ("sides".toList, toJson d.sides),
    ("modifier".toList, toJson d.modifier), ("selection".toList, toJson d.selection)]
  ofJson? v := do
    match ← v.parts? ["count".toList, "sides".toList, "modifier".toList, "selection".toList] with
    | [some count, some sides, some modifier, selection] =>
      return { count := ← ofJson? count, sides := ← ofJson? sides, modifier := ← ofJson? modifier
               selection := ← ofJson? (selection.getD .null) }
    | _ => none

instance : JsonForm Die where
  toJson d := .object [("val".toList, toJson d.val), ("kept".toList, toJson d.kept)]
  ofJson? v := do
    match ← v.parts? ["val".toList, "kept".toList] with
    | [some val, some kept] => return { val := ← ofJson? val, kept := ← ofJson? kept }
    | _ => none

instance : JsonForm Roll where
  toJson r := .object [("dice".toList, toJson r.dice), ("rolls".toList, toJson r.rolls),
    ("subtotal".toList, toJson r.subtotal), ("modifier".toList, toJson r.modifier),
    ("total".toList, toJson r.total)]
  ofJson? v := do
    match ← v.parts? ["dice".toList, "rolls".toList, "subtotal".toList, "modifier".toList,
        "total".toList] with
    | [some dice, some rolls, some subtotal, some modifier, some total] =>
      return { dice := ← ofJson? dice, rolls := ← ofJson? rolls, subtotal := ← ofJson? subtotal
               modifier := ← ofJson? modifier, total := ← ofJson? total }
    | _ => none

/-! ## Texts -/

/-- A value as JSON text. -/
def toJsonText {α : Type} [JsonForm α] (a : α) : List Char := (toJson a).text

/-- The value that a JSON text stands for. -/
def ofJsonText? {α : Type} [JsonForm α] (text : List Char) : Option α :=
  (Json.ofText? text).bind ofJson?

end TabletopDice
