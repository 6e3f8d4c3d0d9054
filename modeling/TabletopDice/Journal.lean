import TabletopDice.Parse
import TabletopDice.Roller

/-! # The journal

What is noted while notation is read and dice are rolled, in order.
-/
namespace TabletopDice

/-- How much attention an event deserves. -/
inductive Level where
  | trace
  | debug
  deriving DecidableEq, Repr

/-- Something worth a note. -/
inductive Event where
  /-- Notation was read. -/
  | parsed (input : String) (dice : Dice)
  /-- Notation was not accepted. -/
  | rejected (input : String) (reason : Reason)
  /-- Dice were rolled. -/
  | rolled (dice : Dice) (total : Int64)
  deriving DecidableEq, Repr

/-- A value that is noted with an event. -/
inductive Datum where
  | text (s : String)
  | number (z : Int64)
  deriving DecidableEq, Repr

namespace Event

/-- The level at which an event is noted. -/
def level : Event → Level
  | parsed .. | rolled .. => .trace
  | rejected .. => .debug

/-- What happened, in words. -/
def message : Event → String
  | parsed .. => "parsed dice expression"
  | rejected .. => "rejected dice expression"
  | rolled .. => "rolled dice"

/-- The part of the library that an event is noted by. -/
def target : Event → String
  | parsed .. | rejected .. => "alea::parse"
  | rolled .. => "alea::dice::roller"

/-- The values that are noted with an event, by their names; the words come first.  Dice and reasons
are noted as they are written. -/
def fields (e : Event) : List (String × Datum) :=
  ("message", .text e.message) ::
    match e with
    | parsed input dice => [("input", .text input), ("dice", .text (toString dice))]
    | rejected input reason => [("input", .text input), ("reason", .text (toString reason))]
    | rolled dice total => [("dice", .text (toString dice)), ("total", .number total)]

/-- The note about reading `input`. -/
def ofParse (input : String) : Event :=
  match parse input with
  | .ok dice => parsed input dice
  | .error rejection => rejected input rejection.reason

/-- The note about a roll. -/
def ofRoll (roll : Roll) : Event := rolled roll.dice roll.total

end Event

/-- The notes about reading `input` and then rolling what it stands for. -/
def journal {σ : Type} [Roller σ] (input : String) (s : σ) : List Event :=
  Event.ofParse input ::
    match parse input with
    | .error _ => []
    | .ok dice => (Roller.roll dice s).1.toList.map Event.ofRoll

end TabletopDice
