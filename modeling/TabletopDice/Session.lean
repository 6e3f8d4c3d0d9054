import TabletopDice.Parse
import TabletopDice.Roller

/-! # Sessions

A session uses one roller for a series of steps.  Each step gives an answer and
leaves the roller in its next state.  A rehearsal rolls with a copy, so that the
roller itself stays where it is; so does an order whose notation is rejected.
-/
namespace TabletopDice

/-- What to roll: notation, or dice already made. -/
inductive Order where
  | written (text : String)
  | ready (dice : Dice)
  deriving DecidableEq, Repr

/-- The dice of an order. -/
def Order.dice : Order → Except Rejection Dice
  | written text => parse text
  | ready dice => .ok dice

namespace Session

/-- One step of a session. -/
inductive Step where
  /-- Roll a single die. -/
  | die (sides : UInt16)
  /-- Roll an order. -/
  | roll (order : Order)
  /-- Roll an order with a copy of the roller. -/
  | rehearse (order : Order)
  /-- Ask whether another die can be rolled. -/
  | ask
  deriving DecidableEq, Repr

/-- The answer to one step. -/
inductive Answer where
  | die (die : Die)
  | roll (roll : Roll)
  | canRoll (yes : Bool)
  /-- The order was not accepted. -/
  | rejected (rejection : Rejection)
  /-- The roller ran out of values. -/
  | exhausted
  deriving DecidableEq, Repr

variable {σ : Type} [Roller σ]

/-- Rolls an order. -/
def fill (order : Order) (s : σ) : Answer × σ :=
  match order.dice with
  | .error rejection => (.rejected rejection, s)
  | .ok dice =>
    match Roller.roll dice s with
    | (none, s) => (.exhausted, s)
    | (some roll, s) => (.roll roll, s)

/-- Takes one step. -/
def step (s : σ) : Step → Answer × σ
  | .die sides =>
    match Roller.rollDie sides s with
    | (none, s) => (.exhausted, s)
    | (some val, s) => (.die { val }, s)
  | .roll order => fill order s
  | .rehearse order => ((fill order s).1, s)
  | .ask =>
    let (yes, s) := Roller.canRoll s
    (.canRoll yes, s)

/-- Takes the steps in turn and gives their answers, and the roller at the end. -/
def run (s : σ) : List Step → List Answer × σ
  | [] => ([], s)
  | x :: rest =>
    let (answer, s) := step s x
    let (answers, s) := run s rest
    (answer :: answers, s)

end Session
end TabletopDice
