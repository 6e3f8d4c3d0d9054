import TabletopDice.Parse
import TabletopDice.Roller

/-! # The command line

A run takes an expression from its arguments, or from the first line of its
input if there are none, echoes it, and rolls it once.  A run is a function of
its arguments, its input and the random words that it may use.
-/
namespace TabletopDice
namespace CommandLine

/-- What a run leaves behind. -/
structure Outcome where
  /-- 0 if all went well. -/
  exit : UInt32
  /-- What is written to standard output. -/
  output : String
  /-- What went wrong, for standard error, and empty if nothing did.  Only whether it is empty is
  meant: a report of the error may have other words and show the place in the text. -/
  complaint : String
  deriving DecidableEq, Repr

/-- Asks for an expression. -/
def prompt : String := "Enter dice expression: "

/-- What stands in front of a newline: the line without the carriage return at its end. -/
def withoutReturn (line : List UInt8) : List UInt8 :=
  if line.getLast? = some 13 then line.dropLast else line

/-- The bytes of the first line, without the newline or carriage return and newline that end
it. -/
def firstLine (input : List UInt8) : List UInt8 :=
  let line := input.takeWhile (· ≠ 10)
  if input.contains 10 then withoutReturn line else line

/-- The text that bytes encode, if they are UTF-8. -/
def decode? (bytes : List UInt8) : Option String := String.fromUTF8? ⟨bytes.toArray⟩

/-- The lines about a roll. -/
def report (dice : Dice) (roll : Roll) : String :=
  "Parsed: " ++ toString dice ++ "\n"
    ++ "Deterministic: " ++ (if dice.isDeterministic then "true" else "false") ++ "\n\n"
    ++ "Rolled: " ++ roll.describe none ++ "\n"
    ++ "Subtotal: " ++ String.ofList (decimal roll.subtotal.toNat) ++ "\n"
    ++ "Total: " ++ String.ofList (integer roll.total.toInt) ++ "\n"

/-- Rolls a text, if the words suffice.  The complaint about a rejected text is its message, which
stands in for a report. -/
def answer (text : String) (words : List UInt64) : Option Outcome :=
  let echo := "Input: " ++ text ++ "\n"
  match parse text with
  | .error rejection =>
    some { exit := 1, output := echo, complaint := toString rejection ++ "\n" }
  | .ok dice =>
    (execute dice words).map fun roll =>
      { exit := 0, output := echo ++ report dice roll, complaint := "" }

/-- Rolls the first line of the input, if the words suffice.  The complaint about bytes that are no
text stands in for that of the reader. -/
def answerInput (input : List UInt8) (words : List UInt64) : Option Outcome :=
  match decode? (firstLine input) with
  | none => some { exit := 1, output := "", complaint := "Unable to read input: not UTF-8\n" }
  | some line => answer line words

/-- A whole run, if the words suffice. -/
def run (arguments : List String) (input : List UInt8) (words : List UInt64) : Option Outcome :=
  if arguments.isEmpty then
    (answerInput input words).map fun o => { o with output := prompt ++ o.output }
  else answer (" ".intercalate arguments) words

end CommandLine
end TabletopDice
