import TabletopDice.Characters
import TabletopDice.Expression
import TabletopDice.Rejection

/-! # Reading dice

Blanks around a text and the case of its letters do not matter.  What remains is
scanned as a whole before any of its numbers is checked, so a text is either
dice or is rejected for the first problem in it, with the place of that problem
in the text as it was given.
-/
namespace TabletopDice

/-! ## Scanning

A text is read from the left: digits, `d`, digits, a selector, a modifier, and
then nothing.  Each part takes as much as fits and is never taken back.  Where
the text does not go on as it must, the scan halts, and the `Halt` tells what is
left unread and what was wanted there.
-/

/-- What a text would have to go on with. -/
inductive Expected where
  /-- The letter between count and sides, or a digit in front of it. -/
  | separator
  /-- The number of sides. -/
  | sides
  /-- The number behind the keyword of a selector. -/
  | number
  /-- The number behind a sign. -/
  | magnitude
  /-- No further character. -/
  | nothing
  deriving DecidableEq, Repr

/-- How many bytes an error at the end of a text reaches back: to the letter or sign that has no
number behind it. -/
def Expected.reach : Expected → Nat
  | separator | number | nothing => 0
  | sides | magnitude => 1

/-- Where a scan came to a halt. -/
structure Halt where
  /-- The text that was not read. -/
  rest : List Char
  expected : Expected
  deriving DecidableEq, Repr

/-- The part of a text of `total` bytes to point at: the character at which the scan halted, or
the end of the text. -/
def Halt.span (h : Halt) (total : Nat) : Span :=
  match h.rest with
  | c :: _ => ⟨total - width h.rest, total - width h.rest + c.utf8Size⟩
  | [] => ⟨total - h.expected.reach, total⟩

/-- Reads digits, at least one. -/
def scanNumber (expected : Expected) (text : List Char) : Except Halt (List Char × List Char) :=
  match text.takeWhile Char.isDigit with
  | [] => .error ⟨text, expected⟩
  | run => .ok (run, text.dropWhile Char.isDigit)

/-- The text does not go on with a digit. -/
def StopsDigits (text : List Char) : Prop := ∀ c ∈ text.head?, c.isDigit = false

theorem stopsDigits_dropWhile (text : List Char) : StopsDigits (text.dropWhile Char.isDigit) := by
  intro c hc
  have h := List.head?_dropWhile_not Char.isDigit text
  rw [Option.mem_def.mp hc] at h
  exact h

theorem isDigit_of_mem_takeWhile {text : List Char} :
    ∀ c ∈ text.takeWhile Char.isDigit, c.isDigit = true :=
  fun c hc => List.all_eq_true.mp List.all_takeWhile c hc

theorem takeWhile_digits {run rest : List Char} (hd : ∀ c ∈ run, c.isDigit = true)
    (hs : StopsDigits rest) : (run ++ rest).takeWhile Char.isDigit = run := takeWhile_run hd hs

theorem dropWhile_digits {run rest : List Char} (hd : ∀ c ∈ run, c.isDigit = true)
    (hs : StopsDigits rest) : (run ++ rest).dropWhile Char.isDigit = rest := dropWhile_run hd hs

/-- A number is read exactly where a text begins with one, and all of its digits are taken. -/
theorem scanNumber_eq_ok_iff {expected : Expected} {text run rest : List Char} :
    scanNumber expected text = .ok (run, rest) ↔
      IsNumber run ∧ StopsDigits rest ∧ text = run ++ rest := by
  constructor
  · intro h
    unfold scanNumber at h
    split at h
    · contradiction
    · rename_i hne
      cases h
      exact ⟨⟨hne, isDigit_of_mem_takeWhile⟩, stopsDigits_dropWhile text,
        List.takeWhile_append_dropWhile.symm⟩
  · rintro ⟨⟨hne, hd⟩, hs, rfl⟩
    unfold scanNumber
    rw [takeWhile_digits hd hs, dropWhile_digits hd hs]
    split
    · contradiction
    · rfl

/-- Reads a keyword, both letters of it or none. -/
def scanKeyword? (text : List Char) : Option (Action × Extreme × List Char) :=
  match text with
  | first :: second :: rest =>
    match Action.ofLetter? first, Extreme.ofLetter? second with
    | some action, some extreme => some (action, extreme, rest)
    | _, _ => none
  | _ => none

theorem scanKeyword?_eq_some_iff {text rest : List Char} {a : Action} {x : Extreme} :
    scanKeyword? text = some (a, x, rest) ↔ text = a.letter :: x.letter :: rest := by
  constructor
  · intro h
    unfold scanKeyword? at h
    split at h
    · split at h
      · rename_i h₁ h₂
        cases h
        rw [Action.ofLetter?_eq_some_iff.mp h₁, Extreme.ofLetter?_eq_some_iff.mp h₂]
      · contradiction
    · contradiction
  · rintro rfl
    cases a <;> cases x <;> rfl

/-- Reads a selector, if a keyword comes next. -/
def scanSelector (text : List Char) : Except Halt (Option Selector × List Char) :=
  match scanKeyword? text with
  | none => .ok (none, text)
  | some (action, extreme, rest) => do
    let (number, rest) ← scanNumber .number rest
    return (some { action, extreme, number }, rest)

/-- Reads a sign. -/
def scanSign? (text : List Char) : Option (Sign × List Char) :=
  match text with
  | c :: rest => (Sign.ofChar? c).map (·, rest)
  | [] => none

/-- Reads a modifier, if a sign comes next. -/
def scanModifier (text : List Char) : Except Halt (Option Modifier × List Char) :=
  match scanSign? text with
  | none => .ok (none, text)
  | some (sign, rest) => do
    let (magnitude, rest) ← scanNumber .magnitude rest
    return (some { sign, magnitude }, rest)

/-- Reads nothing more. -/
def scanEnd (text : List Char) : Except Halt Unit :=
  match text with
  | [] => .ok ()
  | _ :: _ => .error ⟨text, .nothing⟩

/-- Reads what comes behind the separator. -/
def scanTail (count text : List Char) : Except Halt Expression := do
  let (sides, rest) ← scanNumber .sides text
  let (selector, rest) ← scanSelector rest
  let (modifier, rest) ← scanModifier rest
  scanEnd rest
  return { count, sides, selector, modifier }

/-- Reads a whole text as an expression. -/
def scan (text : List Char) : Except Halt Expression :=
  match text.dropWhile Char.isDigit with
  | 'd' :: rest => scanTail (text.takeWhile Char.isDigit) rest
  | rest => .error ⟨rest, .separator⟩

/-! ## Checking the numbers

The numbers are checked in the order in which they are written, each for being
too low and then for being too high.  `Expression.check` works in machine words:
digits are read into 32 bits, or 64 for a modifier, and narrowed once they are
known to be in bounds.  `Expression.judge` states the same checks on natural
numbers and integers of any size, where nothing can overflow.
-/

/-! ### Reading digits into machine words -/

/-- The word with one more decimal digit behind it, unless that needs more than 32 bits. -/
def push32? (n : UInt32) (digit : Char) : Option UInt32 :=
  let d := digit.toNat - '0'.toNat
  if n.toNat * 10 + d < UInt32.size then some (n * 10 + UInt32.ofNat d) else none

/-- The number that digits stand for, if it fits into 32 bits. -/
def read32? (run : List Char) : Option UInt32 := run.foldlM push32? 0

/-- The number that digits stand for, or the largest word if it does not fit into 32 bits. -/
def read32 (run : List Char) : UInt32 := (read32? run).getD 0xFFFFFFFF

/-- The word with one more decimal digit behind it, unless that needs more than 63 bits. -/
def push64? (n : Int64) (digit : Char) : Option Int64 :=
  let d := digit.toNat - '0'.toNat
  if n.toInt * 10 + d ≤ Int64.maxValue.toInt then some (n * 10 + Int64.ofNat d) else none

/-- The number that digits stand for, if it fits into a signed word of 64 bits. -/
def read64? (run : List Char) : Option Int64 := run.foldlM push64? 0

/-- The same number in 8 bits, if it fits. -/
def narrow8? (n : UInt32) : Option UInt8 := if n ≤ 0xFF then some n.toUInt8 else none

/-- The same number in 16 bits, if it fits. -/
def narrow16? (n : UInt32) : Option UInt16 := if n ≤ 0xFFFF then some n.toUInt16 else none

/-- The same integer in 32 bits, if it fits. -/
def narrow32? (z : Int64) : Option Int32 :=
  if Int32.minValue.toInt64 ≤ z ∧ z ≤ Int32.maxValue.toInt64 then some z.toInt32 else none

/-! ### The checks in machine words -/

/-- The number of a field, once it is known to lie between 1 and `most` and to fit where it is
kept. -/
def bounded {α : Type} (narrow? : UInt32 → Option α) (run : List Char) (most : UInt32)
    (low high : Reason) : Except Reason α :=
  let n := read32 run
  if n < 1 then .error low
  else if most < n then .error high
  else (narrow? n).elim (.error high) .ok

/-- The number of a modifier with its sign, if it fits into 32 bits. -/
def signed? (m : Modifier) : Option Int32 := do
  let magnitude ← read64? m.magnitude
  narrow32? (match m.sign with | .plus => magnitude | .minus => -magnitude)

/-- The number of a selector among `count` dice. -/
def checkSelector (s : Selector) (count : UInt8) : Except Reason Selection := do
  let number ← match s.action with
    | .keep => bounded narrow8? s.number count.toUInt32 .keepTooLow .keepTooHigh
    | .drop => bounded narrow8? s.number (count.toUInt32 - 1) .dropTooLow .dropTooHigh
  return { action := s.action, extreme := s.extreme, number }

/-- A failed check is one of a certain field. -/
def blame {α : Type} (f : Field) (r : Except Reason α) : Except (Reason × Field) α :=
  r.mapError (·, f)

namespace Expression

/-- The number of dice: one, if it is not written. -/
def checkCount (e : Expression) : Except Reason UInt8 :=
  if e.count.isEmpty then .ok 1
  else bounded narrow8? e.count Dice.maxCount.toUInt32 .countTooLow .countTooHigh

/-- The number of sides. -/
def checkSides (e : Expression) : Except Reason UInt16 :=
  bounded narrow16? e.sides Dice.maxSides.toUInt32 .sidesTooLow .sidesTooHigh

/-- The selection among `count` dice, if one is written. -/
def checkSelection (e : Expression) (count : UInt8) : Except Reason (Option Selection) :=
  match e.selector with
  | none => .ok none
  | some s => (checkSelector s count).map some

/-- The modifier: zero, if it is not written. -/
def checkModifier (e : Expression) : Except Reason Int32 :=
  match e.modifier with
  | none => .ok 0
  | some m => (signed? m).elim (.error .modifierOutOfRange) .ok

/-- The dice that an expression stands for, or the first check that fails. -/
def check (e : Expression) : Except (Reason × Field) Dice := do
  let count ← blame .count e.checkCount
  let sides ← blame .sides e.checkSides
  let selection ← blame .selector (e.checkSelection count)
  let modifier ← blame .modifier e.checkModifier
  return { count, sides, modifier, selection }

end Expression

/-! ### The checks on numbers of any size -/

namespace Expression

/-- How many dice the expression asks for: one, if it does not say. -/
def countValue (e : Expression) : Nat := if e.count.isEmpty then 1 else value e.count

/-- The modifier with its sign, or 0 without one. -/
def modifierValue (e : Expression) : Int :=
  match e.modifier with
  | none => 0
  | some ⟨.plus, run⟩ => value run
  | some ⟨.minus, run⟩ => -value run

/-- What is wrong with the number of a selector among `count` dice. -/
def selectorFault? (s : Selector) (count : Nat) : Option Reason :=
  match s.action with
  | .keep =>
    if value s.number = 0 then some .keepTooLow
    else if count < value s.number then some .keepTooHigh
    else none
  | .drop =>
    if value s.number = 0 then some .dropTooLow
    else if count ≤ value s.number then some .dropTooHigh
    else none

/-- The first check that the expression fails. -/
def fault? (e : Expression) : Option (Reason × Field) :=
  if e.countValue = 0 then some (.countTooLow, .count)
  else if 100 < e.countValue then some (.countTooHigh, .count)
  else if value e.sides = 0 then some (.sidesTooLow, .sides)
  else if 1000 < value e.sides then some (.sidesTooHigh, .sides)
  else
    match e.selector.bind (selectorFault? · e.countValue) with
    | some reason => some (reason, .selector)
    | none =>
      if -2147483648 ≤ e.modifierValue ∧ e.modifierValue ≤ 2147483647 then none
      else some (.modifierOutOfRange, .modifier)

/-- The dice that the numbers of the expression stand for, if each of them is in bounds. -/
def dice (e : Expression) : Dice :=
  { count := UInt8.ofNat e.countValue
    sides := UInt16.ofNat (value e.sides)
    modifier := Int32.ofInt e.modifierValue
    selection := e.selector.map fun s =>
      { action := s.action, extreme := s.extreme, number := UInt8.ofNat (value s.number) } }

/-- The dice that an expression stands for, or the first check that fails, on numbers of any
size. -/
def judge (e : Expression) : Except (Reason × Field) Dice :=
  match e.fault? with
  | some fault => .error fault
  | none => .ok e.dice

end Expression

/-! ## The whole text -/

/-- Reads lower-case text without blanks around it. -/
def readExpression (text : List Char) : Except (Reason × Span) Dice :=
  match scan text with
  | .error halt => .error (.invalid, halt.span (width text))
  | .ok e =>
    match e.check with
    | .error (reason, field) => .error (reason, e.span field)
    | .ok dice => .ok dice

/-- Reads text with blanks around it and letters of either case. -/
def readDice (text : List Char) : Except (Reason × Span) Dice :=
  let body := trim text
  if body.isEmpty then .error (.empty, ⟨0, width text⟩)
  else
    match readExpression (body.map Char.toLower) with
    | .error (reason, span) => .error (reason, span.shift (width (indent text)))
    | .ok dice => .ok dice

/-- Reads dice in notation. -/
def parse (input : String) : Except Rejection Dice :=
  match readDice input.toList with
  | .error (reason, span) => .error { input, reason, span }
  | .ok dice => .ok dice

end TabletopDice
