import TabletopDice.Dice

/-! # Dice expressions

The notation of dice as a syntax tree: digit runs as they were written, with all
their zeros, and nothing said yet about the size of the numbers.  `text` writes
an expression down, and the spans of its numbers follow from that layout.  A text
is in the grammar if it is the text of a well-formed expression:

    expression := count? "d" sides selector? modifier?
    count, sides, number, magnitude := digits
    selector := ("kh" | "kl" | "dh" | "dl") number
    modifier := ("+" | "-") magnitude
-/
namespace TabletopDice

/-- The sign in front of a modifier. -/
inductive Sign where
  | plus
  | minus
  deriving DecidableEq, Repr

/-- A sign in notation. -/
def Sign.char : Sign → Char
  | plus => '+'
  | minus => '-'

/-- The sign that a character stands for. -/
def Sign.ofChar? (c : Char) : Option Sign :=
  if c = '+' then some plus else if c = '-' then some minus else none

theorem Sign.ofChar?_eq_some_iff {c : Char} {s : Sign} : Sign.ofChar? c = some s ↔ c = s.char := by
  cases s <;> simp only [Sign.ofChar?, Sign.char] <;> grind

/-- A keyword and the digits behind it. -/
structure Selector where
  action : Action
  extreme : Extreme
  number : List Char
  deriving DecidableEq, Repr

/-- The two letters of a selector. -/
def Selector.keyword (s : Selector) : List Char := [s.action.letter, s.extreme.letter]

/-- A sign and the digits behind it. -/
structure Modifier where
  sign : Sign
  magnitude : List Char
  deriving DecidableEq, Repr

/-- Dice notation as written, in lower case. -/
structure Expression where
  /-- The digits of the count, none if it is omitted. -/
  count : List Char
  /-- The digits of the number of sides. -/
  sides : List Char
  selector : Option Selector := none
  modifier : Option Modifier := none
  deriving DecidableEq, Repr

/-- The numbers that an expression may hold, in the order in which they are written. -/
inductive Field where
  | count
  | sides
  | selector
  | modifier
  deriving DecidableEq, Repr

namespace Expression

/-- The keyword of the selector, if there is one. -/
def keyword (e : Expression) : List Char := e.selector.elim [] Selector.keyword

/-- The sign of the modifier, if there is one. -/
def signText (e : Expression) : List Char := e.modifier.elim [] ([·.sign.char])

/-- The digits of a number of the expression, none if it is not there. -/
def digits (e : Expression) : Field → List Char
  | .count => e.count
  | .sides => e.sides
  | .selector => e.selector.elim [] Selector.number
  | .modifier => e.modifier.elim [] Modifier.magnitude

/-- What is written in front of the digits of a number. -/
def before (e : Expression) : Field → List Char
  | .count => []
  | .sides => e.count ++ ['d']
  | .selector => e.count ++ ['d'] ++ e.sides ++ e.keyword
  | .modifier => e.count ++ ['d'] ++ e.sides ++ e.keyword ++ e.digits .selector ++ e.signText

/-- What is written behind the digits of a number. -/
def after (e : Expression) : Field → List Char
  | .count =>
    ['d'] ++ e.sides ++ e.keyword ++ e.digits .selector ++ e.signText ++ e.digits .modifier
  | .sides => e.keyword ++ e.digits .selector ++ e.signText ++ e.digits .modifier
  | .selector => e.signText ++ e.digits .modifier
  | .modifier => []

/-- The expression as it is written. -/
def text (e : Expression) : List Char :=
  e.count ++ ['d'] ++ e.sides ++ e.keyword ++ e.digits .selector ++ e.signText
    ++ e.digits .modifier

/-- Where the digits of a number are. -/
def span (e : Expression) (f : Field) : Span := .behind (e.before f) (e.digits f)

/-- What holds of the letters of selectors holds of a keyword. -/
theorem forall_mem_keyword {p : Char → Prop} (haction : ∀ a : Action, p a.letter)
    (hextreme : ∀ x : Extreme, p x.letter) (e : Expression) : ∀ c ∈ e.keyword, p c := by
  unfold keyword
  cases e.selector with
  | none => exact List.forall_mem_nil p
  | some s =>
    exact List.forall_mem_cons.mpr
      ⟨haction s.action, List.forall_mem_singleton.mpr (hextreme s.extreme)⟩

theorem forall_mem_signText {p : Char → Prop} (hsign : ∀ s : Sign, p s.char) (e : Expression) :
    ∀ c ∈ e.signText, p c := by
  unfold signText
  cases e.modifier with
  | none => exact List.forall_mem_nil p
  | some m => exact List.forall_mem_singleton.mpr (hsign m.sign)

theorem before_append_digits_append_after (e : Expression) (f : Field) :
    e.before f ++ e.digits f ++ e.after f = e.text := by
  cases f <;> simp [before, after, text, digits]

/-- Every part that must be a number is one; an omitted count is no digits at all. -/
structure WellFormed (e : Expression) : Prop where
  count : ∀ c ∈ e.count, c.isDigit = true
  sides : IsNumber e.sides
  selector : ∀ s ∈ e.selector, IsNumber s.number
  modifier : ∀ m ∈ e.modifier, IsNumber m.magnitude

end Expression

/-- The text is a dice expression, in lower case and without blanks around it, whatever the size
of its numbers. -/
def Grammatical (text : List Char) : Prop := ∃ e : Expression, e.WellFormed ∧ e.text = text

end TabletopDice
