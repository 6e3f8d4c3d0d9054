import TabletopDice.Text

/-! # JSON tokens

The smallest parts of a JSON text: brackets, marks, words, numbers and strings,
with blanks between them that mean nothing.  Numbers and the insides of strings
are kept as they are written; that they are well formed is checked here, and
what they stand for is found only where it matters.
-/
namespace TabletopDice

/-- A part of a JSON text. -/
inductive JsonToken where
  | openObject
  | closeObject
  | openArray
  | closeArray
  | colon
  | comma
  | null
  | bool (b : Bool)
  /-- A number as it is written. -/
  | number (lexeme : List Char)
  /-- A string as it is written, without its quotes. -/
  | string (body : List Char)
  deriving DecidableEq, Repr

namespace JsonToken

/-- The token as it is written. -/
def text : JsonToken → List Char
  | openObject => ['\x7b']
  | closeObject => ['\x7d']
  | openArray => ['[']
  | closeArray => [']']
  | colon => [':']
  | comma => [',']
  | null => ['n', 'u', 'l', 'l']
  | bool true => ['t', 'r', 'u', 'e']
  | bool false => ['f', 'a', 'l', 's', 'e']
  | number lexeme => lexeme
  | string body => '"' :: body ++ ['"']

/-! ## Strings -/

/-- The number that a hexadecimal digit stands for. -/
def hexValue? (c : Char) : Option Nat :=
  if c.isDigit then some (c.toNat - '0'.toNat)
  else if 'a' ≤ c ∧ c ≤ 'f' then some (c.toNat - 'a'.toNat + 10)
  else if 'A' ≤ c ∧ c ≤ 'F' then some (c.toNat - 'A'.toNat + 10)
  else none

/-- The number that four hexadecimal digits stand for. -/
def unit? (a b c d : Char) : Option Nat := do
  let a ← hexValue? a
  let b ← hexValue? b
  let c ← hexValue? c
  let d ← hexValue? d
  return ((a * 16 + b) * 16 + c) * 16 + d

/-- The character that a letter stands for behind a backslash. -/
def shortEscape? (c : Char) : Option Char :=
  match c with
  | '"' => some '"'
  | '\\' => some '\\'
  | '/' => some '/'
  | 'b' => some '\x08'
  | 'f' => some '\x0c'
  | 'n' => some '\n'
  | 'r' => some '\r'
  | 't' => some '\t'
  | _ => none

/-- Reads a string up to its closing quote, which is not part of what it gives.  Control characters
must be escaped, and an escape must be one of the known ones. -/
def scanString : List Char → Option (List Char × List Char)
  | [] => none
  | c :: rest =>
    if c = '"' then some ([], rest)
    else if c = '\\' then
      match rest with
      | 'u' :: h₁ :: h₂ :: h₃ :: h₄ :: rest =>
        match unit? h₁ h₂ h₃ h₄, scanString rest with
        | some _, some (body, rest) => some ('\\' :: 'u' :: h₁ :: h₂ :: h₃ :: h₄ :: body, rest)
        | _, _ => none
      | e :: rest =>
        match shortEscape? e, scanString rest with
        | some _, some (body, rest) => some ('\\' :: e :: body, rest)
        | _, _ => none
      | [] => none
    else if c < ' ' then none
    else
      match scanString rest with
      | some (body, rest) => some (c :: body, rest)
      | none => none

/-- The text that the inside of a string stands for.  Escapes beyond the 16-bit range come in pairs
of surrogates, and a surrogate alone stands for nothing. -/
def unescape : List Char → Option (List Char)
  | [] => some []
  | c :: rest =>
    if c = '\\' then
      match rest with
      | 'u' :: h₁ :: h₂ :: h₃ :: h₄ :: rest =>
        match unit? h₁ h₂ h₃ h₄ with
        | none => none
        | some unit =>
          if 0xDC00 ≤ unit ∧ unit ≤ 0xDFFF then none
          else if 0xD800 ≤ unit ∧ unit ≤ 0xDBFF then
            match rest with
            | '\\' :: 'u' :: l₁ :: l₂ :: l₃ :: l₄ :: rest =>
              match unit? l₁ l₂ l₃ l₄ with
              | none => none
              | some low =>
                if 0xDC00 ≤ low ∧ low ≤ 0xDFFF then
                  (unescape rest).map
                    (Char.ofNat (0x10000 + (unit - 0xD800) * 0x400 + (low - 0xDC00)) :: ·)
                else none
            | _ => none
          else (unescape rest).map (Char.ofNat unit :: ·)
      | e :: rest =>
        match shortEscape? e with
        | none => none
        | some c => (unescape rest).map (c :: ·)
      | [] => none
    else (unescape rest).map (c :: ·)

/-- Text without a backslash stands for itself. -/
theorem unescape_plain {body : List Char} (h : ∀ c ∈ body, c ≠ '\\') :
    unescape body = some body := by
  induction body with
  | nil => rfl
  | cons c rest ih =>
    have hc : c ≠ '\\' := h c List.mem_cons_self
    have hr := ih fun d hd => h d (List.mem_cons_of_mem _ hd)
    rw [unescape.eq_def]
    simp only [hc, if_false, hr, Option.map_some]

/-! ## Numbers -/

/-- The character may be part of a number. -/
def isNumberChar (c : Char) : Bool :=
  c.isDigit || c = '-' || c = '+' || c = '.' || c = 'e' || c = 'E'

/-- What is behind the digits in front, at least one of them. -/
def skipDigits? (text : List Char) : Option (List Char) :=
  match text with
  | c :: rest => if c.isDigit then some (rest.dropWhile Char.isDigit) else none
  | [] => none

/-- What is behind a whole number without a sign or leading zeros. -/
def skipWhole? (text : List Char) : Option (List Char) :=
  match text with
  | '0' :: c :: rest => if c.isDigit then none else some (c :: rest)
  | _ => skipDigits? text

/-- What is behind a fraction, if there is one. -/
def skipFraction? (text : List Char) : Option (List Char) :=
  match text with
  | '.' :: rest => skipDigits? rest
  | _ => some text

/-- What is behind an exponent, if there is one. -/
def skipExponent? (text : List Char) : Option (List Char) :=
  match text with
  | c :: rest =>
    if c = 'e' ∨ c = 'E' then
      match rest with
      | '+' :: rest => skipDigits? rest
      | '-' :: rest => skipDigits? rest
      | _ => skipDigits? rest
    else some text
  | [] => some []

/-- The number without a minus sign in front. -/
def unsigned (lexeme : List Char) : List Char :=
  match lexeme with
  | '-' :: rest => rest
  | _ => lexeme

/-- The text is a number: a sign, a whole number, a fraction and an exponent, of which only the
whole number must be there. -/
def isNumeral (lexeme : List Char) : Bool :=
  ((skipWhole? (unsigned lexeme)).bind skipFraction?).bind skipExponent? == some []

/-! ## Texts -/

/-- The character is a blank between tokens. -/
def isSpace (c : Char) : Bool := c = ' ' || c = '\t' || c = '\n' || c = '\r'

/-- Reads a number whose first character is `first`, as far as its characters go. -/
def scanNumber (first : Char) (text : List Char) : Option (JsonToken × List Char) :=
  let lexeme := first :: text.takeWhile isNumberChar
  if isNumeral lexeme then some (number lexeme, text.dropWhile isNumberChar) else none

/-- Reads the token whose first character is `first`. -/
def scanToken (first : Char) (text : List Char) : Option (JsonToken × List Char) :=
  match first with
  | '\x7b' => some (openObject, text)
  | '\x7d' => some (closeObject, text)
  | '[' => some (openArray, text)
  | ']' => some (closeArray, text)
  | ':' => some (colon, text)
  | ',' => some (comma, text)
  | '"' => (scanString text).map fun (body, rest) => (string body, rest)
  | 'n' => match text with | 'u' :: 'l' :: 'l' :: rest => some (null, rest) | _ => none
  | 't' => match text with | 'r' :: 'u' :: 'e' :: rest => some (bool true, rest) | _ => none
  | 'f' => match text with | 'a' :: 'l' :: 's' :: 'e' :: rest => some (bool false, rest) | _ => none
  | _ => if isNumberChar first then scanNumber first text else none

theorem scanString_length {text body rest : List Char} (h : scanString text = some (body, rest)) :
    rest.length ≤ text.length := by
  fun_induction scanString text generalizing body rest with
  | case2 =>
    cases h
    exact Nat.le_succ _
  | case3 _ _ _ _ _ _ _ _ hs _ _ ih =>
    cases h
    have := ih hs
    simp only [List.length_cons]
    omega
  | case5 _ _ _ _ _ _ hs _ _ ih =>
    cases h
    have := ih hs
    simp only [List.length_cons]
    omega
  | case9 _ _ _ _ _ _ _ hs ih =>
    cases h
    have := ih hs
    simp only [List.length_cons]
    omega
  | case1 | case4 | case6 | case7 | case8 | case10 => contradiction

theorem scanToken_length {first : Char} {text rest : List Char} {token : JsonToken}
    (h : scanToken first text = some (token, rest)) : rest.length ≤ text.length := by
  have hs : ∀ body tail, scanString text = some (body, tail) → tail.length ≤ text.length :=
    fun _ _ => scanString_length
  unfold scanToken scanNumber at h
  cases hb : scanString text <;>
    split at h <;> grind [List.IsSuffix.length_le, List.dropWhile_suffix]

/-- The tokens of a text, if it consists of tokens and blanks. -/
def ofText (text : List Char) : Option (List JsonToken) :=
  match text with
  | [] => some []
  | c :: rest =>
    if isSpace c then ofText rest
    else
      match _h : scanToken c rest with
      | none => none
      | some (token, tail) => (ofText tail).map (token :: ·)
termination_by text.length
decreasing_by
  · simp
  · have := scanToken_length _h
    simp only [List.length_cons]
    omega

end JsonToken
end TabletopDice
