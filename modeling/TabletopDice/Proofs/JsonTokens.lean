import Mathlib.Data.List.Chain
import Mathlib.Data.List.TakeWhile
import TabletopDice.JsonToken

/-! # JSON tokens read back

A token is read as it is written wherever its end can be seen: a string ends at
its quote, and a number at the first character that could not be part of it.  So
a text of tokens falls apart into just these tokens, although there is nothing
between them, as long as no two of them in a row are numbers
(`ofText_flatMap_text`).
-/
namespace TabletopDice
namespace JsonToken

/-- The inside of a string that stands for itself: there is no quote, no backslash and no control
character in it. -/
def PlainBody (body : List Char) : Prop := ∀ c ∈ body, c ≠ '"' ∧ c ≠ '\\' ∧ ¬c < ' '

instance (body : List Char) : Decidable (PlainBody body) := List.decidableBAll _ body

/-- A number is a numeral, and a string stands for itself.  Other tokens are always plain. -/
def Plain : JsonToken → Prop
  | number lexeme => isNumeral lexeme = true ∧ ∀ c ∈ lexeme, isNumberChar c = true
  | string body => PlainBody body
  | _ => True

/-- The token is a number. -/
def isNumber : JsonToken → Bool
  | number _ => true
  | _ => false

/-- The tokens can be told apart without anything between them. -/
def Apart (t u : JsonToken) : Prop := t.isNumber = false ∨ u.isNumber = false

/-- The text does not go on with a character of a number. -/
def StopsNumber (text : List Char) : Prop := ∀ c ∈ text.head?, isNumberChar c = false

/-! ## Strings -/

theorem scanString_append {body : List Char} (h : PlainBody body) (rest : List Char) :
    scanString (body ++ '"' :: rest) = some (body, rest) := by
  induction body with
  | nil =>
    rw [List.nil_append, scanString.eq_def]
    exact if_pos rfl
  | cons c body ih =>
    obtain ⟨⟨hquote, hslash, hcontrol⟩, hbody⟩ := List.forall_mem_cons.mp h
    rw [List.cons_append, scanString.eq_def]
    simp only [hquote, hslash, hcontrol, if_false, ih hbody]

/-! ## Numbers -/

theorem isNumberChar_digit {c : Char} (h : c.isDigit = true) : isNumberChar c = true := by
  simp [isNumberChar, h]

theorem isSpace_of_isNumberChar {c : Char} (h : isNumberChar c = true) : isSpace c = false := by
  rw [← Bool.not_eq_true]
  intro hspace
  simp only [isSpace, Bool.or_eq_true, decide_eq_true_eq] at hspace
  rcases hspace with ((rfl | rfl) | rfl) | rfl <;> exact absurd h (by decide)

theorem scanToken_of_isNumberChar {c : Char} (h : isNumberChar c = true) (text : List Char) :
    scanToken c text = scanNumber c text := by
  unfold scanToken
  split
  -- none of the characters that begin another token is part of a number
  all_goals first
    | exact absurd h (by decide)
    | exact if_pos h

theorem scanNumber_append {c : Char} {lexeme rest : List Char}
    (h : (number (c :: lexeme)).Plain) (hrest : StopsNumber rest) :
    scanNumber c (lexeme ++ rest) = some (number (c :: lexeme), rest) := by
  obtain ⟨hnumeral, hchars⟩ := h
  have htail : ∀ d ∈ lexeme, isNumberChar d = true :=
    fun d hd => hchars d (List.mem_cons_of_mem _ hd)
  simp only [scanNumber, takeWhile_run htail hrest, dropWhile_run htail hrest, hnumeral, if_true]

/-- The digits of a number are all of it. -/
theorem skipWhole?_decimal (n : Nat) : skipWhole? (decimal n) = some [] := by
  by_cases hn : n = 0
  · rw [hn]
    rfl
  · have hdigits := (isNumber_decimal n).2
    have hhead := head?_decimal_ne_zero hn
    cases hd : decimal n with
    | nil => exact absurd hd (isNumber_decimal n).1
    | cons c run =>
      rw [hd] at hdigits hhead
      obtain ⟨hc, hrun⟩ := List.forall_mem_cons.mp hdigits
      have hwhole : skipWhole? (c :: run) = skipDigits? (c :: run) := by
        unfold skipWhole?
        split
        · rename_i hzero
          cases hzero
          exact absurd rfl hhead
        · rfl
      rw [hwhole, skipDigits?, if_pos hc, List.dropWhile_eq_nil_iff.mpr hrun]

theorem isNumeral_of_unsigned {lexeme : List Char} {n : Nat} (h : unsigned lexeme = decimal n) :
    isNumeral lexeme = true := by
  rw [isNumeral, h, skipWhole?_decimal]
  rfl

theorem minus_notMem_decimal (n : Nat) : '-' ∉ decimal n :=
  fun h => absurd ((isNumber_decimal n).2 '-' h) (by decide)

theorem unsigned_decimal (n : Nat) : unsigned (decimal n) = decimal n := by
  unfold unsigned
  split
  · rename_i hminus
    exact absurd (hminus ▸ List.mem_cons_self) (minus_notMem_decimal n)
  · rfl

theorem plain_decimal (n : Nat) : (number (decimal n)).Plain :=
  ⟨isNumeral_of_unsigned (unsigned_decimal n),
    fun c hc => isNumberChar_digit ((isNumber_decimal n).2 c hc)⟩

theorem plain_integer (z : Int) : (number (integer z)).Plain := by
  unfold integer
  split
  · obtain ⟨-, hchars⟩ := plain_decimal z.natAbs
    exact ⟨isNumeral_of_unsigned rfl, List.forall_mem_cons.mpr ⟨by decide, hchars⟩⟩
  · exact plain_decimal z.natAbs

/-! ## Texts -/

/-- A number has come to its end where another token follows. -/
theorem stopsNumber_text {t : JsonToken} (h : t.isNumber = false) (rest : List Char) :
    StopsNumber (t.text ++ rest) := by
  intro c hc
  cases t with
  | number lexeme => contradiction
  | bool b => cases b <;> cases hc <;> rfl
  | _ => cases hc; rfl

theorem ofText_cons {c : Char} {tail rest : List Char} {t : JsonToken} (hspace : isSpace c = false)
    (h : scanToken c tail = some (t, rest)) : ofText (c :: tail) = (ofText rest).map (t :: ·) := by
  rw [ofText, hspace]
  simp only [Bool.false_eq_true, if_false]
  split
  · rename_i hnone
    rw [h] at hnone
    contradiction
  · rename_i hsome
    rw [h] at hsome
    cases hsome
    rfl

/-- A token is read as it is written, if its end can be seen. -/
theorem ofText_text_append {t : JsonToken} (h : t.Plain) {rest : List Char}
    (hrest : t.isNumber = true → StopsNumber rest) :
    ofText (t.text ++ rest) = (ofText rest).map (t :: ·) := by
  cases t with
  | number lexeme =>
    cases lexeme with
    | nil => exact absurd h.1 (by decide)
    | cons c lexeme =>
      have hc : isNumberChar c = true := h.2 c List.mem_cons_self
      refine ofText_cons (isSpace_of_isNumberChar hc) ?_
      exact (scanToken_of_isNumberChar hc _).trans (scanNumber_append h (hrest rfl))
  | string body =>
    show ofText ('"' :: (body ++ ['"'] ++ rest)) = _
    refine ofText_cons rfl ?_
    rw [List.append_assoc]
    show (scanString (body ++ '"' :: rest)).map _ = _
    rw [scanString_append h]
    rfl
  | bool b => cases b <;> exact ofText_cons rfl rfl
  | _ => exact ofText_cons rfl rfl

/-- **A text of tokens is read as these tokens**, if no two numbers follow upon each other. -/
theorem ofText_flatMap_text {tokens : List JsonToken} (hplain : ∀ t ∈ tokens, t.Plain)
    (hapart : tokens.IsChain Apart) : ofText (tokens.flatMap text) = some tokens := by
  induction tokens with
  | nil => rw [List.flatMap_nil, ofText]
  | cons t tokens ih =>
    obtain ⟨ht, htokens⟩ := List.forall_mem_cons.mp hplain
    have hstop : t.isNumber = true → StopsNumber (tokens.flatMap text) := by
      intro hnumber
      cases tokens with
      | nil => exact fun c hc => absurd hc (Option.not_mem_none c)
      | cons u tokens =>
        have hu : u.isNumber = false := by
          rcases List.isChain_cons_cons.mp hapart with ⟨hno | hu, -⟩
          · rw [hnumber] at hno
            contradiction
          · exact hu
        rw [List.flatMap_cons]
        exact stopsNumber_text hu _
    rw [List.flatMap_cons, ofText_text_append ht hstop, ih htokens hapart.tail]
    rfl

end JsonToken
end TabletopDice
