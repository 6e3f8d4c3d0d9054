import TabletopDice.Journal
import TabletopDice.JsonToken
import TabletopDice.Proofs.Notation

/-! # What a message tells

A message quotes the text that was rejected and says why.  The text may be any, and
may itself hold quotes, escapes or another message.  But inside quotes each character
is written so that it can be read off again in front of whatever follows
(`readEscaped?_escaped`), and no character is written in a way that begins with a
quote.  So the quote behind the text is the first one that is read as a quote, what
was quoted is known up to there, and the reason is what follows.

Nothing in a message ends its line: the characters that would do so are among those
that quoted text spells by their code points.

The journal notes its events in words too.  What is noted with an event is enough to
tell it from every other one (`Event.fields_injective`).
-/
namespace TabletopDice

/-! ## Hexadecimal digits -/

/-- The number that hexadecimal digits stand for. -/
def hexadecimal (run : List Char) : Nat :=
  run.foldl (fun n c => 16 * n + (JsonToken.hexValue? c).getD 0) 0

/-- Numbers are written digit by digit: what holds of one digit, and of one more digit behind
others, holds of each number and its digits. -/
theorem toDigits_sixteen_induction {p : Nat → List Char → Prop}
    (digit : ∀ d < 16, p d [d.digitChar])
    (append : ∀ n run, p n run → ∀ d < 16, p (16 * n + d) (run ++ [d.digitChar])) (n : Nat) :
    p n (Nat.toDigits 16 n) := by
  induction n using Nat.strongRecOn with
  | ind n ih =>
    rcases Nat.lt_or_ge n 16 with hlt | hge
    · rw [Nat.toDigits_of_lt_base hlt]
      exact digit n hlt
    · have hlast := append (n / 16) _ (ih (n / 16) (by omega)) (n % 16) (Nat.mod_lt n (by decide))
      rw [Nat.div_add_mod] at hlast
      rw [Nat.toDigits_of_base_le (by decide) hge]
      exact hlast

theorem hexValue?_digitChar : ∀ d < 16, JsonToken.hexValue? d.digitChar = some d := by decide

theorem hexadecimal_toDigits (n : Nat) : hexadecimal (Nat.toDigits 16 n) = n := by
  refine toDigits_sixteen_induction (p := fun n run => hexadecimal run = n) ?_ ?_ n
  · intro d hd
    simp [hexadecimal, hexValue?_digitChar d hd]
  · intro n run hrun d hd
    rw [hexadecimal] at hrun
    simp [hexadecimal, hrun, hexValue?_digitChar d hd]

/-- What holds of the sixteen digits holds of the digits of a number. -/
theorem forall_mem_toDigits_sixteen {p : Char → Prop} (h : ∀ d < 16, p d.digitChar) (n : Nat) :
    ∀ c ∈ Nat.toDigits 16 n, p c := by
  refine toDigits_sixteen_induction (p := fun _ run => ∀ c ∈ run, p c) ?_ ?_ n
  · intro d hd
    exact List.forall_mem_singleton.mpr (h d hd)
  · intro n run hrun d hd c hc
    rcases List.mem_append.mp hc with hc | hc
    · exact hrun c hc
    · rw [List.mem_singleton.mp hc]
      exact h d hd

/-! ## One character inside quotes -/

/-- The character that an escape stands for, and the text behind it; the backslash has been
read. -/
def readEscape? : List Char → Option (Char × List Char)
  | [] => none
  | '0' :: rest => some ('\x00', rest)
  | 't' :: rest => some ('\t', rest)
  | 'n' :: rest => some ('\n', rest)
  | 'r' :: rest => some ('\r', rest)
  | 'u' :: '\x7b' :: rest =>
    some (Char.ofNat (hexadecimal (rest.takeWhile (· ≠ '\x7d'))),
      (rest.dropWhile (· ≠ '\x7d')).drop 1)
  | c :: rest => some (c, rest)

/-- The character that comes first inside quotes, and the text behind it, unless the quotes end
there. -/
def readEscaped? : List Char → Option (Char × List Char)
  | [] => none
  | c :: rest =>
    if c = '"' then none
    else if c = '\\' then readEscape? rest
    else some (c, rest)

theorem readEscape?_codePoint (c : Char) (rest : List Char) :
    readEscape? ('u' :: '\x7b' :: (Nat.toDigits 16 c.toNat ++ '\x7d' :: rest)) =
      some (c, rest) := by
  have hdigits : ∀ x ∈ Nat.toDigits 16 c.toNat, decide (x ≠ '\x7d') = true :=
    forall_mem_toDigits_sixteen (by decide) c.toNat
  rw [readEscape?, List.takeWhile_append_of_pos hdigits, List.dropWhile_append_of_pos hdigits]
  simp [hexadecimal_toDigits]

/-- Each character is read off as it was written, whatever follows. -/
theorem readEscaped?_escaped (c : Char) (rest : List Char) :
    readEscaped? (escaped c ++ rest) = some (c, rest) := by
  unfold escaped
  split
  · rfl
  · rfl
  · rfl
  · rfl
  · rfl
  · rfl
  · rename_i hquote hbackslash
    split
    · simpa [codePointEscape, readEscaped?] using readEscape?_codePoint c rest
    · simp only [List.singleton_append, readEscaped?, if_neg hquote, if_neg hbackslash]

/-! ## Quoted text -/

theorem readEscaped?_flatMap_cons (c : Char) (text rest : List Char) :
    readEscaped? ((c :: text).flatMap escaped ++ rest) =
      some (c, text.flatMap escaped ++ rest) := by
  rw [List.flatMap_cons, List.append_assoc, readEscaped?_escaped]

/-- Where the quotes end, no character is read. -/
theorem readEscaped?_quote (rest : List Char) : readEscaped? ('"' :: rest) = none := rfl

/-- Inside quotes a text can be read in one way, and the quotes end behind it. -/
theorem flatMap_escaped_append_cancel {text text' rest rest' : List Char}
    (h : text.flatMap escaped ++ '"' :: rest = text'.flatMap escaped ++ '"' :: rest') :
    text = text' ∧ rest = rest' := by
  have hread := congrArg readEscaped? h
  -- on text, one character at a time: both sides go on with the same one, or both end
  induction text generalizing text' with
  | nil =>
    cases text' with
    | nil => exact ⟨rfl, (List.cons.inj h).2⟩
    | cons c' text' =>
      rw [readEscaped?_flatMap_cons, List.flatMap_nil, List.nil_append, readEscaped?_quote] at hread
      contradiction
  | cons c text ih =>
    cases text' with
    | nil =>
      rw [readEscaped?_flatMap_cons, List.flatMap_nil, List.nil_append, readEscaped?_quote] at hread
      contradiction
    | cons c' text' =>
      rw [readEscaped?_flatMap_cons, readEscaped?_flatMap_cons, Option.some.injEq,
        Prod.mk.injEq] at hread
      obtain ⟨rfl, hbehind⟩ := hread
      obtain ⟨rfl, hrest⟩ := ih hbehind (congrArg readEscaped? hbehind)
      exact ⟨rfl, hrest⟩

/-- A quoted text is known from what begins with it, and so is what stands behind it. -/
theorem quoted_append_cancel {text text' rest rest' : List Char}
    (h : quoted text ++ rest = quoted text' ++ rest') : text = text' ∧ rest = rest' := by
  have hquoted : ∀ text rest : List Char,
      quoted text ++ rest = '"' :: (text.flatMap escaped ++ '"' :: rest) := by
    intro text rest
    simp [quoted]
  rw [hquoted, hquoted, List.cons.injEq] at h
  exact flatMap_escaped_append_cancel h.2

/-! ## Reasons -/

namespace Reason

/-- The reason that is put in certain words.  No two reasons share both their second and their
tenth character. -/
def ofText? (words : List Char) : Option Reason :=
  match words[1]?, words[9]? with
  | some 'm', some 'r' => some empty
  | some 'n', some 'x' => some invalid
  | some 'i', some 't' => some countTooLow
  | some 'o', some 'd' => some countTooHigh
  | some 'u', some ' ' => some sidesTooLow
  | some 'o', some 's' => some sidesTooHigh
  | some 'e', some 't' => some keepTooLow
  | some 'a', some 'e' => some keepTooHigh
  | some 'r', some 't' => some dropTooLow
  | some 'a', some 'o' => some dropTooHigh
  | some 'o', some 'i' => some modifierOutOfRange
  | _, _ => none

theorem ofText?_text (r : Reason) : ofText? r.text = some r := by
  cases r with
  | invalid =>
    have hparts : invalid.text = _ ++ _ := String.toList_append
    rw [hparts]
    decide +kernel
  | _ => decide +kernel

/-- Other reasons are put in other words. -/
theorem text_injective {r r' : Reason} (h : r.text = r'.text) : r = r' := by
  have hread := congrArg ofText? h
  rw [ofText?_text, ofText?_text] at hread
  exact Option.some.inj hread

theorem toString_inj {r r' : Reason} : toString r = toString r' ↔ r = r' :=
  ⟨fun h => text_injective (String.ofList_injective h), congrArg toString⟩

end Reason

/-! ## Text on one line -/

/-- The character is a control character, general category `Cc`. -/
def IsControl (c : Char) : Prop := c.toNat ≤ 0x1F ∨ 0x7F ≤ c.toNat ∧ c.toNat ≤ 0x9F

/-- The character ends a line: one of the feeds and returns from U+000A on, the next-line
character, or the separator of lines or of paragraphs. -/
def IsLineBreak (c : Char) : Prop :=
  0x0A ≤ c.toNat ∧ c.toNat ≤ 0x0D ∨ c.toNat = 0x85 ∨ c.toNat = 0x2028 ∨ c.toNat = 0x2029

/-- There is no control character in the text, and nothing that ends a line. -/
def OnOneLine (text : List Char) : Prop := ∀ c ∈ text, ¬IsControl c ∧ ¬IsLineBreak c

theorem OnOneLine.append {text text' : List Char} (h : OnOneLine text) (h' : OnOneLine text') :
    OnOneLine (text ++ text') :=
  fun c hc => (List.mem_append.mp hc).elim (h c) (h' c)

/-- The character is an ASCII character other than the control characters. -/
def isVisibleAscii (c : Char) : Bool := 0x20 ≤ c.toNat && c.toNat ≤ 0x7E

theorem onOneLine_of_ascii {text : List Char} (h : text.all isVisibleAscii = true) :
    OnOneLine text := by
  intro c hc
  have hascii := List.all_eq_true.mp h c hc
  rw [isVisibleAscii, Bool.and_eq_true, decide_eq_true_eq, decide_eq_true_eq] at hascii
  unfold IsControl IsLineBreak
  omega

/-- What shows as itself stays on the line: the separators that end one do not show. -/
theorem stays_of_isPrintable {c : Char} (h : isPrintable c = true) :
    ¬IsControl c ∧ ¬IsLineBreak c := by
  simp only [isPrintable, Bool.not_eq_true', Bool.or_eq_false_iff] at h
  obtain ⟨⟨⟨⟨⟨hcontrol, -⟩, hseparator⟩, -⟩, -⟩, -⟩ := h
  rw [← Bool.not_eq_true, inBlocks_iff] at hcontrol hseparator
  have hlow : ¬(0x00 ≤ c.toNat ∧ c.toNat ≤ 0x1F) := fun hc =>
    hcontrol ⟨(0x00, 0x1F), by decide, hc⟩
  have hhigh : ¬(0x7F ≤ c.toNat ∧ c.toNat ≤ 0x9F) := fun hc =>
    hcontrol ⟨(0x7F, 0x9F), by decide, hc⟩
  have hlines : ¬(0x2028 ≤ c.toNat ∧ c.toNat ≤ 0x2029) := fun hc =>
    hseparator ⟨(0x2028, 0x2029), by decide, hc⟩
  unfold IsControl IsLineBreak
  omega

theorem onOneLine_codePointEscape (c : Char) : OnOneLine (codePointEscape c) := by
  have hdigits : (Nat.toDigits 16 c.toNat).all isVisibleAscii = true :=
    List.all_eq_true.mpr (forall_mem_toDigits_sixteen (by decide) c.toNat)
  exact ((onOneLine_of_ascii (by decide)).append (onOneLine_of_ascii hdigits)).append
    (onOneLine_of_ascii (by decide))

/-- A character inside quotes stays on the line, whatever it is. -/
theorem onOneLine_escaped (c : Char) : OnOneLine (escaped c) := by
  unfold escaped
  split
  · exact onOneLine_of_ascii (by decide)
  · exact onOneLine_of_ascii (by decide)
  · exact onOneLine_of_ascii (by decide)
  · exact onOneLine_of_ascii (by decide)
  · exact onOneLine_of_ascii (by decide)
  · exact onOneLine_of_ascii (by decide)
  · split
    · exact onOneLine_codePointEscape c
    · rename_i hshows
      rw [Bool.or_eq_true, not_or, Bool.not_eq_true', Bool.not_eq_false] at hshows
      exact List.forall_mem_singleton.mpr (stays_of_isPrintable hshows.2)

theorem onOneLine_quoted (text : List Char) : OnOneLine (quoted text) := by
  have hinside : OnOneLine (text.flatMap escaped) := by
    intro x hx
    obtain ⟨c, -, hc⟩ := List.mem_flatMap.mp hx
    exact onOneLine_escaped c x hc
  have hquote : OnOneLine ['"'] := onOneLine_of_ascii (by decide)
  exact (hquote.append hinside).append hquote

/-- A quote and a newline have short escapes; a blank of no width is spelled by its code point. -/
example : quoted ['"', '\n', '\u200b'] =
    ['"', '\\', '"', '\\', 'n', '\\', 'u', '\x7b', '2', '0', '0', 'b', '\x7d', '"'] := by
  decide +kernel

theorem Reason.onOneLine_text (r : Reason) : OnOneLine r.text := by
  cases r with
  | invalid =>
    have hparts : Reason.invalid.text = _ ++ _ := String.toList_append
    rw [hparts]
    exact (onOneLine_of_ascii (by decide +kernel)).append (onOneLine_of_ascii (by decide +kernel))
  | _ => exact onOneLine_of_ascii (by decide +kernel)

/-! ## Messages -/

namespace Rejection

theorem toList_toString (r : Rejection) : (toString r).toList = r.text := String.toList_ofList

/-- A message is the quoted text, the same words in front of it and the reason behind. -/
theorem exists_text_eq : ∃ head, OnOneLine head ∧
    ∀ r : Rejection, r.text = head ++ (quoted r.input.toList ++ ([':', ' '] ++ r.reason.text)) := by
  refine ⟨"invalid dice expression ".toList, onOneLine_of_ascii (by decide +kernel), fun r => ?_⟩
  show (_ ++ _) ++ _ ++ _ = _
  -- the words in front are kept closed, for rewriting would try to evaluate them
  generalize "invalid dice expression ".toList = head
  simp

/-- **A message tells what was rejected and why, on one line.**  Messages are alike iff they are
about the same text and the same reason, the span aside.  No message has a control character or a
line end in it, whatever the text is. -/
theorem message_tells (r r' : Rejection) :
    (toString r = toString r' ↔ r.input = r'.input ∧ r.reason = r'.reason) ∧
      OnOneLine (toString r).toList := by
  obtain ⟨head, hhead, htext⟩ := exists_text_eq
  rw [← String.toList_inj, toList_toString, toList_toString, htext, htext, List.append_right_inj]
  refine ⟨⟨fun h => ?_, ?_⟩, ?_⟩
  · obtain ⟨hinput, hreason⟩ := quoted_append_cancel h
    exact ⟨String.toList_injective hinput,
      Reason.text_injective ((List.append_right_inj _).mp hreason)⟩
  · rintro ⟨hinput, hreason⟩
    rw [hinput, hreason]
  · have hcolon : OnOneLine [':', ' '] := onOneLine_of_ascii (by decide)
    exact hhead.append ((onOneLine_quoted _).append (hcolon.append r.reason.onOneLine_text))

end Rejection

/-! ## Notes -/

/-- An event is known from the values that are noted with it. -/
theorem Event.fields_injective {e e' : Event} (h : e.fields = e'.fields) : e = e' := by
  -- events of two kinds differ in their words
  cases e with
  | parsed input dice =>
    cases e' with
    | parsed input' dice' => simpa [fields, message, Dice.toString_inj] using h
    | rejected | rolled => simp [fields, message] at h
  | rejected input reason =>
    cases e' with
    | rejected input' reason' => simpa [fields, message, Reason.toString_inj] using h
    | parsed | rolled => simp [fields, message] at h
  | rolled dice total =>
    cases e' with
    | rolled dice' total' => simpa [fields, message, Dice.toString_inj] using h
    | parsed | rejected => simp [fields, message] at h

end TabletopDice
