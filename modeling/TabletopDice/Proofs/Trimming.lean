import Mathlib.Data.List.DropRight
import TabletopDice.Characters
import TabletopDice.Proofs.LetterCase

/-! # Blanks around a text

Trimming takes blanks off both ends of a text and nothing else.  A text of blanks
alone has nothing left, and an expression, which holds no blank, loses nothing.
More blanks around a text make no difference (`trim_append`), and neither does the
case of its letters (`trim_map_toLower`).

What a blank is, and what it means to stand between blanks, is said here without
trimming: `whiteSpaces` lists the characters one by one, and `Framed` takes a text
apart.  A text that is not blank can be taken apart in one way only, and trimming
finds it (`exists_framed`, `Framed.unique`).
-/
namespace TabletopDice

/-- The 25 characters with the `White_Space` property, one by one. -/
def whiteSpaces : List Char :=
  ['\t', '\n', '\x0b', '\x0c', '\r', ' ', '\u0085', '\u00a0', '\u1680', '\u2000', '\u2001',
    '\u2002', '\u2003', '\u2004', '\u2005', '\u2006', '\u2007', '\u2008', '\u2009', '\u200a',
    '\u2028', '\u2029', '\u202f', '\u205f', '\u3000']

/-- The text holds nothing but blanks. -/
def AllBlank (text : List Char) : Prop := ∀ c ∈ text, c ∈ whiteSpaces

instance (text : List Char) : Decidable (AllBlank text) := List.decidableBAll _ text

/-- The text stands in the whole between blanks, and neither begins nor ends with a blank. -/
structure Framed (whole ahead text behind : List Char) : Prop where
  eq : whole = ahead ++ text ++ behind
  ahead : AllBlank ahead
  behind : AllBlank behind
  ne : text ≠ []
  first : text.head ne ∉ whiteSpaces
  last : text.getLast ne ∉ whiteSpaces

/-! ## Blanks -/

/-- The ranges of blanks hold the listed characters and no others. -/
theorem isBlank_iff {c : Char} : isBlank c = true ↔ c ∈ whiteSpaces := by
  have hcodes : whiteSpaces.map Char.toNat =
      [0x09, 0x0A, 0x0B, 0x0C, 0x0D, 0x20, 0x85, 0xA0, 0x1680, 0x2000, 0x2001, 0x2002, 0x2003,
        0x2004, 0x2005, 0x2006, 0x2007, 0x2008, 0x2009, 0x200A, 0x2028, 0x2029, 0x202F, 0x205F,
        0x3000] := by rfl
  have hinj : Function.Injective Char.toNat := fun _ _ => Char.toNat_inj.mp
  rw [← List.mem_map_of_injective hinj, hcodes, isBlank, inBlocks_iff]
  simp only [blankBlocks, List.mem_cons, List.not_mem_nil, or_false, exists_eq_or_imp,
    exists_eq_left]
  omega

theorem isBlank_eq_false_iff {c : Char} : isBlank c = false ↔ c ∉ whiteSpaces := by
  rw [← isBlank_iff, Bool.not_eq_true]

theorem allBlank_iff {text : List Char} : AllBlank text ↔ ∀ c ∈ text, isBlank c = true :=
  forall₂_congr fun _ _ => isBlank_iff.symm

theorem allBlank_indent (text : List Char) : AllBlank (indent text) :=
  allBlank_iff.mpr fun _ hc => List.all_eq_true.mp List.all_takeWhile _ hc

/-- What is trimmed off the end of a text. -/
theorem exists_trimEnd (text : List Char) :
    ∃ back, AllBlank back ∧ trimEnd text ++ back = text :=
  ⟨text.rtakeWhile isBlank, allBlank_iff.mpr fun _ hc => List.mem_rtakeWhile_imp hc,
    List.rdropWhile_append_rtakeWhile⟩

/-- A text is its trimmed text between blanks. -/
theorem exists_trim (text : List Char) :
    ∃ back, AllBlank back ∧ text = indent text ++ trim text ++ back := by
  obtain ⟨back, hback, h⟩ := exists_trimEnd (trimStart text)
  refine ⟨back, hback, ?_⟩
  rw [List.append_assoc, trim, h, indent_append_trimStart]

theorem trim_eq_nil_iff {text : List Char} : trim text = [] ↔ AllBlank text := by
  constructor
  · intro h
    obtain ⟨back, hback, ht⟩ := exists_trim text
    rw [h, List.append_nil] at ht
    rw [ht]
    exact fun c hc => (List.mem_append.mp hc).elim (allBlank_indent text c) (hback c)
  · intro h
    rw [trim, trimStart, List.dropWhile_eq_nil_iff.mpr (allBlank_iff.mp h)]
    rfl

/-- A text that begins with no blank has none taken off its front. -/
theorem indent_eq_nil {text : List Char} (h : ∀ hne : text ≠ [], text.head hne ∉ whiteSpaces) :
    indent text = [] := by
  cases text with
  | nil => rfl
  | cons c text =>
    have hc : isBlank c = false := isBlank_eq_false_iff.mpr (h (List.cons_ne_nil c text))
    rw [indent, List.takeWhile_cons, hc]
    rfl

/-- A text that neither begins nor ends with a blank is not changed. -/
theorem trim_eq_self {text : List Char} (hfirst : ∀ hne : text ≠ [], text.head hne ∉ whiteSpaces)
    (hlast : ∀ hne : text ≠ [], text.getLast hne ∉ whiteSpaces) : trim text = text := by
  have hstart : trimStart text = text := by
    rw [← List.nil_append (trimStart text), ← indent_eq_nil hfirst, indent_append_trimStart]
  rw [trim, hstart]
  exact List.rdropWhile_eq_self_iff.mpr fun hne hblank => hlast hne (isBlank_iff.mp hblank)

/-- The printable ASCII characters are no blanks. -/
theorem isBlank_eq_false {c : Char} (h : 33 ≤ c.toNat ∧ c.toNat ≤ 126) : isBlank c = false := by
  rw [← Bool.not_eq_true, isBlank, inBlocks_iff]
  rintro ⟨b, hb, hc⟩
  simp only [blankBlocks, List.mem_cons, List.not_mem_nil, or_false] at hb
  rcases hb with rfl | rfl | rfl | rfl | rfl | rfl | rfl | rfl | rfl | rfl <;> omega

theorem isBlank_digit {c : Char} (h : c.isDigit = true) : isBlank c = false := by
  rw [isDigit_iff] at h
  exact isBlank_eq_false (by omega)

/-! ## Blanks and the case of letters -/

theorem isBlank_toLower (c : Char) : isBlank c.toLower = isBlank c := by
  by_cases h : 65 ≤ c.toNat ∧ c.toNat ≤ 90
  · have hl : c.toLower.toNat = c.toNat + 32 := by rw [toNat_toLower, if_pos h]
    rw [isBlank_eq_false (by omega : 33 ≤ c.toNat ∧ c.toNat ≤ 126), isBlank_eq_false (by omega)]
  · rw [toLower_eq_self h]

theorem isBlank_comp_toLower : isBlank ∘ Char.toLower = isBlank := funext isBlank_toLower

theorem indent_map_toLower (text : List Char) :
    indent (text.map Char.toLower) = (indent text).map Char.toLower := by
  rw [indent, List.takeWhile_map, isBlank_comp_toLower]
  rfl

theorem trim_map_toLower (text : List Char) :
    trim (text.map Char.toLower) = (trim text).map Char.toLower := by
  rw [trim, trimEnd, trimStart, List.dropWhile_map, ← List.map_reverse, List.dropWhile_map,
    ← List.map_reverse, isBlank_comp_toLower]
  rfl

theorem allBlank_map_toLower {text : List Char} :
    AllBlank (text.map Char.toLower) ↔ AllBlank text := by
  rw [allBlank_iff, allBlank_iff, List.forall_mem_map]
  simp only [isBlank_toLower]

/-! ## Blanks around a text -/

theorem trimStart_append_left {ahead : List Char} (h : AllBlank ahead) (text : List Char) :
    trimStart (ahead ++ text) = trimStart text :=
  List.dropWhile_append_of_pos (allBlank_iff.mp h)

theorem trimEnd_append_right {behind : List Char} (h : AllBlank behind) (text : List Char) :
    trimEnd (text ++ behind) = trimEnd text := by
  have hreverse : AllBlank behind.reverse := fun c hc => h c (List.mem_reverse.mp hc)
  rw [trimEnd, List.reverse_append, List.dropWhile_append_of_pos (allBlank_iff.mp hreverse),
    trimEnd]

theorem indent_append_left {ahead : List Char} (h : AllBlank ahead) (text : List Char) :
    indent (ahead ++ text) = ahead ++ indent text :=
  List.takeWhile_append_of_pos (allBlank_iff.mp h)

/-- What follows a text that is not blank does not change where it begins. -/
theorem indent_append_right {text : List Char} (h : ¬AllBlank text) (behind : List Char) :
    indent (text ++ behind) = indent text ∧
      trimStart (text ++ behind) = trimStart text ++ behind := by
  induction text with
  | nil => exact absurd nofun h
  | cons c text ih =>
    unfold indent trimStart at ih ⊢
    cases hc : isBlank c with
    | false => simp [hc]
    | true =>
      have htext : ¬AllBlank text :=
        fun htext => h (List.forall_mem_cons.mpr ⟨isBlank_iff.mp hc, htext⟩)
      obtain ⟨hindent, hstart⟩ := ih htext
      simp [hc, hindent, hstart]

theorem trim_append {ahead text behind : List Char} (hahead : AllBlank ahead)
    (htext : ¬AllBlank text) (hbehind : AllBlank behind) :
    trim (ahead ++ text ++ behind) = trim text := by
  rw [List.append_assoc, trim, trimStart_append_left hahead, (indent_append_right htext behind).2,
    trimEnd_append_right hbehind, trim]

theorem trimEnd_append_left {text : List Char} (h : ¬AllBlank text) (ahead : List Char) :
    trimEnd (ahead ++ text) = ahead ++ trimEnd text := by
  have hreverse : ¬AllBlank text.reverse :=
    fun hblank => h fun c hc => hblank c (List.mem_reverse.mpr hc)
  have hstart := (indent_append_right hreverse ahead.reverse).2
  unfold trimStart at hstart
  rw [trimEnd, List.reverse_append, hstart, List.reverse_append, List.reverse_reverse, trimEnd]

/-- What stands between texts that are not blank is not trimmed. -/
theorem mem_trim_append {front back : List Char} (hfront : ¬AllBlank front)
    (hback : ¬AllBlank back) (c : Char) : c ∈ trim (front ++ c :: back) := by
  rw [trim, (indent_append_right hfront _).2, List.append_cons, trimEnd_append_left hback]
  simp

/-! ## The text between the blanks -/

/-- A text that is not blank stands between the blanks around it. -/
theorem exists_framed {whole : List Char} (h : ¬AllBlank whole) :
    ∃ behind, Framed whole (indent whole) (trim whole) behind := by
  obtain ⟨behind, hbehind, heq⟩ := exists_trim whole
  have hne : trim whole ≠ [] := fun hnil => h (trim_eq_nil_iff.mp hnil)
  refine ⟨behind, heq, allBlank_indent whole, hbehind, hne, ?_, ?_⟩
  · -- trimming the end leaves the first character where it is
    obtain ⟨back, -, hstart⟩ : ∃ back, AllBlank back ∧ trim whole ++ back = trimStart whole :=
      exists_trimEnd (trimStart whole)
    have hhead : (trimStart whole).head? = some ((trim whole).head hne) := by
      rw [← hstart, List.head?_append_of_ne_nil _ hne, List.head?_eq_some_head hne]
    have hnot := List.head?_dropWhile_not isBlank whole
    rw [← trimStart, hhead] at hnot
    exact isBlank_eq_false_iff.mp hnot
  · exact fun hmem => List.rdropWhile_last_not isBlank (trimStart whole) hne (isBlank_iff.mpr hmem)

namespace Framed

variable {whole ahead text behind : List Char}

theorem not_allBlank (h : Framed whole ahead text behind) : ¬AllBlank text :=
  fun hblank => h.first (hblank _ (List.head_mem h.ne))

theorem trim_eq (h : Framed whole ahead text behind) : trim whole = text := by
  rw [h.eq, trim_append h.ahead h.not_allBlank h.behind]
  exact trim_eq_self (fun _ => h.first) fun _ => h.last

theorem indent_eq (h : Framed whole ahead text behind) : indent whole = ahead := by
  rw [h.eq, List.append_assoc, indent_append_left h.ahead, (indent_append_right h.not_allBlank _).1,
    indent_eq_nil fun _ => h.first, List.append_nil]

/-- There is only one way to take the blanks off. -/
theorem unique {ahead' text' behind' : List Char} (h : Framed whole ahead text behind)
    (h' : Framed whole ahead' text' behind') : ahead = ahead' ∧ text = text' :=
  ⟨h.indent_eq.symm.trans h'.indent_eq, h.trim_eq.symm.trans h'.trim_eq⟩

end Framed

/-! ## Expressions hold no blank -/

namespace Expression.WellFormed

variable {e : Expression}

/-- There is no blank in an expression. -/
theorem isBlank_of_mem_text (he : e.WellFormed) :
    ∀ c ∈ e.text, isBlank c = false := by
  have haction : ∀ a : Action, isBlank a.letter = false := by
    intro a
    cases a <;> exact isBlank_eq_false (by decide)
  have hextreme : ∀ x : Extreme, isBlank x.letter = false := by
    intro x
    cases x <;> exact isBlank_eq_false (by decide)
  have hsign : ∀ s : Sign, isBlank s.char = false := by
    intro s
    cases s <;> exact isBlank_eq_false (by decide)
  have hfront : ∀ c ∈ e.before .selector ++ e.digits .selector, isBlank c = false :=
    he.forall_mem_front (fun _ => isBlank_digit) (haction .drop) haction hextreme
  have hsigns : ∀ c ∈ e.signText, isBlank c = false := e.forall_mem_signText hsign
  have htext : e.text =
      e.before .selector ++ e.digits .selector ++ e.signText ++ e.digits .modifier := rfl
  intro c hc
  rw [htext, List.mem_append, List.mem_append] at hc
  rcases hc with (hc | hc) | hc
  · exact hfront c hc
  · exact hsigns c hc
  · exact isBlank_digit (he.isDigit_of_mem_digits .modifier c hc)

/-- There is none in a text that differs from it in the case of letters. -/
theorem isBlank_of_sameLetters (he : e.WellFormed) {text : List Char}
    (h : SameLetters text e.text) : ∀ c ∈ text, isBlank c = false := by
  intro c hc
  rw [← isBlank_toLower]
  refine he.isBlank_of_mem_text _ ?_
  rw [← he.map_toLower_text, ← sameLetters_iff.mp h]
  exact List.mem_map_of_mem hc

/-- So blanks around it can only be taken off where it begins and ends. -/
theorem framed (he : e.WellFormed) {ahead text behind : List Char} (h : SameLetters text e.text)
    (hahead : AllBlank ahead) (hbehind : AllBlank behind) :
    Framed (ahead ++ text ++ behind) ahead text behind := by
  have hblank := he.isBlank_of_sameLetters h
  have hne : text ≠ [] := by
    rintro rfl
    have hnil := h.length_eq
    simp [text] at hnil
  exact ⟨rfl, hahead, hbehind, hne, isBlank_eq_false_iff.mp (hblank _ (List.head_mem hne)),
    isBlank_eq_false_iff.mp (hblank _ (List.getLast_mem hne))⟩

end Expression.WellFormed
end TabletopDice
