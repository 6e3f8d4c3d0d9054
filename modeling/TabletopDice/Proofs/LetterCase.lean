import Mathlib.Data.List.Forall2
import TabletopDice.Expression

/-! # The case of letters

Notation may be written in capitals.  `SameLetters` relates two texts that differ
in nothing but the case of ASCII letters.  Two texts are so related iff they are
the same in lower case (`sameLetters_iff`); lowering a text keeps its width, and
nothing but a digit becomes a digit.
-/
namespace TabletopDice

/-- The first character is an ASCII capital and the second is its small letter. -/
def IsCapitalOf (a b : Char) : Prop :=
  'A'.toNat ≤ a.toNat ∧ a.toNat ≤ 'Z'.toNat ∧ b.toNat = a.toNat + 32

/-- The same character, or the two cases of one ASCII letter. -/
def SameLetter (a b : Char) : Prop := a = b ∨ IsCapitalOf a b ∨ IsCapitalOf b a

/-- The same text but for the case of ASCII letters. -/
def SameLetters (text text' : List Char) : Prop := List.Forall₂ SameLetter text text'

/-! ## One character in lower case -/

theorem toNat_toLower (c : Char) :
    c.toLower.toNat = if 65 ≤ c.toNat ∧ c.toNat ≤ 90 then c.toNat + 32 else c.toNat := by
  have hn : c.toNat = c.val.toNat := rfl
  delta Char.toLower
  by_cases h : c.val ≥ 'A'.val ∧ c.val ≤ 'Z'.val
  · obtain ⟨h₁, h₂⟩ := h
    have h₁' : 65 ≤ c.toNat := UInt32.le_iff_toNat_le.mp h₁
    have h₂' : c.toNat ≤ 90 := UInt32.le_iff_toNat_le.mp h₂
    rw [dif_pos ⟨h₁, h₂⟩, if_pos ⟨h₁', h₂'⟩]
    show (c.val + 32).toNat = c.toNat + 32
    rw [UInt32.toNat_add, hn]
    exact Nat.mod_eq_of_lt (by simp; omega)
  · have h' : ¬(65 ≤ c.toNat ∧ c.toNat ≤ 90) := fun ⟨h₁, h₂⟩ =>
      h ⟨UInt32.le_iff_toNat_le.mpr h₁, UInt32.le_iff_toNat_le.mpr h₂⟩
    rw [dif_neg h, if_neg h']

theorem toLower_eq_self {c : Char} (h : ¬(65 ≤ c.toNat ∧ c.toNat ≤ 90)) : c.toLower = c := by
  rw [← Char.toNat_inj, toNat_toLower, if_neg h]

theorem sameLetter_iff {a b : Char} : SameLetter a b ↔ a.toLower = b.toLower := by
  rw [SameLetter, IsCapitalOf, IsCapitalOf, ← Char.toNat_inj, ← Char.toNat_inj, toNat_toLower,
    toNat_toLower]
  simp only [Char.reduceToNat]
  split <;> split <;> omega

theorem isDigit_iff {c : Char} : c.isDigit = true ↔ 48 ≤ c.toNat ∧ c.toNat ≤ 57 := by
  simp only [Char.isDigit, Bool.and_eq_true, decide_eq_true_eq]
  exact and_congr UInt32.le_iff_toNat_le UInt32.le_iff_toNat_le

/-- What is a digit in lower case is this digit. -/
theorem toLower_eq_of_isDigit_toLower {c : Char} (h : c.toLower.isDigit = true) :
    c.toLower = c := by
  refine toLower_eq_self fun hc => ?_
  rw [isDigit_iff, toNat_toLower, if_pos hc] at h
  omega

theorem toLower_digit {c : Char} (h : c.isDigit = true) : c.toLower = c := by
  refine toLower_eq_self fun hc => ?_
  rw [isDigit_iff] at h
  omega

theorem utf8Size_toLower (c : Char) : c.toLower.utf8Size = c.utf8Size := by
  by_cases h : 65 ≤ c.toNat ∧ c.toNat ≤ 90
  · have hsize : ∀ d : Char, d.toNat ≤ 127 → d.utf8Size = 1 := fun d hd =>
      Char.utf8Size_eq_one_iff.mpr (UInt32.le_iff_toNat_le.mpr hd)
    have hl : c.toLower.toNat = c.toNat + 32 := by rw [toNat_toLower, if_pos h]
    rw [hsize c (by omega), hsize c.toLower (by omega)]
  · rw [toLower_eq_self h]

/-! ## Whole texts in lower case -/

theorem sameLetters_iff {text text' : List Char} :
    SameLetters text text' ↔ text.map Char.toLower = text'.map Char.toLower := by
  have hs : SameLetter = fun a b => a.toLower = b.toLower :=
    funext₂ fun _ _ => propext sameLetter_iff
  rw [SameLetters, hs, ← List.forall₂_eq_eq_eq, List.forall₂_map_left_iff,
    List.forall₂_map_right_iff]

/-- Lower case takes as many bytes. -/
theorem width_map_toLower (text : List Char) : width (text.map Char.toLower) = width text := by
  induction text with
  | nil => rfl
  | cons c text ih => rw [List.map_cons, width_cons, width_cons, utf8Size_toLower, ih]

/-- A part of the text in lower case is, in some case, a part of the text in the same place. -/
theorem Span.Locates.of_map_toLower {span : Span} {text part : List Char}
    (h : span.Locates (text.map Char.toLower) part) :
    ∃ part', part'.map Char.toLower = part ∧ span.Locates text part' := by
  obtain ⟨front, back, ht, rfl⟩ := h
  obtain ⟨init, back', rfl, hinit, -⟩ := List.map_eq_append_iff.mp ht
  obtain ⟨front', part', rfl, rfl, rfl⟩ := List.map_eq_append_iff.mp hinit
  refine ⟨part', rfl, front', back', rfl, ?_⟩
  rw [behind, behind, width_map_toLower, width_map_toLower]

theorem map_toLower_digits {run : List Char} (hd : ∀ c ∈ run, c.isDigit = true) :
    run.map Char.toLower = run :=
  calc run.map Char.toLower = run.map id := List.map_congr_left fun c hc => toLower_digit (hd c hc)
    _ = run := List.map_id run

/-- A text that reads as digits in lower case is written in these digits. -/
theorem eq_of_map_toLower_eq_digits {text run : List Char} (h : text.map Char.toLower = run)
    (hd : ∀ c ∈ run, c.isDigit = true) : text = run := by
  subst h
  induction text with
  | nil => rfl
  | cons c text ih =>
    rw [List.map_cons, List.forall_mem_cons] at hd
    rw [List.map_cons, toLower_eq_of_isDigit_toLower hd.1, ← ih hd.2]

/-! ## Expressions in lower case -/

namespace Expression

theorem map_toLower_keyword (e : Expression) : e.keyword.map Char.toLower = e.keyword := by
  unfold keyword
  cases e.selector with
  | none => rfl
  | some s =>
    simp only [Option.elim_some, Selector.keyword]
    cases s.action <;> cases s.extreme <;> rfl

theorem map_toLower_signText (e : Expression) : e.signText.map Char.toLower = e.signText := by
  unfold signText
  cases e.modifier with
  | none => rfl
  | some m =>
    simp only [Option.elim_some]
    cases m.sign <;> rfl

namespace WellFormed

variable {e : Expression}

theorem isDigit_of_mem_digits (he : e.WellFormed) (f : Field) :
    ∀ c ∈ e.digits f, c.isDigit = true := by
  cases f with
  | count => exact he.count
  | sides => exact he.sides.2
  | selector =>
    intro c hc
    cases hs : e.selector with
    | none => simp [digits, hs] at hc
    | some s => exact (he.selector s hs).2 c (by simpa [digits, hs] using hc)
  | modifier =>
    intro c hc
    cases hm : e.modifier with
    | none => simp [digits, hm] at hc
    | some m => exact (he.modifier m hm).2 c (by simpa [digits, hm] using hc)

/-- What holds of digits and of letters holds of all that stands in front of a modifier. -/
theorem forall_mem_front {p : Char → Prop} (he : e.WellFormed)
    (hdigit : ∀ c, c.isDigit = true → p c) (hseparator : p 'd')
    (haction : ∀ a : Action, p a.letter) (hextreme : ∀ x : Extreme, p x.letter) :
    ∀ c ∈ e.before .selector ++ e.digits .selector, p c := by
  have hdigits : ∀ f, ∀ c ∈ e.digits f, p c :=
    fun f c hc => hdigit c (he.isDigit_of_mem_digits f c hc)
  intro c hc
  simp only [before, List.mem_append] at hc
  rcases hc with (((hc | hc) | hc) | hc) | hc
  · exact hdigits .count c hc
  · rw [List.mem_singleton.mp hc]
    exact hseparator
  · exact hdigits .sides c hc
  · exact e.forall_mem_keyword haction hextreme c hc
  · exact hdigits .selector c hc

theorem map_toLower_digits (he : e.WellFormed) (f : Field) :
    (e.digits f).map Char.toLower = e.digits f :=
  TabletopDice.map_toLower_digits (he.isDigit_of_mem_digits f)

/-- Expressions are written in small letters. -/
theorem map_toLower_text (he : e.WellFormed) : e.text.map Char.toLower = e.text := by
  have hc := he.map_toLower_digits .count
  have hs := he.map_toLower_digits .sides
  simp only [digits] at hc hs
  simp only [text, List.map_append, hc, hs, e.map_toLower_keyword, e.map_toLower_signText,
    he.map_toLower_digits]
  rfl

/-- A text that is the expression but for the case of its letters has the digits of each number
at the place where the expression has them. -/
theorem exists_split (he : e.WellFormed) {text : List Char} (h : SameLetters text e.text)
    (f : Field) :
    ∃ front back, text = front ++ e.digits f ++ back ∧ SameLetters front (e.before f) ∧
      SameLetters back (e.after f) := by
  rw [sameLetters_iff, ← e.before_append_digits_append_after f, List.map_append, List.map_append,
    he.map_toLower_digits] at h
  obtain ⟨init, back, rfl, hinit, hback⟩ := List.map_eq_append_iff.mp h
  obtain ⟨front, run, rfl, hfront, hrun⟩ := List.map_eq_append_iff.mp hinit
  -- digits have no case, so the run in between is what the expression has there
  have hdigits : run = e.digits f := eq_of_map_toLower_eq_digits hrun (he.isDigit_of_mem_digits f)
  exact ⟨front, back, by rw [hdigits], sameLetters_iff.mpr hfront, sameLetters_iff.mpr hback⟩

end WellFormed
end Expression
end TabletopDice
