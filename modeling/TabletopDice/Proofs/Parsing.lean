import TabletopDice.Proofs.MachineWords
import TabletopDice.Proofs.Numbers
import TabletopDice.Proofs.Scanning
import TabletopDice.Proofs.Trimming

/-! # What reading comes to

A string spells an expression if it is the expression's text, up to the blanks
around it and the case of its letters.  It spells one expression at most.  So
reading has three outcomes, told apart without a scan: the string is blank, it
spells nothing, or it spells an expression, whose numbers decide the rest.
-/
namespace TabletopDice

/-! ## Byte ranges of a string

A `Span` counts the bytes of a list of characters.  A string keeps its text as
bytes, and `Span.Cuts` says for the string itself what a range is good for: both
of its ends are on character boundaries, and the bytes between them are those of
a certain part.  Every located range is one (`Span.Locates.cuts`).
-/

theorem width_eq_utf8ByteSize (text : List Char) :
    width text = (String.ofList text).utf8ByteSize := by
  induction text with
  | nil => rfl
  | cons c text ih =>
    rw [String.ofList_cons, String.utf8ByteSize_append, String.utf8ByteSize_singleton,
      width_cons, ih]

/-- A string is as wide as it has bytes. -/
theorem width_toList (s : String) : width s.toList = s.utf8ByteSize := by
  rw [width_eq_utf8ByteSize, String.ofList_toList]

/-- The end of a beginning of a string is on a character boundary. -/
theorem isValid_of_toList_eq_append {s : String} {front back : List Char}
    (h : s.toList = front ++ back) : String.Pos.Raw.IsValid s ⟨width front⟩ := by
  refine String.Pos.Raw.isValid_iff_exists_append.mpr
    ⟨String.ofList front, String.ofList back, ?_, ?_⟩
  · rw [← String.ofList_append, ← h, String.ofList_toList]
  · rw [String.Pos.Raw.ext_iff, String.byteIdx_rawEndPos, width_eq_utf8ByteSize]

namespace Span

/-- The range lies within the string, both of its ends on character boundaries, and holds
exactly the bytes of `part`. -/
structure Cuts (span : Span) (s : String) (part : List Char) : Prop where
  ordered : span.start ≤ span.stop
  start : String.Pos.Raw.IsValid s ⟨span.start⟩
  stop : String.Pos.Raw.IsValid s ⟨span.stop⟩
  bytes : s.toByteArray.extract span.start span.stop = (String.ofList part).toByteArray

/-- A range that holds a part of the text cuts this part out of the string. -/
theorem Locates.cuts {span : Span} {s : String} {part : List Char}
    (h : span.Locates s.toList part) : span.Cuts s part := by
  obtain ⟨front, back, ht, rfl⟩ := h
  have hs : s = String.ofList front ++ String.ofList part ++ String.ofList back := by
    rw [← String.ofList_append, ← String.ofList_append, ← ht, String.ofList_toList]
  refine ⟨Nat.le_add_right _ _, ?_, ?_, ?_⟩
  · exact isValid_of_toList_eq_append (by rw [ht, List.append_assoc])
  · show String.Pos.Raw.IsValid s ⟨width front + width part⟩
    rw [← width_append]
    exact isValid_of_toList_eq_append ht
  · have hf : width front = (String.ofList front).toByteArray.size := by
      rw [width_eq_utf8ByteSize, String.size_toByteArray]
    have hp : width part = (String.ofList part).toByteArray.size := by
      rw [width_eq_utf8ByteSize, String.size_toByteArray]
    rw [hs, String.toByteArray_append, String.toByteArray_append, ByteArray.append_assoc]
    show ByteArray.extract _ (width front + 0) (width front + width part) = _
    rw [hf, hp, ByteArray.extract_append_size_add, ByteArray.extract_append_eq_left rfl]

end Span

/-! ## What a string spells -/

/-- The string is the text of the expression, blanks around it and the case of its letters
aside. -/
def Spells (s : String) (e : Expression) : Prop :=
  e.WellFormed ∧ ∃ ahead text behind, AllBlank ahead ∧ SameLetters text e.text ∧ AllBlank behind ∧
    s.toList = ahead ++ text ++ behind

/-- The range holds the digits of a number at the place where the string spells them: blanks and
what the expression has in front of the number lie ahead of it, and nothing but the rest of the
expression and blanks lies behind. -/
def Span.Marks (span : Span) (s : String) (e : Expression) (f : Field) : Prop :=
  ∃ ahead front back behind, AllBlank ahead ∧ SameLetters front (e.before f) ∧
    SameLetters back (e.after f) ∧ AllBlank behind ∧
    s.toList = ahead ++ front ++ e.digits f ++ (back ++ behind) ∧
    span = .behind (ahead ++ front) (e.digits f)

theorem Span.Marks.locates {span : Span} {s : String} {e : Expression} {f : Field}
    (h : span.Marks s e f) : span.Locates s.toList (e.digits f) := by
  obtain ⟨ahead, front, back, behind, -, -, -, -, hs, rfl⟩ := h
  exact ⟨ahead ++ front, back ++ behind, hs, rfl⟩

/-- What trimming leaves is the text that the string spells. -/
theorem spells_iff_trim {s : String} {e : Expression} :
    Spells s e ↔ e.WellFormed ∧ SameLetters (trim s.toList) e.text := by
  constructor
  · rintro ⟨he, ahead, text, behind, hahead, hletters, hbehind, hs⟩
    have hframed := he.framed hletters hahead hbehind
    rw [hs, hframed.trim_eq]
    exact ⟨he, hletters⟩
  · rintro ⟨he, hletters⟩
    obtain ⟨behind, hbehind, hs⟩ := exists_trim s.toList
    exact ⟨he, _, _, behind, allBlank_indent _, hletters, hbehind, hs⟩

theorem Spells.sameLetters {s : String} {e : Expression} (h : Spells s e) :
    SameLetters (trim s.toList) e.text := (spells_iff_trim.mp h).2

theorem spells_iff {s : String} {e : Expression} :
    Spells s e ↔ scan ((trim s.toList).map Char.toLower) = .ok e := by
  rw [scan_eq_ok_iff, spells_iff_trim, sameLetters_iff]
  constructor
  · rintro ⟨he, h⟩
    exact ⟨he, (h.trans he.map_toLower_text).symm⟩
  · rintro ⟨he, h⟩
    exact ⟨he, (he.map_toLower_text.trans h).symm⟩

/-- A string spells one expression at most. -/
theorem Spells.unique {s : String} {e e' : Expression} (h : Spells s e) (h' : Spells s e') :
    e = e' := by
  refine Expression.text_injective h.1 h'.1 ?_
  rw [← h.1.map_toLower_text, ← h'.1.map_toLower_text]
  exact (sameLetters_iff.mp h.sameLetters).symm.trans (sameLetters_iff.mp h'.sameLetters)

theorem grammatical_iff {s : String} :
    Grammatical ((trim s.toList).map Char.toLower) ↔ ∃ e, Spells s e :=
  exists_congr fun _ => scan_eq_ok_iff.symm.trans spells_iff.symm

/-- A blank string spells nothing. -/
theorem Spells.not_allBlank {s : String} {e : Expression} (h : Spells s e) :
    ¬AllBlank s.toList := by
  intro hblank
  have hletters := h.sameLetters
  rw [trim_eq_nil_iff.mpr hblank, sameLetters_iff, h.1.map_toLower_text] at hletters
  simp [Expression.text] at hletters

/-- The span of a number, shifted by the blanks in front, is where the string spells it. -/
theorem Spells.marks {s : String} {e : Expression} (h : Spells s e) (f : Field) :
    ((e.span f).shift (width (indent s.toList))).Marks s e f := by
  obtain ⟨behind, hbehind, hs⟩ := exists_trim s.toList
  obtain ⟨front, back, htrim, hfront, hback⟩ := h.1.exists_split h.sameLetters f
  refine ⟨indent s.toList, front, back, behind, allBlank_indent _, hfront, hback, hbehind, ?_, ?_⟩
  · rw [htrim] at hs
    simpa using hs
  · -- the case of a letter does not change its width
    have hwidth : width (e.before f) = width front := by
      rw [← width_map_toLower front, sameLetters_iff.mp hfront, width_map_toLower]
    rw [Expression.span, Span.behind, hwidth]
    exact Span.shift_behind front (e.digits f) (indent s.toList)

/-! ## The three outcomes -/

/-- A string is blank, or the scan of it halts, or it spells an expression. -/
theorem allBlank_or_halts_or_spells (s : String) :
    AllBlank s.toList ∨
      (¬AllBlank s.toList ∧ ∃ halt, scan ((trim s.toList).map Char.toLower) = .error halt) ∨
      ∃ e, Spells s e := by
  by_cases hblank : AllBlank s.toList
  · exact Or.inl hblank
  · cases hscan : scan ((trim s.toList).map Char.toLower) with
    | error halt => exact Or.inr (Or.inl ⟨hblank, halt, rfl⟩)
    | ok e => exact Or.inr (Or.inr ⟨e, spells_iff.mpr hscan⟩)

theorem parse_of_allBlank {s : String} (h : AllBlank s.toList) :
    parse s = .error ⟨s, .empty, ⟨0, s.utf8ByteSize⟩⟩ := by
  rw [parse, readDice, trim_eq_nil_iff.mpr h, width_toList]
  rfl

/-- Text that is not blank is read in lower case and without the blanks around it. -/
theorem parse_of_not_allBlank {s : String} (h : ¬AllBlank s.toList) :
    parse s =
      match readExpression ((trim s.toList).map Char.toLower) with
      | .error (reason, span) => .error ⟨s, reason, span.shift (width (indent s.toList))⟩
      | .ok d => .ok d := by
  have hne : (trim s.toList).isEmpty = false :=
    List.isEmpty_eq_false_iff.mpr fun hnil => h (trim_eq_nil_iff.mp hnil)
  simp only [parse, readDice, hne, Bool.false_eq_true, if_false]
  cases readExpression ((trim s.toList).map Char.toLower) with
  | error fault => rfl
  | ok d => rfl

theorem parse_of_scan_eq_error {s : String} (h : ¬AllBlank s.toList) {halt : Halt}
    (hscan : scan ((trim s.toList).map Char.toLower) = .error halt) :
    parse s = .error ⟨s, .invalid,
      (halt.span (width (trim s.toList))).shift (width (indent s.toList))⟩ := by
  rw [parse_of_not_allBlank h, readExpression, hscan, width_map_toLower]

theorem parse_of_spells {s : String} {e : Expression} (h : Spells s e) :
    parse s =
      match e.judge with
      | .error (reason, f) =>
        .error ⟨s, reason, (e.span f).shift (width (indent s.toList))⟩
      | .ok d => .ok d := by
  rw [parse_of_not_allBlank h.not_allBlank, readExpression, spells_iff.mp h]
  simp only [e.check_eq_judge]
  cases e.judge with
  | error fault => rfl
  | ok d => rfl

/-! ## Accepted notation -/

/-- What a string spells is read as dice with its numbers, if these are within the limits. -/
theorem Spells.parse_eq_ok_iff {s : String} {e : Expression} (he : Spells s e) {d : Dice} :
    parse s = .ok d ↔ e.numbers = d.numbers ∧ d.Legal := by
  rw [parse_of_spells he, ← Expression.judge_eq_ok_iff]
  cases e.judge with
  | error fault => exact ⟨nofun, nofun⟩
  | ok d' => simp only [Except.ok.injEq]

theorem exists_spells_of_parse_eq_ok {s : String} {d : Dice} (h : parse s = .ok d) :
    ∃ e, Spells s e := by
  rcases allBlank_or_halts_or_spells s with hblank | ⟨hblank, halt, hscan⟩ | he
  · rw [parse_of_allBlank hblank] at h
    contradiction
  · rw [parse_of_scan_eq_error hblank hscan] at h
    contradiction
  · exact he

/-- What is read from notation lies within the limits. -/
theorem legal_of_parse_eq_ok {s : String} {d : Dice} (h : parse s = .ok d) : d.Legal := by
  obtain ⟨e, he⟩ := exists_spells_of_parse_eq_ok h
  exact (he.parse_eq_ok_iff.mp h).2

/-- **Dice are read from their notation and from nothing else.**  A string is read as certain dice
iff it spells an expression that gives their numbers, and these are within the limits.  The
expression is the only one that the string spells. -/
theorem parse_eq_ok_iff_exists_spells (s : String) (d : Dice) :
    (parse s = .ok d ↔ ∃ e, Spells s e ∧ e.numbers = d.numbers ∧ d.Legal) ∧
      ∀ e e', Spells s e → Spells s e' → e = e' := by
  refine ⟨⟨fun h => ?_, ?_⟩, fun e e' => Spells.unique⟩
  · obtain ⟨e, he⟩ := exists_spells_of_parse_eq_ok h
    exact ⟨e, he, he.parse_eq_ok_iff.mp h⟩
  · rintro ⟨e, he, hd⟩
    exact he.parse_eq_ok_iff.mpr hd

/-! ## Rejected notation -/

/-- What a string spells is rejected for the first check that its numbers fail, at the place of
the number that fails it. -/
theorem Spells.of_parse_eq_error {s : String} {e : Expression} (he : Spells s e) {r : Rejection}
    (h : parse s = .error r) :
    r.input = s ∧ e.numbers.FirstFails r.reason ∧
      ∃ f, r.reason.field? = some f ∧ r.span.Marks s e f := by
  rw [parse_of_spells he] at h
  cases hjudge : e.judge with
  | ok d =>
    rw [hjudge] at h
    contradiction
  | error fault =>
    obtain ⟨reason, f⟩ := fault
    rw [hjudge] at h
    cases h
    obtain ⟨hfirst, hfield⟩ := Expression.firstFails_of_judge hjudge
    exact ⟨rfl, hfirst, f, hfield, he.marks f⟩

/-- **A rejection names the first check that fails, and where.**  A blank string is empty; another
is invalid iff it is not in the grammar, whatever its numbers are; and one in the grammar spells an
expression, the reason is the first check that its numbers fail, and the span holds exactly the
digits of the number at fault. -/
theorem rejection_of_parse_eq_error {s : String} {r : Rejection} (h : parse s = .error r) :
    r.input = s ∧
      (r.reason = .empty ↔ AllBlank s.toList) ∧
      (r.reason = .empty → r.span = ⟨0, s.utf8ByteSize⟩) ∧
      (¬AllBlank s.toList →
        (r.reason = .invalid ↔ ¬Grammatical ((trim s.toList).map Char.toLower))) ∧
      (Grammatical ((trim s.toList).map Char.toLower) →
        ∃ e, Spells s e ∧ e.numbers.FirstFails r.reason ∧
          ∃ f, r.reason.field? = some f ∧ r.span.Marks s e f ∧ r.span.Cuts s (e.digits f)) := by
  rw [grammatical_iff]
  rcases allBlank_or_halts_or_spells s with hblank | ⟨hblank, halt, hscan⟩ | ⟨e, he⟩
  · rw [parse_of_allBlank hblank] at h
    cases h
    refine ⟨rfl, ⟨fun _ => hblank, fun _ => rfl⟩, fun _ => rfl, fun hn => absurd hblank hn, ?_⟩
    rintro ⟨e, he⟩
    exact absurd hblank he.not_allBlank
  · have hno : ¬∃ e, Spells s e := by
      rintro ⟨e, he⟩
      rw [spells_iff, hscan] at he
      contradiction
    rw [parse_of_scan_eq_error hblank hscan] at h
    cases h
    exact ⟨rfl, ⟨nofun, fun hb => absurd hb hblank⟩, nofun, fun _ => ⟨fun _ => hno, fun _ => rfl⟩,
      fun hspells => absurd hspells hno⟩
  · obtain ⟨hinput, hfirst, f, hfield, hmarks⟩ := he.of_parse_eq_error h
    exact ⟨hinput,
      ⟨fun hr => absurd hr hfirst.ne_empty, fun hb => absurd hb he.not_allBlank⟩,
      fun hr => absurd hr hfirst.ne_empty,
      fun _ => ⟨fun hr => absurd hr hfirst.ne_invalid, fun hno => absurd ⟨e, he⟩ hno⟩,
      fun _ => ⟨e, he, hfirst, f, hfield, hmarks, hmarks.locates.cuts⟩⟩

/-- The drop takes all of the dice and the modifier fits into no 32 bits.  The drop comes first; its
span begins behind a blank of three bytes and holds its leading zeros. -/
theorem rejection_of_drop_of_all_dice :
    parse "\u3000 02D06dH00000000000000000002+2147483648\n" =
        .error ⟨"\u3000 02D06dH00000000000000000002+2147483648\n", .dropTooHigh, ⟨11, 31⟩⟩ ∧
      (⟨11, 31⟩ : Span).Cuts "\u3000 02D06dH00000000000000000002+2147483648\n"
        "00000000000000000002".toList := by
  have h : parse "\u3000 02D06dH00000000000000000002+2147483648\n" =
      .error ⟨"\u3000 02D06dH00000000000000000002+2147483648\n", .dropTooHigh, ⟨11, 31⟩⟩ := by rfl
  have he : Spells "\u3000 02D06dH00000000000000000002+2147483648\n"
      { count := "02".toList
        sides := "06".toList
        selector := some ⟨.drop, .highest, "00000000000000000002".toList⟩
        modifier := some ⟨.plus, "2147483648".toList⟩ } :=
    spells_iff.mpr (by decide +kernel)
  obtain ⟨-, -, -, -, hspelled⟩ := rejection_of_parse_eq_error h
  obtain ⟨e, he', -, f, hf, -, hcuts⟩ := hspelled (grammatical_iff.mpr ⟨_, he⟩)
  cases he'.unique he
  cases hf
  exact ⟨h, hcuts⟩

/-! ## What does not matter around notation

Blanks around a text and the case of its ASCII letters change nothing about what
it is read as.  They change nothing about what is wrong with it either: the reason
stays, and the place that is pointed at moves by the bytes of the blanks in front.
-/

theorem SameLetters.allBlank_iff {text text' : List Char} (h : SameLetters text text') :
    AllBlank text ↔ AllBlank text' := by
  rw [← allBlank_map_toLower, sameLetters_iff.mp h, allBlank_map_toLower]

theorem SameLetters.width_indent {text text' : List Char} (h : SameLetters text text') :
    width (indent text) = width (indent text') := by
  rw [← width_map_toLower, ← indent_map_toLower, sameLetters_iff.mp h, indent_map_toLower,
    width_map_toLower]

/-- In lower case and between other blanks, the same text is read. -/
theorem SameLetters.map_toLower_trim {text text' ahead behind : List Char}
    (h : SameLetters text text') (htext : ¬AllBlank text) (hahead : AllBlank ahead)
    (hbehind : AllBlank behind) :
    (trim (ahead ++ text' ++ behind)).map Char.toLower = (trim text).map Char.toLower := by
  rw [trim_append hahead (fun hblank => htext (h.allBlank_iff.mpr hblank)) hbehind,
    ← trim_map_toLower, ← trim_map_toLower, sameLetters_iff.mp h]

/-- Blanks ahead of a text come ahead of its own. -/
theorem width_indent_append {text ahead behind : List Char} (htext : ¬AllBlank text)
    (hahead : AllBlank ahead) :
    width (indent (ahead ++ text ++ behind)) = width (indent text) + width ahead := by
  rw [List.append_assoc, indent_append_left hahead, (indent_append_right htext behind).1,
    width_append, Nat.add_comm]

/-- **Neither blanks around notation nor the case of its letters matter.**  A text that is not blank
is read as certain dice iff it is read as them with any blanks around it and its letters in either
case.  It is rejected for a reason iff it is then rejected for the same reason, with what was given
kept as it is, and the span moved by the bytes of the blanks in front. -/
theorem parse_of_surroundings {s s' u v : String} (hs : ¬AllBlank s.toList)
    (hletters : SameLetters s.toList s'.toList) (hu : AllBlank u.toList)
    (hv : AllBlank v.toList) :
    (∀ d, parse s = .ok d ↔ parse (u ++ s' ++ v) = .ok d) ∧
      ∀ reason a b,
        (∃ r, parse s = .error r ∧ r.reason = reason ∧ r.span = ⟨a, b⟩) ↔
          parse (u ++ s' ++ v) = .error
            ⟨u ++ s' ++ v, reason, ⟨a + u.utf8ByteSize, b + u.utf8ByteSize⟩⟩ := by
  have hs' : ¬AllBlank s'.toList := fun hblank => hs (hletters.allBlank_iff.mpr hblank)
  have htext : (u ++ s' ++ v).toList = u.toList ++ s'.toList ++ v.toList := by
    rw [String.toList_append, String.toList_append]
  have hwhole : ¬AllBlank (u ++ s' ++ v).toList := by
    intro hblank
    rw [htext] at hblank
    exact hs' fun c hc => hblank c (List.mem_append_left _ (List.mem_append_right _ hc))
  have hread : (trim (u ++ s' ++ v).toList).map Char.toLower =
      (trim s.toList).map Char.toLower := by
    rw [htext]
    exact hletters.map_toLower_trim hs hu hv
  have hindent : width (indent (u ++ s' ++ v).toList) =
      width (indent s.toList) + u.utf8ByteSize := by
    rw [htext, width_indent_append hs' hu, hletters.width_indent, width_toList]
  rw [parse_of_not_allBlank hs, parse_of_not_allBlank hwhole, hread, hindent]
  cases readExpression ((trim s.toList).map Char.toLower) with
  | ok d =>
    refine ⟨fun d' => Iff.rfl, fun reason a b => ⟨?_, nofun⟩⟩
    rintro ⟨r, hr, -⟩
    contradiction
  | error fault =>
    obtain ⟨reason, span⟩ := fault
    simp only [← Span.shift_shift]
    refine ⟨fun d' => ⟨nofun, nofun⟩, fun reason' a b => ⟨?_, fun h => ?_⟩⟩
    · rintro ⟨r, hr, rfl, hspan⟩
      cases hr
      rw [Except.error.injEq, Rejection.mk.injEq]
      exact ⟨rfl, rfl, Span.shift_inj.mpr hspan⟩
    · rw [Except.error.injEq, Rejection.mk.injEq] at h
      exact ⟨_, rfl, h.2.1, Span.shift_inj.mp h.2.2⟩

/-- The blanks in front take four bytes, so what is wrong is four bytes further on. -/
theorem parse_of_surroundings_of_no_sides :
    parse "1d00kh9" = .error ⟨"1d00kh9", .sidesTooLow, ⟨2, 4⟩⟩ ∧
      parse ("\u3000\t" ++ "1D00Kh9" ++ "\u0085\n") =
        .error ⟨"\u3000\t" ++ "1D00Kh9" ++ "\u0085\n", .sidesTooLow, ⟨6, 8⟩⟩ := by
  have h : parse "1d00kh9" = .error ⟨"1d00kh9", .sidesTooLow, ⟨2, 4⟩⟩ := by rfl
  have hblank : ¬AllBlank "1d00kh9".toList := by decide
  have hletters : SameLetters "1d00kh9".toList "1D00Kh9".toList := sameLetters_iff.mpr (by decide)
  have hahead : AllBlank "\u3000\t".toList := by decide
  have hbehind : AllBlank "\u0085\n".toList := by decide
  exact ⟨h, ((parse_of_surroundings hblank hletters hahead hbehind).2 .sidesTooLow 2 4).mp
    ⟨_, h, rfl, rfl⟩⟩

end TabletopDice
