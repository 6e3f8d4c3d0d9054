import TabletopDice.Proofs.Beginnings
import TabletopDice.Proofs.Parsing

/-! # Where a text goes wrong

The error in a text that is not in the grammar is behind the longest beginning
of an expression.  It is the character that comes there, or, where the text just
ends too soon, the letter or sign at the end that has no number behind it, or
the very end.  `PointsBehind` says so for the text that is scanned, and
`invalid_span_of_parse_eq_error` for the string as it was given.
-/
namespace TabletopDice

/-- The text ends with the keyword of a selector. -/
def EndsInKeyword (text : List Char) : Prop :=
  ∃ (front : List Char) (a : Action) (x : Extreme), text = front ++ [a.letter, x.letter]

/-- The text ends with the separator: there are only digits in front of it. -/
def EndsInSeparator (text : List Char) : Prop :=
  ∃ run : List Char, (∀ c ∈ run, c.isDigit = true) ∧ text = run ++ ['d']

/-- The text ends with the sign of a modifier. -/
def EndsInSign (text : List Char) : Prop :=
  ∃ (front : List Char) (sign : Sign), text = front ++ [sign.char]

/-- There are only digits, or the text ends with a keyword. -/
def EndsOpen (text : List Char) : Prop := (∀ c ∈ text, c.isDigit = true) ∨ EndsInKeyword text

/-- The text ends with the separator or a sign. -/
def EndsShort (text : List Char) : Prop := EndsInSeparator text ∨ EndsInSign text

/-- The span is where the text goes wrong if `p` is its longest beginning. -/
structure PointsBehind (text p : List Char) (span : Span) : Prop where
  /-- It holds exactly the character that comes next. -/
  next : ∀ c rest, text = p ++ c :: rest → span = ⟨width p, width p + c.utf8Size⟩
  /-- If none comes, there is a reason to go on. -/
  ends : text = p → EndsOpen text ∨ EndsShort text
  endsOpen : text = p → EndsOpen text → span = ⟨width text, width text⟩
  endsShort : text = p → EndsShort text → span = ⟨width text - 1, width text⟩

/-! ## The two ways to end too soon -/

theorem EndsShort.exists_last {text : List Char} (h : EndsShort text) :
    ∃ front c, text = front ++ [c] ∧ (c = 'd' ∨ ∃ sign : Sign, c = sign.char) := by
  rcases h with ⟨run, -, rfl⟩ | ⟨front, sign, rfl⟩
  · exact ⟨run, 'd', rfl, Or.inl rfl⟩
  · exact ⟨front, sign.char, rfl, Or.inr ⟨sign, rfl⟩⟩

theorem EndsOpen.not_endsShort {text : List Char} (h : EndsOpen text) : ¬EndsShort text := by
  intro hshort
  obtain ⟨front, c, rfl, hc⟩ := hshort.exists_last
  rcases h with hdigits | ⟨front', a, x, heq⟩
  · have hd : c.isDigit = true := hdigits c (by simp)
    rcases hc with rfl | ⟨sign, rfl⟩
    · exact absurd hd (by decide)
    · cases sign <;> exact absurd hd (by decide)
  · have hlast : c = x.letter := by
      have h := congrArg List.getLast? heq
      simpa using h
    rcases hc with rfl | ⟨sign, rfl⟩
    · cases x <;> exact absurd hlast (by decide)
    · cases sign <;> cases x <;> exact absurd hlast (by decide)

/-! ## The span of a halt -/

namespace Halts

variable {p : List Char} {h : Halt}

/-- With nothing left over, what is missing is known from how the text ends. -/
theorem ends {expected : Expected} (hp : Halts p ⟨[], expected⟩) :
    EndsOpen p ∧ expected.reach = 0 ∨ EndsShort p ∧ expected.reach = 1 := by
  cases hp with
  | separator hrun hstop hd => exact Or.inl ⟨Or.inl hrun, rfl⟩
  | @number e f _ he hf hdigits hstop =>
    cases f with
    | count => exact absurd rfl hf
    | sides => exact Or.inr ⟨Or.inl ⟨e.count, he.count, rfl⟩, rfl⟩
    | selector =>
      cases hs : e.selector with
      | none => simp [Expression.digits, hs] at hdigits
      | some s =>
        refine Or.inl ⟨Or.inr ⟨e.count ++ ['d'] ++ e.sides, s.action, s.extreme, ?_⟩, rfl⟩
        simp [Expression.before, Expression.keyword, Selector.keyword, hs]
    | modifier =>
      cases hm : e.modifier with
      | none => simp [Expression.digits, hm] at hdigits
      | some m =>
        refine Or.inr ⟨Or.inr ⟨e.before .selector ++ e.digits .selector, m.sign, ?_⟩, rfl⟩
        simp [Expression.before, Expression.signText, hm]
  | nothing he hne hstop hsign hkeyword => exact absurd rfl hne

/-- The span of a halt holds the next character, or what the text ends with, or nothing. -/
theorem locates_span (hp : Halts p h) :
    ∃ part, (h.span (width (p ++ h.rest))).Locates (p ++ h.rest) part ∧
      ∀ c rest, h.rest = c :: rest → part = [c] := by
  obtain ⟨rest, expected⟩ := h
  cases rest with
  | cons c rest =>
    refine ⟨[c], ⟨p, rest, by simp, ?_⟩, fun c' rest' heq => by cases heq; rfl⟩
    simp [Halt.span, Span.behind]
  | nil =>
    rcases hp.ends with ⟨-, hreach⟩ | ⟨hshort, hreach⟩
    · refine ⟨[], ⟨p, [], by simp, ?_⟩, fun c rest heq => absurd heq.symm (List.cons_ne_nil _ _)⟩
      simp [Halt.span, Span.behind, hreach]
    · obtain ⟨front, c, rfl, hc⟩ := hshort.exists_last
      have hsize : c.utf8Size = 1 := by
        rcases hc with rfl | ⟨sign, rfl⟩
        · rfl
        · cases sign <;> rfl
      refine ⟨[c], ⟨front, [], by simp, ?_⟩, fun c rest heq =>
        absurd heq.symm (List.cons_ne_nil _ _)⟩
      simp [Halt.span, Span.behind, hreach, hsize]

theorem pointsBehind (hp : Halts p h) :
    PointsBehind (p ++ h.rest) p (h.span (width (p ++ h.rest))) := by
  obtain ⟨rest, expected⟩ := h
  cases rest with
  | cons c rest =>
    have hne : p ++ c :: rest ≠ p := by simp
    refine ⟨fun c' rest' heq => ?_, fun heq => absurd heq hne, fun heq => absurd heq hne,
      fun heq => absurd heq hne⟩
    cases List.append_cancel_left heq
    simp [Halt.span]
  | nil =>
    rw [List.append_nil]
    refine ⟨fun c rest heq => by simp at heq, fun _ => ?_, fun _ hopen => ?_, fun _ hshort => ?_⟩
    · exact hp.ends.imp And.left And.left
    · rcases hp.ends with ⟨-, hreach⟩ | ⟨hshort, -⟩
      · simp [Halt.span, hreach]
      · exact absurd hshort hopen.not_endsShort
    · rcases hp.ends with ⟨hopen, -⟩ | ⟨-, hreach⟩
      · exact absurd hshort hopen.not_endsShort
      · simp [Halt.span, hreach]

end Halts

/-! ## The string as it was given -/

/-- A range of the text that is scanned, shifted by the blanks in front, cuts the string. -/
theorem Framed.cuts {s : String} {ahead text behind : List Char}
    (hs : Framed s.toList ahead text behind) {span : Span} {part : List Char}
    (h : span.Locates (text.map Char.toLower) part) :
    ∃ part', part'.map Char.toLower = part ∧ (span.shift (width ahead)).Cuts s part' := by
  obtain ⟨part', hpart, hlocates⟩ := h.of_map_toLower
  have hshift := hlocates.shift ahead behind
  rw [← hs.eq] at hshift
  exact ⟨part', hpart, hshift.cuts⟩

/-- **An invalid expression is wrong just behind its longest beginning.**  The string is a text with
blanks around it, in one way only.  In lower case this text has exactly one longest beginning of an
expression, and the span, counted from behind the blanks in front, points behind it.  It always
cuts the string on character boundaries; where it is a character that comes behind the longest
beginning, it cuts out this character, in the case in which the string has it. -/
theorem invalid_span_of_parse_eq_error {s : String} {r : Rejection} (h : parse s = .error r)
    (hr : r.reason = .invalid) :
    ∃ ahead text behind p span, Framed s.toList ahead text behind ∧
      (∀ ahead' text' behind', Framed s.toList ahead' text' behind' →
        ahead = ahead' ∧ text = text') ∧
      LongestBeginning (text.map Char.toLower) p ∧
      (∀ q, LongestBeginning (text.map Char.toLower) q → q = p) ∧
      PointsBehind (text.map Char.toLower) p span ∧
      r.span = ⟨width ahead + span.start, width ahead + span.stop⟩ ∧
      ∃ part, r.span.Cuts s part ∧
        ∀ c rest, text.map Char.toLower = p ++ c :: rest → part.map Char.toLower = [c] := by
  rcases allBlank_or_halts_or_spells s with hblank | ⟨hblank, halt, hscan⟩ | ⟨e, he⟩
  · rw [parse_of_allBlank hblank] at h
    cases h
    contradiction
  · rw [parse_of_scan_eq_error hblank hscan] at h
    cases h
    rw [← width_map_toLower (trim s.toList)]
    obtain ⟨behind, hframed⟩ := exists_framed hblank
    obtain ⟨p, ht, hp⟩ := scan_eq_error_iff.mp hscan
    obtain ⟨part, hlocates, hnext⟩ := hp.locates_span
    have hpoints := hp.pointsBehind
    have hlongest := hp.longestBeginning
    rw [← ht] at hlocates hpoints hlongest
    obtain ⟨part', hpart, hcuts⟩ := hframed.cuts hlocates
    refine ⟨_, _, behind, p, _, hframed, fun _ _ _ => hframed.unique, hlongest,
      fun q hq => hq.unique hlongest, hpoints, ?_, part', hcuts, ?_⟩
    · simp [Span.shift, Nat.add_comm]
    · intro c rest htext
      rw [hpart]
      exact hnext c rest (List.append_cancel_left (ht.symm.trans htext))
  · exact absurd hr (he.of_parse_eq_error h).2.1.ne_invalid

/-- A letter that is only half of a keyword is wrong itself, although it can begin one.  The span
begins behind a blank of three bytes and one of a single byte. -/
theorem invalid_span_of_half_keyword :
    parse "\u3000 2D6K\u00e4\u0085\n" =
        .error ⟨"\u3000 2D6K\u00e4\u0085\n", .invalid, ⟨7, 8⟩⟩ ∧
      LongestBeginning "2d6k\u00e4".toList "2d6".toList ∧
      ∃ part, (⟨7, 8⟩ : Span).Cuts "\u3000 2D6K\u00e4\u0085\n" part ∧
        part.map Char.toLower = ['k'] := by
  have h : parse "\u3000 2D6K\u00e4\u0085\n" =
      .error ⟨"\u3000 2D6K\u00e4\u0085\n", .invalid, ⟨7, 8⟩⟩ := by rfl
  have hframed : Framed "\u3000 2D6K\u00e4\u0085\n".toList "\u3000 ".toList "2D6K\u00e4".toList
      "\u0085\n".toList :=
    ⟨rfl, by decide, by decide, by decide, by decide, by decide⟩
  obtain ⟨p, hp, hhalts⟩ := scan_eq_error_iff.mp
    (by decide +kernel : scan "2d6k\u00e4".toList = .error ⟨['k', '\u00e4'], .nothing⟩)
  obtain rfl : "2d6".toList = p := List.append_cancel_right hp
  obtain ⟨ahead, text, behind, q, span, -, htext, -, hunique, -, -, part, hcuts, hpart⟩ :=
    invalid_span_of_parse_eq_error h rfl
  obtain ⟨rfl, rfl⟩ := htext _ _ _ hframed
  obtain rfl := hunique _ hhalts.longestBeginning
  exact ⟨h, hhalts.longestBeginning, part, hcuts, hpart 'k' ['\u00e4'] rfl⟩

end TabletopDice
