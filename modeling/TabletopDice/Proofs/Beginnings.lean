import TabletopDice.Proofs.Halting

/-! # The longest beginning of an expression

A text that is no expression may still begin like one.  `Begins` says that an
expression can begin with a text, and `LongestBeginning` picks the longest such
part of a text, keywords taken as a whole.  The scan halts just behind it
(`Halts.longestBeginning`): nothing longer will do, since the character at which
the scan halted rules out every expression, whatever comes behind it
(`Halts.not_begins`).
-/
namespace TabletopDice

/-- Some expression begins with the text. -/
def Begins (p : List Char) : Prop := ∃ more, Grammatical (p ++ more)

/-- The text ends between the two letters of the keyword of an expression. -/
def SplitsKeyword (p : List Char) : Prop :=
  ∃ (e : Expression) (s : Selector), e.WellFormed ∧ e.selector = some s ∧
    p = e.before .sides ++ e.sides ++ [s.action.letter]

/-- The longest part of the text, from its start, that an expression can begin with and that does
not end within a keyword. -/
structure LongestBeginning (text p : List Char) : Prop where
  leads : p <+: text
  begins : Begins p
  whole : ¬SplitsKeyword p
  longest : ∀ q, q <+: text → Begins q → ¬SplitsKeyword q → q.length ≤ p.length

/-- A text has one longest beginning at most. -/
theorem LongestBeginning.unique {text p q : List Char} (hp : LongestBeginning text p)
    (hq : LongestBeginning text q) : p = q := by
  have hlength : p.length = q.length :=
    Nat.le_antisymm (hq.longest p hp.leads hp.begins hp.whole)
      (hp.longest q hq.leads hq.begins hq.whole)
  rw [List.prefix_iff_eq_take.mp hp.leads, List.prefix_iff_eq_take.mp hq.leads, hlength]

theorem not_grammatical_of_scan_eq_error {text : List Char} {h : Halt}
    (hscan : scan text = .error h) : ¬Grammatical text := by
  rintro ⟨e, he⟩
  rw [scan_eq_ok_iff.mpr he] at hscan
  contradiction

namespace Halts

variable {p : List Char} {h : Halt}

/-- What was read can be completed to an expression. -/
theorem begins (hp : Halts p h) : Begins p := by
  cases hp with
  | separator hrun hstop hd =>
    exact ⟨['d', '1'], { count := p, sides := ['1'] }, Expression.wellFormed_of_sides hrun isNumber_one,
      by simp [Expression.text, Expression.keyword, Expression.digits, Expression.signText]⟩
  | @number e f rest he hf hdigits hstop =>
    refine ⟨e.digits f ++ e.after f, e, he, ?_⟩
    rw [← List.append_assoc, e.before_append_digits_append_after]
  | nothing he hne hstop hsign hkeyword => exact ⟨[], _, he, (List.append_nil _).symm⟩

/-- With nothing left over, the scan either finds an expression or halts at the end. -/
theorem scan_self (hp : Halts p h) :
    (∃ e, scan p = .ok e) ∨ scan p = .error ⟨[], h.expected⟩ := by
  cases hp with
  | separator hrun hstop hd =>
    exact Or.inr (by simpa using (separator hrun stopsDigits_nil nofun).scan_eq_error)
  | number he hf hdigits hstop =>
    exact Or.inr (by simpa using (number he hf hdigits stopsDigits_nil).scan_eq_error)
  | nothing he hne hstop hsign hkeyword => exact Or.inl ⟨_, scan_eq_ok_iff.mpr ⟨he, rfl⟩⟩

/-- The scan does not halt within a keyword, but in front of it. -/
theorem not_splitsKeyword (hp : Halts p h) : ¬SplitsKeyword p := by
  rintro ⟨e, s, he, -, rfl⟩
  have hfront : Halts (Expression.text { count := e.count, sides := e.sides })
      ⟨[s.action.letter], .nothing⟩ := by
    refine nothing (Expression.wellFormed_of_sides he.count he.sides) (List.cons_ne_nil _ _) ?_ ?_
      fun _ _ => rfl
    · intro c hc
      cases hc
      cases s.action <;> rfl
    · intro _
      cases s.action <;> rfl
  have htext : Expression.text { count := e.count, sides := e.sides } ++ [s.action.letter] =
      e.before .sides ++ e.sides ++ [s.action.letter] := by
    simp [Expression.text, Expression.before, Expression.keyword, Expression.digits,
      Expression.signText]
  have hscan := hfront.scan_eq_error
  rw [htext] at hscan
  rcases hp.scan_self with ⟨e', hok⟩ | herror
  · rw [hscan] at hok
    contradiction
  · rw [hscan] at herror
    cases herror

/-- The next character is what makes the scan halt, whatever comes behind it, unless it can be the
first letter of a keyword. -/
theorem of_next {c : Char} {rest : List Char} {expected : Expected}
    (hp : Halts p ⟨c :: rest, expected⟩) (rest' : List Char) :
    Halts p ⟨c :: rest', expected⟩ ∨
      ∃ e : Expression, e.WellFormed ∧ e.selector = none ∧ e.modifier = none ∧ p = e.text ∧
        scanKeyword? (c :: rest) = none ∧ scanKeyword? (c :: rest') ≠ none := by
  cases hp with
  | separator hrun hstop hd => exact Or.inl (separator hrun hstop hd)
  | number he hf hdigits hstop => exact Or.inl (number he hf hdigits hstop)
  | @nothing e _ he hne hstop hsign hkeyword =>
    by_cases hfree : e.selector = none ∧ e.modifier = none ∧ scanKeyword? (c :: rest') ≠ none
    · obtain ⟨hs, hm, hk⟩ := hfree
      exact Or.inr ⟨e, he, hs, hm, rfl, hkeyword hs hm, hk⟩
    · refine Or.inl (nothing he (List.cons_ne_nil _ _) hstop (fun hm => ?_) fun hs hm => ?_)
      · have hnone := hsign hm
        rw [scanSign?, Option.map_eq_none_iff] at hnone ⊢
        exact hnone
      · exact Classical.byContradiction fun hk => hfree ⟨hs, hm, hk⟩

/-- No expression begins with what was read and the next character, except that this may be the
first letter of a keyword whose second letter is missing. -/
theorem not_begins {c : Char} {rest q : List Char} {expected : Expected}
    (hp : Halts p ⟨c :: rest, expected⟩) (hq : q <+: rest) (hbegins : Begins (p ++ c :: q)) :
    SplitsKeyword (p ++ c :: q) := by
  obtain ⟨more, hmore⟩ := hbegins
  rw [List.append_assoc, List.cons_append] at hmore
  rcases hp.of_next (q ++ more) with hhalts | ⟨e, he, hs, hm, rfl, hnone, hsome⟩
  · exact absurd hmore (not_grammatical_of_scan_eq_error hhalts.scan_eq_error)
  · obtain ⟨⟨a, x, behind⟩, hk⟩ := Option.ne_none_iff_exists'.mp hsome
    obtain ⟨rfl, hletter⟩ := List.cons.inj (scanKeyword?_eq_some_iff.mp hk)
    cases q with
    | nil =>
      refine ⟨_, ⟨a, x, ['1']⟩, he.with_selector isNumber_one, rfl, ?_⟩
      simp [Expression.text, Expression.before, Expression.keyword, Expression.digits,
        Expression.signText, hs, hm]
    | cons c' q =>
      -- the second letter comes next, so the scan would have read the keyword
      obtain ⟨rest', rfl⟩ := hq
      obtain ⟨rfl, -⟩ := List.cons.inj hletter
      have hread : scanKeyword? (a.letter :: x.letter :: (q ++ rest')) = some (a, x, q ++ rest') :=
        scanKeyword?_eq_some_iff.mpr rfl
      rw [List.cons_append, hread] at hnone
      contradiction

/-- **The scan halts behind the longest beginning of an expression.** -/
theorem longestBeginning (hp : Halts p h) : LongestBeginning (p ++ h.rest) p where
  leads := List.prefix_append _ _
  begins := hp.begins
  whole := hp.not_splitsKeyword
  longest := by
    intro q hq hbegins hwhole
    refine Nat.le_of_not_lt fun hlength => ?_
    -- a longer one goes on with the character at which the scan halted
    obtain ⟨back, rfl⟩ : p <+: q :=
      List.prefix_of_prefix_length_le (List.prefix_append _ _) hq (by omega)
    obtain ⟨rest, expected⟩ := h
    cases back with
    | nil => simp at hlength
    | cons c back =>
      obtain ⟨last, hlast⟩ := (List.prefix_append_right_inj p).mp hq
      subst hlast
      exact hwhole (hp.not_begins (List.prefix_append _ _) hbegins)

end Halts
end TabletopDice
