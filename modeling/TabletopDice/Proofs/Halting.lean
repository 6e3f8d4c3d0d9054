import TabletopDice.Proofs.Scanning

/-! # Where the scan halts

`Halts p h` says what it means to halt behind `p`: a number is missing there, or
the separator, or everything has been read and something is left over.  The scan
of a text halts just so (`scan_eq_error_iff`).  Whether it does depends on what
was read and on the next character, except where this is the first letter of a
keyword.
-/
namespace TabletopDice

theorem bind_eq_error_iff {ε α β : Type} {x : Except ε α} {f : α → Except ε β} {err : ε} :
    x >>= f = .error err ↔ x = .error err ∨ ∃ a, x = .ok a ∧ f a = .error err := by
  cases x with
  | error err' => simp [bind, Except.bind]
  | ok a => simp [bind, Except.bind]

/-! ## One part at a time -/

theorem takeWhile_digits_eq_nil_iff {text : List Char} :
    text.takeWhile Char.isDigit = [] ↔ StopsDigits text := by
  cases text with
  | nil => exact ⟨fun _ => stopsDigits_nil, fun _ => rfl⟩
  | cons c text =>
    rw [List.takeWhile_cons]
    constructor
    · intro h x hx
      cases hx
      split at h
      · contradiction
      · rename_i hc
        exact Bool.eq_false_iff.mpr hc
    · intro h
      rw [h c rfl]
      rfl

theorem scanNumber_eq_error_iff {expected : Expected} {text : List Char} {h : Halt} :
    scanNumber expected text = .error h ↔ StopsDigits text ∧ h = ⟨text, expected⟩ := by
  rw [← takeWhile_digits_eq_nil_iff]
  unfold scanNumber
  constructor
  · intro heq
    split at heq
    · rename_i hnil
      cases heq
      exact ⟨hnil, rfl⟩
    · contradiction
  · rintro ⟨hnil, rfl⟩
    rw [hnil]

/-- The number of a selector is missing if no digit comes behind its keyword. -/
theorem scanSelector_eq_error_iff {text : List Char} {h : Halt} :
    scanSelector text = .error h ↔
      ∃ (a : Action) (x : Extreme), text = a.letter :: x.letter :: h.rest ∧
        StopsDigits h.rest ∧ h.expected = .number := by
  unfold scanSelector
  constructor
  · intro heq
    cases hk : scanKeyword? text with
    | none =>
      rw [hk] at heq
      contradiction
    | some found =>
      obtain ⟨a, x, rest⟩ := found
      rw [hk] at heq
      rcases bind_eq_error_iff.mp heq with hn | ⟨_, -, hn⟩
      · obtain ⟨hstop, rfl⟩ := scanNumber_eq_error_iff.mp hn
        exact ⟨a, x, scanKeyword?_eq_some_iff.mp hk, hstop, rfl⟩
      · contradiction
  · obtain ⟨rest, expected⟩ := h
    rintro ⟨a, x, ht, hstop, rfl⟩
    rw [scanKeyword?_eq_some_iff.mpr ht]
    exact bind_eq_error_iff.mpr (Or.inl (scanNumber_eq_error_iff.mpr ⟨hstop, rfl⟩))

/-- The magnitude of a modifier is missing if no digit comes behind its sign. -/
theorem scanModifier_eq_error_iff {text : List Char} {h : Halt} :
    scanModifier text = .error h ↔
      ∃ sign : Sign, text = sign.char :: h.rest ∧ StopsDigits h.rest ∧
        h.expected = .magnitude := by
  unfold scanModifier
  constructor
  · intro heq
    cases hk : scanSign? text with
    | none =>
      rw [hk] at heq
      contradiction
    | some found =>
      obtain ⟨sign, rest⟩ := found
      rw [hk] at heq
      rcases bind_eq_error_iff.mp heq with hn | ⟨_, -, hn⟩
      · obtain ⟨hstop, rfl⟩ := scanNumber_eq_error_iff.mp hn
        exact ⟨sign, scanSign?_eq_some_iff.mp hk, hstop, rfl⟩
      · contradiction
  · obtain ⟨rest, expected⟩ := h
    rintro ⟨sign, ht, hstop, rfl⟩
    rw [scanSign?_eq_some_iff.mpr ht]
    exact bind_eq_error_iff.mpr (Or.inl (scanNumber_eq_error_iff.mpr ⟨hstop, rfl⟩))

theorem scanEnd_eq_error_iff {text : List Char} {h : Halt} :
    scanEnd text = .error h ↔ text ≠ [] ∧ h = ⟨text, .nothing⟩ := by
  cases text with
  | nil => exact ⟨nofun, fun hne => absurd rfl hne.1⟩
  | cons c text =>
    constructor
    · intro heq
      cases heq
      exact ⟨List.cons_ne_nil _ _, rfl⟩
    · rintro ⟨-, rfl⟩
      rfl

/-! ## To halt behind a part of an expression -/

/-- What is missing where the digits of a number should be. -/
def Field.expected : Field → Expected
  | .count => .separator
  | .sides => .sides
  | .selector => .number
  | .modifier => .magnitude

/-- The scan halts behind `p`, with the rest of the text and what it wanted there. -/
inductive Halts : List Char → Halt → Prop
  /-- There are digits at most, and no separator behind them. -/
  | separator {run rest : List Char} (hrun : ∀ c ∈ run, c.isDigit = true)
      (hstop : StopsDigits rest) (hd : ∀ c ∈ rest.head?, c ≠ 'd') :
      Halts run ⟨rest, .separator⟩
  /-- An expression goes on with a number, and there is none. -/
  | number {e : Expression} {f : Field} {rest : List Char} (he : e.WellFormed) (hf : f ≠ .count)
      (hdigits : e.digits f ≠ []) (hstop : StopsDigits rest) :
      Halts (e.before f) ⟨rest, f.expected⟩
  /-- An expression has been read, and what is left over does not go on with it. -/
  | nothing {e : Expression} {rest : List Char} (he : e.WellFormed) (hne : rest ≠ [])
      (hstop : StopsDigits rest) (hsign : e.modifier = none → scanSign? rest = none)
      (hkeyword : e.selector = none → e.modifier = none → scanKeyword? rest = none) :
      Halts e.text ⟨rest, .nothing⟩

/-! ## The scan halts so -/

/-- The digit 1, which stands for any number that is missing. -/
theorem isNumber_one : IsNumber ['1'] := isNumber_decimal 1

theorem Expression.wellFormed_of_sides {count sides : List Char}
    (hcount : ∀ c ∈ count, c.isDigit = true) (hsides : IsNumber sides) :
    WellFormed { count, sides } :=
  ⟨hcount, hsides, fun s hs => absurd hs (Option.not_mem_none s),
    fun m hm => absurd hm (Option.not_mem_none m)⟩

theorem Expression.WellFormed.with_selector {e : Expression} (he : e.WellFormed) {s : Selector}
    (hs : IsNumber s.number) : WellFormed { e with selector := some s } := by
  refine ⟨he.count, he.sides, fun s' hs' => ?_, he.modifier⟩
  cases hs'
  exact hs

theorem Expression.WellFormed.with_modifier {e : Expression} (he : e.WellFormed) {m : Modifier}
    (hm : IsNumber m.magnitude) : WellFormed { e with modifier := some m } := by
  refine ⟨he.count, he.sides, he.selector, fun m' hm' => ?_⟩
  cases hm'
  exact hm

theorem exists_halts_of_scanTail {count text : List Char} {h : Halt}
    (hcount : ∀ c ∈ count, c.isDigit = true) (hscan : scanTail count text = .error h) :
    ∃ p, count ++ 'd' :: text = p ++ h.rest ∧ Halts p h := by
  obtain ⟨rest, expected⟩ := h
  rcases bind_eq_error_iff.mp hscan with hno | ⟨⟨sides, text₁⟩, hsides, hscan₁⟩
  · -- there are no sides
    obtain ⟨hstop, hh⟩ := scanNumber_eq_error_iff.mp hno
    cases hh
    have he := Expression.wellFormed_of_sides hcount isNumber_one
    exact ⟨_, by simp [Expression.before],
      .number he (f := .sides) (by decide) isNumber_one.1 hstop⟩
  obtain ⟨hnum, hstop₁, rfl⟩ := scanNumber_eq_ok_iff.mp hsides
  rcases bind_eq_error_iff.mp hscan₁ with hno | ⟨⟨selector, text₂⟩, hselector, hscan₂⟩
  · -- there is a keyword without a number
    obtain ⟨a, x, rfl, hstop, rfl⟩ := scanSelector_eq_error_iff.mp hno
    have he := (Expression.wellFormed_of_sides hcount hnum).with_selector
      (s := ⟨a, x, ['1']⟩) isNumber_one
    exact ⟨_, by simp [Expression.before, Expression.keyword, Selector.keyword],
      .number he (f := .selector) (by decide) isNumber_one.1 hstop⟩
  obtain ⟨rfl, hselectors, hstop₂, hkeyword⟩ := of_scanSelector_eq_ok hselector hstop₁
  have hfront : Expression.WellFormed { count, sides, selector } :=
    ⟨hcount, hnum, hselectors, fun m hm => absurd hm (Option.not_mem_none m)⟩
  rcases bind_eq_error_iff.mp hscan₂ with hno | ⟨⟨modifier, text₃⟩, hmodifier, hscan₃⟩
  · -- there is a sign without a magnitude
    obtain ⟨sign, rfl, hstop, rfl⟩ := scanModifier_eq_error_iff.mp hno
    have he := hfront.with_modifier (m := ⟨sign, ['1']⟩) isNumber_one
    exact ⟨_, by simp [Expression.before, Expression.keyword, Expression.digits,
        Expression.signText],
      .number he (f := .modifier) (by decide) isNumber_one.1 hstop⟩
  obtain ⟨rfl, hmodifiers, hstop₃, hsign⟩ := of_scanModifier_eq_ok hmodifier hstop₂
  rcases bind_eq_error_iff.mp hscan₃ with hno | ⟨_, -, hpure⟩
  · -- something is left over
    obtain ⟨hne, hh⟩ := scanEnd_eq_error_iff.mp hno
    cases hh
    have he : Expression.WellFormed { count, sides, selector, modifier } :=
      ⟨hcount, hnum, hselectors, hmodifiers⟩
    refine ⟨_, by simp [Expression.text, Expression.keyword, Expression.digits,
        Expression.signText], .nothing he hne hstop₃ hsign fun hs hm => ?_⟩
    have hk := hkeyword hs
    subst hm
    exact hk
  · contradiction

/-- What was read and the rest make up the text, and the scan halts between them. -/
theorem exists_halts_of_scan_eq_error {text : List Char} {h : Halt}
    (hscan : scan text = .error h) : ∃ p, text = p ++ h.rest ∧ Halts p h := by
  have hsplit := List.takeWhile_append_dropWhile (p := Char.isDigit) (l := text)
  unfold scan at hscan
  split at hscan
  · rename_i rest hrest
    obtain ⟨p, hp, hhalts⟩ := exists_halts_of_scanTail isDigit_of_mem_takeWhile hscan
    rw [← hrest, hsplit] at hp
    exact ⟨p, hp, hhalts⟩
  · rename_i hno
    cases hscan
    refine ⟨_, hsplit.symm, .separator isDigit_of_mem_takeWhile (stopsDigits_dropWhile text) ?_⟩
    rintro c hc rfl
    cases hdrop : text.dropWhile Char.isDigit with
    | nil =>
      rw [hdrop] at hc
      contradiction
    | cons x rest =>
      rw [hdrop] at hc
      cases hc
      exact hno rest hdrop

/-! ## It halts nowhere else -/

/-- Where the scan can halt, it does. -/
theorem Halts.scan_eq_error {p : List Char} {h : Halt} (hp : Halts p h) :
    scan (p ++ h.rest) = .error h := by
  cases hp with
  | separator hrun hstop hd =>
    rw [scan, dropWhile_digits hrun hstop]
    split
    · rename_i rest
      exact absurd rfl (hd 'd' rfl)
    · rfl
  | @number e f rest he hf hdigits hstop =>
    show scan (e.before f ++ rest) = _
    cases f with
    | count => exact absurd rfl hf
    | sides =>
      have htext : e.before .sides ++ rest = e.count ++ 'd' :: rest := by
        simp [Expression.before]
      rw [htext, scan_count he.count]
      exact bind_eq_error_iff.mpr (Or.inl (scanNumber_eq_error_iff.mpr ⟨hstop, rfl⟩))
    | selector =>
      cases hs : e.selector with
      | none => simp [Expression.digits, hs] at hdigits
      | some s =>
        have htext : e.before .selector ++ rest =
            e.before .sides ++ e.sides ++ (s.keyword ++ rest) := by
          simp [Expression.before, Expression.keyword, hs]
        rw [htext, he.scan_sides (stopsDigits_keyword s rest)]
        exact bind_eq_error_iff.mpr (Or.inl (scanSelector_eq_error_iff.mpr
          ⟨s.action, s.extreme, rfl, hstop, rfl⟩))
    | modifier =>
      cases hm : e.modifier with
      | none => simp [Expression.digits, hm] at hdigits
      | some m =>
        have htext : e.before .modifier ++ rest =
            e.before .selector ++ e.digits .selector ++ (m.sign.char :: rest) := by
          simp [Expression.before, Expression.signText, hm]
        rw [htext, he.scan_selector (stopsDigits_sign _ _) fun _ => scanKeyword?_sign _ _]
        exact bind_eq_error_iff.mpr (Or.inl (scanModifier_eq_error_iff.mpr
          ⟨m.sign, rfl, hstop, rfl⟩))
  | @nothing e rest he hne hstop hsign hkeyword =>
    show scan (e.text ++ rest) = _
    rw [he.scan_text hstop hsign hkeyword]
    exact bind_eq_error_iff.mpr (Or.inl (scanEnd_eq_error_iff.mpr ⟨hne, rfl⟩))

/-- **The scan halts where an expression cannot go on.** -/
theorem scan_eq_error_iff {text : List Char} {h : Halt} :
    scan text = .error h ↔ ∃ p, text = p ++ h.rest ∧ Halts p h := by
  refine ⟨exists_halts_of_scan_eq_error, ?_⟩
  rintro ⟨p, rfl, hp⟩
  exact hp.scan_eq_error

end TabletopDice
