import TabletopDice.Parse

/-! # The scan reads the grammar

Each part of a text is taken greedily and never given back.  Nothing is lost by
that: behind a run of digits there is never a digit, what begins with a sign is
no keyword, and so a text can be split into the parts of an expression in one way
at most.  `scan_eq_ok_iff` says that the scan finds this way exactly where there
is one.
-/
namespace TabletopDice

theorem bind_eq_ok_iff {ε α β : Type} {x : Except ε α} {f : α → Except ε β} {b : β} :
    x >>= f = .ok b ↔ ∃ a, x = .ok a ∧ f a = .ok b := by
  cases x with
  | error err => simp [bind, Except.bind]
  | ok a => simp [bind, Except.bind]

/-! ## One part at a time -/

/-- A selector is read where a keyword comes next, and then its number must follow. -/
theorem scanSelector_eq_ok_iff {text rest : List Char} {o : Option Selector} :
    scanSelector text = .ok (o, rest) ↔
      (o = none ∧ scanKeyword? text = none ∧ text = rest) ∨
        ∃ s, o = some s ∧ IsNumber s.number ∧ StopsDigits rest ∧
          text = s.keyword ++ (s.number ++ rest) := by
  constructor
  · intro h
    unfold scanSelector at h
    cases hk : scanKeyword? text with
    | none =>
      rw [hk] at h
      cases h
      exact Or.inl ⟨rfl, rfl, rfl⟩
    | some found =>
      obtain ⟨action, extreme, behind⟩ := found
      rw [hk] at h
      obtain ⟨⟨number, left⟩, hn, h⟩ := bind_eq_ok_iff.mp h
      cases h
      obtain ⟨hnum, hstop, rfl⟩ := scanNumber_eq_ok_iff.mp hn
      exact Or.inr ⟨⟨action, extreme, number⟩, rfl, hnum, hstop, scanKeyword?_eq_some_iff.mp hk⟩
  · rintro (⟨rfl, hk, rfl⟩ | ⟨s, rfl, hnum, hstop, hs⟩)
    · rw [scanSelector, hk]
    · rw [scanSelector, scanKeyword?_eq_some_iff.mpr hs]
      exact bind_eq_ok_iff.mpr
        ⟨(s.number, rest), scanNumber_eq_ok_iff.mpr ⟨hnum, hstop, rfl⟩, rfl⟩

theorem scanSign?_eq_some_iff {text rest : List Char} {s : Sign} :
    scanSign? text = some (s, rest) ↔ text = s.char :: rest := by
  cases text with
  | nil => simp [scanSign?]
  | cons c behind =>
    simp only [scanSign?, Option.map_eq_some_iff, Prod.mk.injEq, List.cons.injEq]
    constructor
    · rintro ⟨s', hs, rfl, rfl⟩
      exact ⟨Sign.ofChar?_eq_some_iff.mp hs, rfl⟩
    · rintro ⟨rfl, rfl⟩
      exact ⟨s, Sign.ofChar?_eq_some_iff.mpr rfl, rfl, rfl⟩

/-- A modifier is read where a sign comes next, and then its magnitude must follow. -/
theorem scanModifier_eq_ok_iff {text rest : List Char} {o : Option Modifier} :
    scanModifier text = .ok (o, rest) ↔
      (o = none ∧ scanSign? text = none ∧ text = rest) ∨
        ∃ m, o = some m ∧ IsNumber m.magnitude ∧ StopsDigits rest ∧
          text = m.sign.char :: (m.magnitude ++ rest) := by
  constructor
  · intro h
    unfold scanModifier at h
    cases hk : scanSign? text with
    | none =>
      rw [hk] at h
      cases h
      exact Or.inl ⟨rfl, rfl, rfl⟩
    | some found =>
      obtain ⟨sign, behind⟩ := found
      rw [hk] at h
      obtain ⟨⟨magnitude, left⟩, hn, h⟩ := bind_eq_ok_iff.mp h
      cases h
      obtain ⟨hnum, hstop, rfl⟩ := scanNumber_eq_ok_iff.mp hn
      exact Or.inr ⟨⟨sign, magnitude⟩, rfl, hnum, hstop, scanSign?_eq_some_iff.mp hk⟩
  · rintro (⟨rfl, hk, rfl⟩ | ⟨m, rfl, hnum, hstop, hm⟩)
    · rw [scanModifier, hk]
    · rw [scanModifier, scanSign?_eq_some_iff.mpr hm]
      exact bind_eq_ok_iff.mpr
        ⟨(m.magnitude, rest), scanNumber_eq_ok_iff.mpr ⟨hnum, hstop, rfl⟩, rfl⟩

theorem scanEnd_eq_ok_iff {text : List Char} {u : Unit} : scanEnd text = .ok u ↔ text = [] := by
  cases text with
  | nil => exact ⟨fun _ => rfl, fun _ => rfl⟩
  | cons c text => exact ⟨nofun, nofun⟩

/-! ## Parts that were read -/

/-- Where a selector has been looked for, it or nothing is taken off the text. -/
theorem of_scanSelector_eq_ok {text rest : List Char} {o : Option Selector}
    (h : scanSelector text = .ok (o, rest)) (hstop : StopsDigits text) :
    text = o.elim [] Selector.keyword ++ (o.elim [] Selector.number ++ rest) ∧
      (∀ s ∈ o, IsNumber s.number) ∧ StopsDigits rest ∧ (o = none → scanKeyword? rest = none) := by
  rcases scanSelector_eq_ok_iff.mp h with ⟨rfl, hkeyword, rfl⟩ | ⟨s, rfl, hnum, hrest, rfl⟩
  · exact ⟨rfl, nofun, hstop, fun _ => hkeyword⟩
  · refine ⟨rfl, fun s' hs' => ?_, hrest, nofun⟩
    cases hs'
    exact hnum

/-- Where a modifier has been looked for, it or nothing is taken off the text. -/
theorem of_scanModifier_eq_ok {text rest : List Char} {o : Option Modifier}
    (h : scanModifier text = .ok (o, rest)) (hstop : StopsDigits text) :
    text = o.elim [] ([·.sign.char]) ++ (o.elim [] Modifier.magnitude ++ rest) ∧
      (∀ m ∈ o, IsNumber m.magnitude) ∧ StopsDigits rest ∧ (o = none → scanSign? rest = none) := by
  rcases scanModifier_eq_ok_iff.mp h with ⟨rfl, hsign, rfl⟩ | ⟨m, rfl, hnum, hrest, rfl⟩
  · exact ⟨rfl, nofun, hstop, fun _ => hsign⟩
  · refine ⟨rfl, fun m' hm' => ?_, hrest, nofun⟩
    cases hm'
    exact hnum

/-- Behind the separator there are the parts that were read, and nothing else. -/
theorem of_scanTail_eq_ok {count text : List Char} {e : Expression}
    (h : scanTail count text = .ok e) :
    e.count = count ∧ IsNumber e.sides ∧ (∀ s ∈ e.selector, IsNumber s.number) ∧
      (∀ m ∈ e.modifier, IsNumber m.magnitude) ∧ text = e.sides ++ e.after .sides := by
  obtain ⟨⟨sides, rest₁⟩, hsides, h⟩ := bind_eq_ok_iff.mp h
  obtain ⟨⟨selector, rest₂⟩, hselector, h⟩ := bind_eq_ok_iff.mp h
  obtain ⟨⟨modifier, rest₃⟩, hmodifier, h⟩ := bind_eq_ok_iff.mp h
  obtain ⟨_, hend, h⟩ := bind_eq_ok_iff.mp h
  cases h
  cases scanEnd_eq_ok_iff.mp hend
  obtain ⟨hnum, hstop₁, rfl⟩ := scanNumber_eq_ok_iff.mp hsides
  obtain ⟨rfl, hselectors, hstop₂, -⟩ := of_scanSelector_eq_ok hselector hstop₁
  obtain ⟨rfl, hmodifiers, -, -⟩ := of_scanModifier_eq_ok hmodifier hstop₂
  exact ⟨rfl, hnum, hselectors, hmodifiers, by
    simp [Expression.after, Expression.keyword, Expression.digits, Expression.signText]⟩

/-! ## What stands behind a number -/

theorem stopsDigits_nil : StopsDigits [] := fun c hc => absurd hc (Option.not_mem_none c)

theorem stopsDigits_sign (sign : Sign) (text : List Char) : StopsDigits (sign.char :: text) := by
  intro c hc
  cases hc
  cases sign <;> rfl

theorem stopsDigits_keyword (s : Selector) (text : List Char) :
    StopsDigits (s.keyword ++ text) := by
  intro c hc
  cases hc
  cases s.action <;> rfl

/-- What begins with a sign is no keyword. -/
theorem scanKeyword?_sign (sign : Sign) (text : List Char) :
    scanKeyword? (sign.char :: text) = none := by
  rw [Option.eq_none_iff_forall_ne_some]
  rintro ⟨a, x, rest⟩ h
  have hc : sign.char = a.letter := (List.cons.inj (scanKeyword?_eq_some_iff.mp h)).1
  cases sign <;> cases a <;> exact absurd hc (by decide)

/-! ## An expression in front of other text

The parts of an expression are read one by one, whatever stands behind them, as
long as this does not go on with the part. -/

theorem scan_count {count rest : List Char} (hcount : ∀ c ∈ count, c.isDigit = true) :
    scan (count ++ 'd' :: rest) = scanTail count rest := by
  have hstop : StopsDigits ('d' :: rest) := by
    intro c hc
    cases hc
    rfl
  rw [scan, takeWhile_digits hcount hstop, dropWhile_digits hcount hstop]
  rfl

namespace Expression

variable {e : Expression} {rest : List Char}

theorem stopsDigits_selector_append (hstop : StopsDigits rest) :
    StopsDigits (e.keyword ++ (e.digits .selector ++ rest)) := by
  cases hs : e.selector with
  | none => simpa [keyword, digits, hs] using hstop
  | some s =>
    have htext : e.keyword ++ (e.digits .selector ++ rest) = s.keyword ++ (s.number ++ rest) := by
      simp [keyword, digits, hs]
    rw [htext]
    exact stopsDigits_keyword s _

/-- A selector, which may be missing, is read in front of what is no keyword. -/
theorem scanSelector_append (h : ∀ s ∈ e.selector, IsNumber s.number) (hstop : StopsDigits rest)
    (hkeyword : e.selector = none → scanKeyword? rest = none) :
    scanSelector (e.keyword ++ (e.digits .selector ++ rest)) = .ok (e.selector, rest) := by
  cases hs : e.selector with
  | none =>
    have htext : e.keyword ++ (e.digits .selector ++ rest) = rest := by
      simp [keyword, digits, hs]
    rw [htext]
    exact scanSelector_eq_ok_iff.mpr (Or.inl ⟨rfl, hkeyword hs, rfl⟩)
  | some s =>
    have htext : e.keyword ++ (e.digits .selector ++ rest) = s.keyword ++ (s.number ++ rest) := by
      simp [keyword, digits, hs]
    rw [htext]
    exact scanSelector_eq_ok_iff.mpr (Or.inr ⟨s, rfl, h s hs, hstop, rfl⟩)

theorem stopsDigits_modifier_append (hstop : StopsDigits rest) :
    StopsDigits (e.signText ++ (e.digits .modifier ++ rest)) := by
  cases hm : e.modifier with
  | none => simpa [signText, digits, hm] using hstop
  | some m => simpa [signText, hm] using stopsDigits_sign m.sign (e.digits .modifier ++ rest)

/-- A modifier, which may be missing, is read in front of what is no sign. -/
theorem scanModifier_append (h : ∀ m ∈ e.modifier, IsNumber m.magnitude)
    (hstop : StopsDigits rest) (hsign : e.modifier = none → scanSign? rest = none) :
    scanModifier (e.signText ++ (e.digits .modifier ++ rest)) = .ok (e.modifier, rest) := by
  cases hm : e.modifier with
  | none =>
    have htext : e.signText ++ (e.digits .modifier ++ rest) = rest := by
      simp [signText, digits, hm]
    rw [htext]
    exact scanModifier_eq_ok_iff.mpr (Or.inl ⟨rfl, hsign hm, rfl⟩)
  | some m =>
    have htext : e.signText ++ (e.digits .modifier ++ rest) =
        m.sign.char :: (m.magnitude ++ rest) := by
      simp [signText, digits, hm]
    rw [htext]
    exact scanModifier_eq_ok_iff.mpr (Or.inr ⟨m, rfl, h m hm, hstop, rfl⟩)

/-- Where no keyword stands behind a modifier that may be missing, none stands in front of it. -/
theorem scanKeyword?_modifier_append (h : e.modifier = none → scanKeyword? rest = none) :
    scanKeyword? (e.signText ++ (e.digits .modifier ++ rest)) = none := by
  cases hm : e.modifier with
  | none => simpa [signText, digits, hm] using h hm
  | some m =>
    have htext : e.signText ++ (e.digits .modifier ++ rest) =
        m.sign.char :: (m.magnitude ++ rest) := by
      simp [signText, digits, hm]
    rw [htext]
    exact scanKeyword?_sign m.sign _

namespace WellFormed

theorem scan_sides (he : e.WellFormed) (hstop : StopsDigits rest) :
    scan (e.before .sides ++ e.sides ++ rest) = (do
      let (selector, rest) ← scanSelector rest
      let (modifier, rest) ← scanModifier rest
      scanEnd rest
      return { count := e.count, sides := e.sides, selector, modifier }) := by
  have htext : e.before .sides ++ e.sides ++ rest = e.count ++ 'd' :: (e.sides ++ rest) := by
    simp [before]
  have hsides : scanNumber .sides (e.sides ++ rest) = .ok (e.sides, rest) :=
    scanNumber_eq_ok_iff.mpr ⟨he.sides, hstop, rfl⟩
  rw [htext, scan_count he.count, scanTail, hsides]
  rfl

theorem scan_selector (he : e.WellFormed) (hstop : StopsDigits rest)
    (hkeyword : e.selector = none → scanKeyword? rest = none) :
    scan (e.before .selector ++ e.digits .selector ++ rest) = (do
      let (modifier, rest) ← scanModifier rest
      scanEnd rest
      return { e with modifier }) := by
  have htext : e.before .selector ++ e.digits .selector ++ rest =
      e.before .sides ++ e.sides ++ (e.keyword ++ (e.digits .selector ++ rest)) := by
    simp [before]
  rw [htext, he.scan_sides (stopsDigits_selector_append hstop),
    scanSelector_append he.selector hstop hkeyword]
  rfl

/-- A whole expression is read in front of what it cannot go on with. -/
theorem scan_text (he : e.WellFormed) (hstop : StopsDigits rest)
    (hsign : e.modifier = none → scanSign? rest = none)
    (hkeyword : e.selector = none → e.modifier = none → scanKeyword? rest = none) :
    scan (e.text ++ rest) = (do
      scanEnd rest
      return e) := by
  have htext : e.text ++ rest = e.before .selector ++ e.digits .selector ++
      (e.signText ++ (e.digits .modifier ++ rest)) := by
    simp [text, before]
  rw [htext, he.scan_selector (stopsDigits_modifier_append hstop) fun hs =>
    scanKeyword?_modifier_append (hkeyword hs), scanModifier_append he.modifier hstop hsign]
  rfl

end WellFormed
end Expression

/-! ## The whole text -/

/-- **The scan accepts the grammar.**  It reads a text as a certain expression iff the text is
what this expression, well formed, is written as. -/
theorem scan_eq_ok_iff {text : List Char} {e : Expression} :
    scan text = .ok e ↔ e.WellFormed ∧ e.text = text := by
  have hsplit := List.takeWhile_append_dropWhile (p := Char.isDigit) (l := text)
  constructor
  · intro h
    unfold scan at h
    split at h
    · rename_i rest hrest
      obtain ⟨hcount, hsides, hselector, hmodifier, rfl⟩ := of_scanTail_eq_ok h
      refine ⟨⟨?_, hsides, hselector, hmodifier⟩, ?_⟩
      -- the digits of the count are all that lead the text
      · rw [hcount]
        exact isDigit_of_mem_takeWhile
      · have htext : e.text = e.count ++ 'd' :: (e.sides ++ e.after .sides) := by
          simp [Expression.text, Expression.after]
        rw [htext, hcount, ← hrest, hsplit]
    · contradiction
  · rintro ⟨he, rfl⟩
    have hscan := he.scan_text stopsDigits_nil (fun _ => rfl) fun _ _ => rfl
    rw [List.append_nil] at hscan
    exact hscan

/-- A text is one expression at most. -/
theorem Expression.text_injective {e e' : Expression} (he : e.WellFormed) (he' : e'.WellFormed)
    (h : e.text = e'.text) : e = e' :=
  Except.ok.inj ((scan_eq_ok_iff.mpr ⟨he, h⟩).symm.trans (scan_eq_ok_iff.mpr ⟨he', rfl⟩))

end TabletopDice
