import TabletopDice.Proofs.Notation

/-! # Notation in normal form

The same dice can be written in many ways: with blanks around them, in capitals,
without a count of one, with zeros in front of a number, with a modifier of zero.
`normalForm` undoes each of these in the text as it was given, knowing nothing of
dice or limits.  Each change to a text is a change to the expression that the text
is, and an expression that has gone through all of them is the one that its dice
are printed as.
-/
namespace TabletopDice

/-! ## Changes to a text -/

/-- The text with a count of one, if it begins with the letter behind the count. -/
def insertCount (text : List Char) : List Char :=
  if text.head? = some 'd' then '1' :: text else text

/-- The character is a sign. -/
def isSign (c : Char) : Bool := (Sign.ofChar? c).isSome

/-- The text without its sign and what follows, if that stands for zero. -/
def removeNullModifier (text : List Char) : List Char :=
  match text.dropWhile (!isSign ·) with
  | [] => text
  | _ :: magnitude => if value magnitude = 0 then text.takeWhile (!isSign ·) else text

/-- The text without the zeros that lead a number.  The last digit of a number leads nothing, nor
does a digit with another in front of it, as there is for a text `inside` a number. -/
def removeZeros (inside : Bool) : List Char → List Char
  | [] => []
  | c :: rest =>
    if c = '0' ∧ inside = false ∧ rest.head?.any Char.isDigit then removeZeros false rest
    else c :: removeZeros c.isDigit rest

/-- The text without the blanks around it, in lower case, with a count, without a modifier of zero
and without leading zeros. -/
def normalForm (s : String) : String :=
  String.ofList
    (removeZeros false (removeNullModifier (insertCount ((trim s.toList).map Char.toLower))))

/-! ## Digits without leading zeros -/

theorem digit_lt_ten {c : Char} (h : c.isDigit = true) : c.toNat - '0'.toNat < 10 := by
  have hzero : '0'.toNat = 48 := rfl
  rw [isDigit_iff] at h
  omega

theorem digitChar_of_isDigit {c : Char} (h : c.isDigit = true) :
    (c.toNat - '0'.toNat).digitChar = c := by
  rw [← Char.toNat_inj, Nat.toNat_digitChar_of_lt_ten (digit_lt_ten h)]
  have hzero : '0'.toNat = 48 := rfl
  rw [isDigit_iff] at h
  omega

theorem decimal_digit {c : Char} (h : c.isDigit = true) : decimal (c.toNat - '0'.toNat) = [c] := by
  rw [decimal, Nat.toDigits_of_lt_base (digit_lt_ten h), digitChar_of_isDigit h]

/-- Digits behind a number other than zero are digits of a larger number. -/
theorem decimal_ofDigitChars {n : Nat} (hn : 0 < n) {run : List Char}
    (hrun : ∀ c ∈ run, c.isDigit = true) :
    decimal (Nat.ofDigitChars 10 run n) = decimal n ++ run := by
  induction run generalizing n with
  | nil => rw [Nat.ofDigitChars_nil, List.append_nil]
  | cons c run ih =>
    obtain ⟨hc, hrun⟩ := List.forall_mem_cons.mp hrun
    have hnext : decimal (10 * n + (c.toNat - '0'.toNat)) = decimal n ++ [c] := by
      rw [← decimal_digit hc]
      exact (Nat.toDigits_append_toDigits (by decide) hn (digit_lt_ten hc)).symm
    rw [Nat.ofDigitChars_cons, ih (by omega) hrun, hnext, List.append_assoc]
    rfl

/-- Digits that do not begin with a zero are those of their number. -/
theorem decimal_value_cons {c : Char} {run : List Char} (hc : c.isDigit = true) (hzero : c ≠ '0')
    (hrun : ∀ c ∈ run, c.isDigit = true) : decimal (value (c :: run)) = c :: run := by
  have hpos : 0 < c.toNat - '0'.toNat := by
    have hne : c.toNat ≠ '0'.toNat := fun h => hzero (Char.toNat_inj.mp h)
    rw [isDigit_iff] at hc
    have hzero : '0'.toNat = 48 := rfl
    omega
  rw [value, Nat.ofDigitChars_cons, Nat.mul_zero, Nat.zero_add, decimal_ofDigitChars hpos hrun,
    decimal_digit hc]
  rfl

/-- A zero in front of a number does not count. -/
theorem value_cons_zero (run : List Char) : value ('0' :: run) = value run := rfl

/-! ## What is removed from a text -/

theorem not_isSign_digit {c : Char} (hc : c.isDigit = true) : (!isSign c) = true := by
  cases hsign : Sign.ofChar? c with
  | none => simp [isSign, hsign]
  | some sign =>
    rw [Sign.ofChar?_eq_some_iff.mp hsign] at hc
    cases sign <;> contradiction

theorem removeNullModifier_of_no_sign {front : List Char}
    (hfront : ∀ c ∈ front, (!isSign c) = true) : removeNullModifier front = front := by
  rw [removeNullModifier, List.dropWhile_eq_nil_iff.mpr hfront]

theorem removeNullModifier_append_sign {front : List Char}
    (hfront : ∀ c ∈ front, (!isSign c) = true) (sign : Sign) (magnitude : List Char) :
    removeNullModifier (front ++ sign.char :: magnitude) =
      if value magnitude = 0 then front else front ++ sign.char :: magnitude := by
  have hsign : ∀ c ∈ (sign.char :: magnitude).head?, (!isSign c) = false := by
    intro c hc
    cases hc
    cases sign <;> rfl
  rw [removeNullModifier, dropWhile_run hfront hsign, takeWhile_run hfront hsign]

theorem removeZeros_cons_of_not_isDigit {c : Char} (hc : c.isDigit = false) (inside : Bool)
    (rest : List Char) : removeZeros inside (c :: rest) = c :: removeZeros false rest := by
  have hne : c ≠ '0' := by
    rintro rfl
    contradiction
  rw [removeZeros, if_neg fun h => hne h.1, hc]

/-- Zeros behind another digit stay. -/
theorem removeZeros_inside_append {run rest : List Char} (hrun : ∀ c ∈ run, c.isDigit = true)
    (hstop : StopsDigits rest) :
    removeZeros true (run ++ rest) = run ++ removeZeros false rest := by
  induction run with
  | nil =>
    cases rest with
    | nil => rfl
    | cons c rest =>
      have hc : c.isDigit = false := hstop c rfl
      rw [List.nil_append, List.nil_append, removeZeros_cons_of_not_isDigit hc,
        removeZeros_cons_of_not_isDigit hc]
  | cons c run ih =>
    obtain ⟨hc, hrun⟩ := List.forall_mem_cons.mp hrun
    rw [List.cons_append, removeZeros, if_neg (by simp), hc, ih hrun, List.cons_append]

/-- Of a number its shortest digits are left. -/
theorem removeZeros_number_append {run rest : List Char} (hrun : IsNumber run)
    (hstop : StopsDigits rest) :
    removeZeros false (run ++ rest) = decimal (value run) ++ removeZeros false rest := by
  obtain ⟨hne, hdigits⟩ := hrun
  induction run with
  | nil => contradiction
  | cons c run ih =>
    obtain ⟨hc, hrun⟩ := List.forall_mem_cons.mp hdigits
    by_cases hzero : c = '0'
    · subst hzero
      cases run with
      | nil =>
        -- the last digit stays, whatever it is
        have hlast : rest.head?.any Char.isDigit = false := by
          cases rest with
          | nil => rfl
          | cons c rest => exact hstop c rfl
        rw [List.singleton_append, removeZeros, if_neg (by simp [hlast]), hc]
        exact congrArg _ (removeZeros_inside_append (List.forall_mem_nil _) hstop)
      | cons c' run =>
        have hnext : (c' :: run ++ rest).head?.any Char.isDigit = true := hrun c' List.mem_cons_self
        rw [List.cons_append, removeZeros, if_pos ⟨rfl, rfl, hnext⟩, value_cons_zero]
        exact ih (List.cons_ne_nil c' run) hrun
    · rw [List.cons_append, removeZeros, if_neg fun h => hzero h.1, hc,
        removeZeros_inside_append hrun hstop, decimal_value_cons hc hzero hrun, List.cons_append]

theorem removeZeros_keyword_append (s : Selector) (rest : List Char) :
    removeZeros false (s.keyword ++ rest) = s.keyword ++ removeZeros false rest := by
  have haction : s.action.letter.isDigit = false := by cases s.action <;> rfl
  have hextreme : s.extreme.letter.isDigit = false := by cases s.extreme <;> rfl
  show removeZeros false (s.action.letter :: s.extreme.letter :: rest) = _
  rw [removeZeros_cons_of_not_isDigit haction, removeZeros_cons_of_not_isDigit hextreme]
  rfl

theorem removeZeros_sign_cons (sign : Sign) (rest : List Char) :
    removeZeros false (sign.char :: rest) = sign.char :: removeZeros false rest :=
  removeZeros_cons_of_not_isDigit (by cases sign <;> rfl) false rest

/-! ## Changes to an expression -/

namespace Expression

/-- The expression with a count of one, if it has none. -/
def withCount (e : Expression) : Expression :=
  { e with count := if e.count.isEmpty then ['1'] else e.count }

/-- The expression without a modifier of zero. -/
def withoutNullModifier (e : Expression) : Expression :=
  { e with modifier := e.modifier.filter (value ·.magnitude ≠ 0) }

/-- The expression with the shortest digits of each of its numbers. -/
def withoutZeros (e : Expression) : Expression where
  count := decimal (value e.count)
  sides := decimal (value e.sides)
  selector := e.selector.map fun s => { s with number := decimal (value s.number) }
  modifier := e.modifier.map fun m => { m with magnitude := decimal (value m.magnitude) }

variable {e : Expression}

theorem WellFormed.withCount (he : e.WellFormed) : e.withCount.WellFormed := by
  refine ⟨?_, he.sides, he.selector, he.modifier⟩
  unfold Expression.withCount
  split
  · exact List.forall_mem_singleton.mpr rfl
  · exact he.count

theorem WellFormed.isNumber_count_withCount (he : e.WellFormed) :
    IsNumber e.withCount.count := by
  refine ⟨?_, he.withCount.count⟩
  unfold Expression.withCount
  split
  · exact List.cons_ne_nil _ _
  · rename_i hne
    exact fun hnil => hne (List.isEmpty_iff.mpr hnil)

theorem withoutNullModifier_of_none (h : e.modifier = none) : e.withoutNullModifier = e := by
  rw [withoutNullModifier, h, Option.filter_none, ← h]

theorem withoutNullModifier_of_some {m : Modifier} (h : e.modifier = some m) :
    e.withoutNullModifier = if value m.magnitude = 0 then { e with modifier := none } else e := by
  split
  · rename_i hzero
    simp only [withoutNullModifier, h, Option.filter_some, hzero]
    rfl
  · rename_i hzero
    rw [withoutNullModifier, h, Option.filter_some_pos (by simpa using hzero), ← h]

theorem WellFormed.withoutNullModifier (he : e.WellFormed) : e.withoutNullModifier.WellFormed :=
  ⟨he.count, he.sides, he.selector, fun m hm => he.modifier m (Option.mem_filter_iff.mp hm).1⟩

/-! ## The text of a changed expression -/

theorem text_withCount (he : e.WellFormed) : e.withCount.text = insertCount e.text := by
  cases hcount : e.count with
  | nil =>
    simp [withCount, insertCount, text, keyword, digits, signText, hcount]
  | cons c run =>
    have hc : c.isDigit = true := he.count c (by simp [hcount])
    have hne : c ≠ 'd' := by
      rintro rfl
      contradiction
    simp [withCount, insertCount, text, keyword, digits, signText, hcount, hne]

/-- No sign stands in front of the modifier. -/
theorem WellFormed.not_isSign (he : e.WellFormed) :
    ∀ c ∈ e.before .selector ++ e.digits .selector, (!isSign c) = true :=
  he.forall_mem_front (fun _ => not_isSign_digit) rfl (fun a => by cases a <;> rfl)
    fun x => by cases x <;> rfl

theorem text_withoutNullModifier (he : e.WellFormed) :
    e.withoutNullModifier.text = removeNullModifier e.text := by
  have hfront := he.not_isSign
  cases hm : e.modifier with
  | none =>
    have htext : e.text = e.before .selector ++ e.digits .selector := by
      simp [text, before, signText, digits, hm]
    rw [withoutNullModifier_of_none hm, htext, removeNullModifier_of_no_sign hfront]
  | some m =>
    have htext : e.text =
        e.before .selector ++ e.digits .selector ++ m.sign.char :: m.magnitude := by
      simp [text, before, signText, digits, hm]
    rw [withoutNullModifier_of_some hm, htext, removeNullModifier_append_sign hfront]
    split
    · simp [text, before, signText, digits, keyword]
    · exact htext

theorem removeZeros_selector_append (he : e.WellFormed) {rest : List Char}
    (hstop : StopsDigits rest) :
    removeZeros false (e.keyword ++ (e.digits .selector ++ rest)) =
      e.withoutZeros.keyword ++ (e.withoutZeros.digits .selector ++ removeZeros false rest) := by
  cases hs : e.selector with
  | none => simp [keyword, digits, withoutZeros, hs]
  | some s =>
    have htext : e.keyword ++ (e.digits .selector ++ rest) = s.keyword ++ (s.number ++ rest) := by
      simp [keyword, digits, hs]
    rw [htext, removeZeros_keyword_append, removeZeros_number_append (he.selector s hs) hstop]
    simp [keyword, digits, withoutZeros, hs, Selector.keyword]

theorem removeZeros_modifier (he : e.WellFormed) :
    removeZeros false (e.signText ++ e.digits .modifier) =
      e.withoutZeros.signText ++ e.withoutZeros.digits .modifier := by
  cases hm : e.modifier with
  | none => simp [signText, digits, withoutZeros, hm, removeZeros]
  | some m =>
    have htext : e.signText ++ e.digits .modifier = m.sign.char :: (m.magnitude ++ []) := by
      simp [signText, digits, hm]
    rw [htext, removeZeros_sign_cons, removeZeros_number_append (he.modifier m hm) stopsDigits_nil]
    simp [signText, digits, withoutZeros, hm, removeZeros]

theorem text_withoutZeros (he : e.WellFormed) (hcount : e.count ≠ []) :
    e.withoutZeros.text = removeZeros false e.text := by
  have htext : ∀ e : Expression, e.text = e.count ++ 'd' :: (e.sides ++
      (e.keyword ++ (e.digits .selector ++ (e.signText ++ e.digits .modifier)))) := by
    simp [text]
  have hmodifier : StopsDigits (e.signText ++ e.digits .modifier) := by
    have h := stopsDigits_modifier_append (e := e) stopsDigits_nil
    rwa [List.append_nil] at h
  have hselector := stopsDigits_selector_append (e := e) hmodifier
  have hd : StopsDigits ('d' :: (e.sides ++
      (e.keyword ++ (e.digits .selector ++ (e.signText ++ e.digits .modifier))))) := by
    intro c hc
    cases hc
    rfl
  rw [htext, htext, removeZeros_number_append ⟨hcount, he.count⟩ hd,
    removeZeros_cons_of_not_isDigit rfl, removeZeros_number_append he.sides hselector,
    removeZeros_selector_append he hmodifier, removeZeros_modifier he]
  rfl

/-! ## The expression of the dice that are read -/

theorem value_count_withCount (e : Expression) : value e.withCount.count = e.countValue := by
  unfold withCount countValue
  split <;> rfl

theorem map_selector_eq_of_numbers_eq {d : Dice} (h : e.numbers = d.numbers) :
    (e.selector.map fun s => { s with number := decimal (value s.number) }) =
      d.selection.map Selection.selector := by
  have hwrite := congrArg (fun m : Numbers => m.selection.map fun (a, x, n) =>
    (⟨a, x, decimal n⟩ : Selector)) h
  simp only [numbers, Dice.numbers, Option.map_map] at hwrite
  exact hwrite

/-- The modifier of dice is written with the sign and the number that it was read from, unless that
is zero. -/
theorem writtenModifier_eq_ite {d : Dice} {m : Modifier} (h : d.modifier.toInt = m.value) :
    d.writtenModifier =
      if value m.magnitude = 0 then none
      else some { m with magnitude := decimal (value m.magnitude) } := by
  obtain ⟨sign, run⟩ := m
  unfold Dice.writtenModifier
  cases sign with
  | plus =>
    have hvalue : d.modifier.toInt = value run := h
    by_cases hzero : value run = 0
    · rw [if_pos (by omega), if_pos hzero]
    · have habs : d.modifier.toInt.natAbs = value run := by omega
      rw [if_neg (by omega), if_neg (by omega), if_neg hzero, habs]
  | minus =>
    have hvalue : d.modifier.toInt = -value run := h
    by_cases hzero : value run = 0
    · rw [if_pos (by omega), if_pos hzero]
    · have habs : d.modifier.toInt.natAbs = value run := by omega
      rw [if_neg (by omega), if_pos (by omega), if_neg hzero, habs]

theorem map_modifier_eq_of_numbers_eq {d : Dice} (h : e.numbers = d.numbers) :
    (e.withoutNullModifier.modifier.map fun m =>
      { m with magnitude := decimal (value m.magnitude) }) = d.writtenModifier := by
  have hvalue : d.modifier.toInt = e.modifierValue := (congrArg Numbers.modifier h).symm
  cases hm : e.modifier with
  | none =>
    have hzero : e.modifierValue = 0 := by rw [modifierValue, hm]
    rw [withoutNullModifier_of_none hm, hm, Dice.writtenModifier, if_pos (hvalue.trans hzero)]
    rfl
  | some m =>
    rw [e.modifierValue_of_some hm] at hvalue
    rw [withoutNullModifier_of_some hm, writtenModifier_eq_ite hvalue]
    split
    · rfl
    · rw [hm, Option.map_some]

/-- The dice that an expression is read as are written as this expression after all changes. -/
theorem expression_eq_of_numbers_eq {d : Dice} (h : e.numbers = d.numbers) :
    d.expression = e.withCount.withoutNullModifier.withoutZeros := by
  have hcount : value e.withCount.count = d.count.toNat :=
    e.value_count_withCount.trans (congrArg Numbers.count h)
  have hsides : value e.sides = d.sides.toNat := congrArg Numbers.sides h
  rw [Dice.expression, ← hcount, ← hsides, ← map_selector_eq_of_numbers_eq h,
    ← map_modifier_eq_of_numbers_eq h]
  rfl

end Expression

/-! ## The normal form of notation -/

/-- What a string spells is written, after all changes, as its normal form. -/
theorem Spells.text_eq_normalForm {s : String} {e : Expression} (he : Spells s e) :
    String.ofList e.withCount.withoutNullModifier.withoutZeros.text = normalForm s := by
  have htext : e.text = (trim s.toList).map Char.toLower := (scan_eq_ok_iff.mp (spells_iff.mp he)).2
  have hwf := he.1.withCount
  rw [normalForm, ← htext, ← Expression.text_withCount he.1,
    ← Expression.text_withoutNullModifier hwf,
    ← Expression.text_withoutZeros hwf.withoutNullModifier he.1.isNumber_count_withCount.1]

theorem normalForm_of_parse_eq_ok {s : String} {d : Dice} (h : parse s = .ok d) :
    normalForm s = toString d := by
  obtain ⟨e, he⟩ := exists_spells_of_parse_eq_ok h
  rw [← he.text_eq_normalForm,
    ← Expression.expression_eq_of_numbers_eq (he.parse_eq_ok_iff.mp h).1, d.text_expression]
  rfl

/-- **Dice are printed as the normal form of what they were read from.**  And two texts are read as
the same dice iff they have the same normal form. -/
theorem toString_eq_normalForm_of_parse_eq_ok {s : String} {d : Dice} (h : parse s = .ok d) :
    toString d = normalForm s ∧
      ∀ s' d', parse s' = .ok d' → (d = d' ↔ normalForm s = normalForm s') := by
  refine ⟨(normalForm_of_parse_eq_ok h).symm, fun s' d' h' => ?_⟩
  rw [normalForm_of_parse_eq_ok h, normalForm_of_parse_eq_ok h']
  exact Dice.toString_inj.symm

/-- A count is left out, there is a capital letter, zeros lead two of the numbers, and the third is
zero. -/
theorem toString_eq_normalForm_of_modifier_of_zeros :
    parse "\tD006Kh01-000 " =
        .ok { count := 1, sides := 6, selection := some ⟨.keep, .highest, 1⟩ } ∧
      parse "1d6kh1" = .ok { count := 1, sides := 6, selection := some ⟨.keep, .highest, 1⟩ } ∧
      normalForm "\tD006Kh01-000 " = "1d6kh1" ∧
      normalForm "\tD006Kh01-000 " = normalForm "1d6kh1" := by
  have h : parse "\tD006Kh01-000 " =
      .ok { count := 1, sides := 6, selection := some ⟨.keep, .highest, 1⟩ } := by rfl
  have h' : parse "1d6kh1" =
      .ok { count := 1, sides := 6, selection := some ⟨.keep, .highest, 1⟩ } := by rfl
  obtain ⟨hprint, hsame⟩ := toString_eq_normalForm_of_parse_eq_ok h
  exact ⟨h, h', hprint.symm, (hsame _ _ h').mp rfl⟩

end TabletopDice
