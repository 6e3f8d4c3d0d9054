import Mathlib.Data.List.Basic
import TabletopDice.Proofs.Notation
import TabletopDice.Proofs.Rolling

/-! # What a printed roll tells

A description holds everything that its roll was made from.  Its parts are told
apart by characters that the parts in front do not hold: the notation ends at the
first bracket, the list at the bracket that closes it, each die of the list at
the next comma, and the whole description at the sign of equality.  So each part
can be taken off in turn, and none of them has two readings
(`text_ofValues_injective`).
-/
namespace TabletopDice

/-! ## Parts of a text -/

/-- The text is empty or begins with the character. -/
def BeginsWith (c : Char) (text : List Char) : Prop := ∀ x ∈ text.head?, x = c

theorem beginsWith_nil (c : Char) : BeginsWith c [] := nofun

theorem beginsWith_cons (c : Char) (text : List Char) : BeginsWith c (c :: text) :=
  fun _ hx => (Option.some.inj hx).symm

/-- A text falls apart in one way at the first place of a character, or at its end. -/
theorem eq_of_append_eq {c : Char} {front front' back back' : List Char} (h : c ∉ front)
    (h' : c ∉ front') (hback : BeginsWith c back) (hback' : BeginsWith c back')
    (heq : front ++ back = front' ++ back') : front = front' ∧ back = back' := by
  induction front generalizing front' with
  | nil =>
    cases front' with
    | nil => exact ⟨rfl, heq⟩
    | cons x front' =>
      rw [List.nil_append] at heq
      rw [heq] at hback
      exact absurd (hback x rfl ▸ List.mem_cons_self) h'
  | cons x front ih =>
    cases front' with
    | nil =>
      rw [List.nil_append] at heq
      rw [← heq] at hback'
      exact absurd (hback' x rfl ▸ List.mem_cons_self) h
    | cons x' front' =>
      obtain ⟨rfl, htail⟩ := List.cons.inj heq
      obtain ⟨rfl, hrest⟩ := ih (List.not_mem_of_not_mem_cons h)
        (List.not_mem_of_not_mem_cons h') htail
      exact ⟨rfl, hrest⟩

/-- Every character is a digit or one of the others. -/
def Spelled (others text : List Char) : Prop := ∀ c ∈ text, c.isDigit = true ∨ c ∈ others

namespace Spelled

variable {others text text' : List Char}

theorem notMem (h : Spelled others text) {c : Char} (hdigit : c.isDigit = false)
    (hothers : c ∉ others) : c ∉ text := by
  intro hc
  rcases h c hc with hd | ho
  · rw [hdigit] at hd
    contradiction
  · exact hothers ho

theorem append (h : Spelled others text) (h' : Spelled others text') :
    Spelled others (text ++ text') :=
  fun c hc => (List.mem_append.mp hc).elim (h c) (h' c)

theorem cons {c : Char} (h : Spelled others text) (hc : c ∈ others) : Spelled others (c :: text) :=
  List.forall_mem_cons.mpr ⟨Or.inr hc, h⟩

theorem of_digits (h : ∀ c ∈ text, c.isDigit = true) : Spelled others text :=
  fun c hc => Or.inl (h c hc)

theorem of_subset (h : text ⊆ others) : Spelled others text := fun _ hc => Or.inr (h hc)

theorem mono (h : Spelled others text) {more : List Char} (hsub : others ⊆ more) :
    Spelled more text := fun c hc => (h c hc).imp_right fun ho => hsub ho

end Spelled

theorem decimal_injective {n n' : Nat} (h : decimal n = decimal n') : n = n' := by
  rw [← value_decimal n, h, value_decimal]

theorem spelled_decimal (others : List Char) (n : Nat) : Spelled others (decimal n) :=
  Spelled.of_digits (isNumber_decimal n).2

/-! ## The notation -/

namespace Dice

theorem spelled_text (d : Dice) : Spelled ['d', 'k', 'h', 'l', '+', '-'] d.text := by
  have hselection : Spelled ['d', 'k', 'h', 'l', '+', '-'] d.selectionText := by
    unfold selectionText
    cases d.selection with
    | none => exact nofun
    | some s =>
      refine Spelled.append (Spelled.of_subset ?_) (spelled_decimal _ _)
      unfold Selection.symbol
      cases s.action <;> cases s.extreme <;> decide
  have hmodifier : Spelled ['d', 'k', 'h', 'l', '+', '-'] d.modifierText := by
    unfold modifierText
    split
    · exact nofun
    · split
      · exact (spelled_decimal _ _).cons (by decide)
      · exact (spelled_decimal _ _).cons (by decide)
  have hsides : Spelled ['d', 'k', 'h', 'l', '+', '-'] ('d' :: decimal d.sides.toNat) :=
    (spelled_decimal _ _).cons (by decide)
  exact (((spelled_decimal _ _).append hsides).append hselection).append hmodifier

end Dice

/-! ## The list of the dice -/

namespace Die

/-- The mark behind the value of a dropped die. -/
def mark (die : Die) : List Char := if die.kept then [] else [' ', '(', 'd', ')']

theorem text_eq (die : Die) : die.text = decimal die.val.toNat ++ die.mark := rfl

theorem mark_eq_nil_iff {die : Die} : die.mark = [] ↔ die.kept = true := by
  unfold mark
  cases die.kept <;> decide

theorem stopsDigits_mark (die : Die) : StopsDigits die.mark := by
  unfold mark
  split
  · exact stopsDigits_nil
  · intro c hc
    cases hc
    rfl

theorem text_ne_nil (die : Die) : die.text ≠ [] := by
  rw [text_eq]
  exact List.append_ne_nil_of_left_ne_nil (isNumber_decimal _).1 _

theorem spelled_text (die : Die) : Spelled [' ', '(', 'd', ')'] die.text := by
  refine (spelled_decimal _ _).append (Spelled.of_subset ?_)
  cases die.kept <;> decide

/-- Other dice look different: the value ends where the digits do, and the mark is behind it. -/
theorem text_injective {die die' : Die} (h : die.text = die'.text) : die = die' := by
  rw [text_eq, text_eq] at h
  have hval := congrArg (List.takeWhile Char.isDigit) h
  have hmark := congrArg (List.dropWhile Char.isDigit) h
  rw [takeWhile_digits (isNumber_decimal _).2 die.stopsDigits_mark,
    takeWhile_digits (isNumber_decimal _).2 die'.stopsDigits_mark] at hval
  rw [dropWhile_digits (isNumber_decimal _).2 die.stopsDigits_mark,
    dropWhile_digits (isNumber_decimal _).2 die'.stopsDigits_mark] at hmark
  have hkept : die.kept = die'.kept := by
    rw [Bool.eq_iff_iff, ← mark_eq_nil_iff, ← mark_eq_nil_iff, hmark]
  rw [Die.mk.injEq]
  exact ⟨UInt16.toNat_inj.mp (decimal_injective hval), hkept⟩

end Die

namespace Roll

theorem listing_none (rolls : List Die) :
    listing rolls none = separator.intercalate (rolls.map Die.text) := rfl

/-- What stands behind the first die of a list. -/
def continuation : List Die → List Char
  | [] => []
  | die :: rest => ',' :: ' ' :: listing (die :: rest) none

theorem listing_cons (die : Die) (rest : List Die) :
    listing (die :: rest) none = die.text ++ continuation rest := by
  cases rest with
  | nil => rw [listing_none, List.map_singleton, List.intercalate_singleton]; simp [continuation]
  | cons next rest =>
    rw [continuation, listing_none, listing_none, List.map_cons, List.map_cons,
      List.intercalate_cons_cons]
    simp [separator]

theorem beginsWith_continuation (rest : List Die) : BeginsWith ',' (continuation rest) := by
  cases rest with
  | nil => exact beginsWith_nil ','
  | cons die rest => exact beginsWith_cons ',' _

theorem listing_cons_ne_nil (die : Die) (rest : List Die) : listing (die :: rest) none ≠ [] := by
  rw [listing_cons]
  exact List.append_ne_nil_of_left_ne_nil die.text_ne_nil _

theorem spelled_listing (rolls : List Die) :
    Spelled [' ', '(', 'd', ')', ','] (listing rolls none) := by
  induction rolls with
  | nil => exact nofun
  | cons die rest ih =>
    rw [listing_cons]
    refine (die.spelled_text.mono (by decide)).append ?_
    cases rest with
    | nil => exact nofun
    | cons next rest => exact (ih.cons (by decide)).cons (by decide)

/-- A list of dice can be read in one way: each die ends at the next comma. -/
theorem listing_injective {rolls rolls' : List Die}
    (h : listing rolls none = listing rolls' none) : rolls = rolls' := by
  induction rolls generalizing rolls' with
  | nil =>
    cases rolls' with
    | nil => rfl
    | cons die' rest' => exact absurd h.symm (listing_cons_ne_nil die' rest')
  | cons die rest ih =>
    cases rolls' with
    | nil => exact absurd h (listing_cons_ne_nil die rest)
    | cons die' rest' =>
      have hcomma : ∀ die : Die, ',' ∉ die.text :=
        fun die => die.spelled_text.notMem (by decide) (by decide)
      rw [listing_cons, listing_cons] at h
      obtain ⟨hdie, hrest⟩ := eq_of_append_eq (hcomma die) (hcomma die')
        (beginsWith_continuation rest) (beginsWith_continuation rest') h
      rw [Die.text_injective hdie]
      cases rest with
      | nil =>
        cases rest' with
        | nil => rfl
        | cons next' rest' => exact absurd hrest (List.cons_ne_nil _ _).symm
      | cons next rest =>
        cases rest' with
        | nil => exact absurd hrest (List.cons_ne_nil _ _)
        | cons next' rest' =>
          rw [continuation, continuation, List.cons.injEq, List.cons.injEq] at hrest
          rw [ih hrest.2.2]

/-! ## The modifier -/

/-- A modifier is shown as the notation writes it, its sign set apart by blanks. -/
theorem surcharge_eq (d : Dice) :
    surcharge d.modifier =
      d.writtenModifier.elim [] fun m => [' ', m.sign.char, ' '] ++ m.magnitude := by
  unfold surcharge Dice.writtenModifier
  split
  · rfl
  · split <;> rfl

theorem spelled_surcharge (m : Int32) : Spelled [' ', '+', '-'] (surcharge m) := by
  unfold surcharge
  split
  · exact nofun
  · split
    · exact (Spelled.of_subset (by decide)).append (spelled_decimal _ _)
    · exact (Spelled.of_subset (by decide)).append (spelled_decimal _ _)

theorem writtenModifier_eq_of_surcharge_eq {d d' : Dice}
    (h : surcharge d.modifier = surcharge d'.modifier) :
    d.writtenModifier = d'.writtenModifier := by
  have hsign : ∀ sign sign' : Sign, sign.char = sign'.char → sign = sign' := by
    intro sign sign' hc
    exact Option.some.inj ((Sign.ofChar?_eq_some_iff.mpr rfl).symm.trans
      (Sign.ofChar?_eq_some_iff.mpr hc))
  rw [surcharge_eq, surcharge_eq] at h
  cases hm : d.writtenModifier with
  | none =>
    cases hm' : d'.writtenModifier with
    | none => rfl
    | some m' => simp [hm, hm'] at h
  | some m =>
    cases hm' : d'.writtenModifier with
    | none => simp [hm, hm'] at h
    | some m' =>
      simp only [hm, hm', Option.elim_some, List.cons_append, List.nil_append, List.cons.injEq,
        true_and] at h
      rw [Option.some.injEq, Modifier.mk.injEq]
      exact ⟨hsign _ _ h.1, h.2⟩

/-- Other modifiers are shown in another way. -/
theorem surcharge_injective {d d' : Dice} (h : surcharge d.modifier = surcharge d'.modifier) :
    d.modifier = d'.modifier := by
  have hmodifier : d.expression.modifier = d'.expression.modifier :=
    writtenModifier_eq_of_surcharge_eq h
  have hvalue : d.expression.modifierValue = d'.expression.modifierValue := by
    unfold Expression.modifierValue
    rw [hmodifier]
  rw [d.modifierValue_expression, d'.modifierValue_expression] at hvalue
  exact Int32.toInt_inj.mp hvalue

/-! ## Whole descriptions -/

theorem descriptionText_ofValues (d : Dice) (vals : List UInt16) :
    (ofValues d vals).descriptionText none =
      { d with modifier := 0 }.text ++
        '[' :: (listing (settle d.selection vals) none ++ ']' :: surcharge d.modifier) := by
  simp [descriptionText, ofValues]

/-- A description tells the dice and the values. -/
theorem descriptionText_injective {d d' : Dice} {vals vals' : List UInt16}
    (h : (ofValues d vals).descriptionText none = (ofValues d' vals').descriptionText none) :
    d = d' ∧ vals = vals' := by
  have hopen : ∀ d : Dice, '[' ∉ d.text :=
    fun d => d.spelled_text.notMem (by decide) (by decide)
  have hclose : ∀ rolls : List Die, ']' ∉ listing rolls none :=
    fun rolls => (spelled_listing rolls).notMem (by decide) (by decide)
  rw [descriptionText_ofValues, descriptionText_ofValues] at h
  obtain ⟨hdice, hbehind⟩ := eq_of_append_eq (hopen _) (hopen _)
    (beginsWith_cons '[' _) (beginsWith_cons '[' _) h
  obtain ⟨hlisting, hsurcharge⟩ := eq_of_append_eq (hclose _) (hclose _)
    (beginsWith_cons ']' _) (beginsWith_cons ']' _) (List.cons.inj hbehind).2
  have hplain := Dice.text_injective hdice
  have hmodifier := surcharge_injective (List.cons.inj hsurcharge).2
  have hdice : d = d' := by
    rw [Dice.mk.injEq] at hplain ⊢
    exact ⟨hplain.1, hplain.2.1, hmodifier, hplain.2.2.2⟩
  have hrolls : (ofValues d vals).rolls = (ofValues d' vals').rolls := listing_injective hlisting
  refine ⟨hdice, ?_⟩
  -- the raw values are on the table
  calc vals = (ofValues d vals).rolls.map (·.val) := (vals_ofValues d vals).symm
    _ = (ofValues d' vals').rolls.map (·.val) := by rw [hrolls]
    _ = vals' := vals_ofValues d' vals'

theorem equals_notMem_descriptionText (d : Dice) (vals : List UInt16) :
    '=' ∉ (ofValues d vals).descriptionText none := by
  rw [descriptionText_ofValues, List.mem_append, List.mem_cons, List.mem_append, List.mem_cons]
  have hdice : '=' ∉ { d with modifier := 0 }.text :=
    (Dice.spelled_text _).notMem (by decide) (by decide)
  have hlisting : '=' ∉ listing (settle d.selection vals) none :=
    (spelled_listing _).notMem (by decide) (by decide)
  have hsurcharge : '=' ∉ surcharge d.modifier :=
    (spelled_surcharge _).notMem (by decide) (by decide)
  rintro (h | h | h | h | h)
  · exact hdice h
  · exact absurd h (by decide)
  · exact hlisting h
  · exact absurd h (by decide)
  · exact hsurcharge h

/-- A printed roll is its description and the total behind the sign of equality. -/
theorem descriptionText_eq_of_text_eq {d d' : Dice} {vals vals' : List UInt16}
    (h : (ofValues d vals).text = (ofValues d' vals').text) :
    (ofValues d vals).descriptionText none = (ofValues d' vals').descriptionText none := by
  have htext : ∀ (d : Dice) (vals : List UInt16), (ofValues d vals).text =
      ((ofValues d vals).descriptionText none ++ [' ']) ++
        '=' :: ' ' :: integer (ofValues d vals).total.toInt := by
    intro d vals
    simp [text]
  have hno : ∀ (d : Dice) (vals : List UInt16),
      '=' ∉ (ofValues d vals).descriptionText none ++ [' '] := by
    intro d vals hmem
    rcases List.mem_append.mp hmem with hmem | hmem
    · exact equals_notMem_descriptionText d vals hmem
    · exact absurd hmem (by decide)
  rw [htext, htext] at h
  obtain ⟨hfront, -⟩ := eq_of_append_eq (hno d vals) (hno d' vals') (beginsWith_cons '=' _)
    (beginsWith_cons '=' _) h
  exact (List.append_left_inj _).mp hfront

/-- **A printed roll is a complete record.**  Rolls that are printed alike, or described alike with
all of their dice, are rolls of the same dice with the same values, and so the same rolls. -/
theorem text_ofValues_injective (d d' : Dice) (vals vals' : List UInt16) :
    (toString (ofValues d vals) = toString (ofValues d' vals') ↔
      d = d' ∧ vals = vals' ∧ ofValues d vals = ofValues d' vals') ∧
    ((ofValues d vals).describe none = (ofValues d' vals').describe none ↔
      d = d' ∧ vals = vals' ∧ ofValues d vals = ofValues d' vals') := by
  have hsame : (ofValues d vals).descriptionText none = (ofValues d' vals').descriptionText none →
      d = d' ∧ vals = vals' ∧ ofValues d vals = ofValues d' vals' := by
    intro h
    obtain ⟨hdice, hvals⟩ := descriptionText_injective h
    exact ⟨hdice, hvals, by rw [hdice, hvals]⟩
  constructor
  · refine ⟨fun h => hsame (descriptionText_eq_of_text_eq (String.ofList_injective h)), ?_⟩
    rintro ⟨-, -, h⟩
    rw [h]
  · refine ⟨fun h => hsame (String.ofList_injective h), ?_⟩
    rintro ⟨-, -, h⟩
    rw [h]

end Roll
end TabletopDice
