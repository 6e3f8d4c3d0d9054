import TabletopDice.Proofs.Transcripts

/-! # What a description shows

A description is the notation of the dice with the list of the dice on the table put
into it, in brackets in front of the modifier.  Neither the notation nor the list
has a bracket in it, so the list can be taken out of the text again.

What is taken out is a list without empty items: the dice up to the limit, and one
more item for the dice left out (`Lists`).  Only a limit of zero spoils it, for the
item that counts the dice left out always has a separator in front of it.  What is
left when the list is taken away is the notation, but for the blanks around the sign
of the modifier.
-/
namespace TabletopDice

/-! ## Text in brackets -/

/-- What stands between the first opening bracket and the next closing one. -/
def bracketed (text : List Char) : List Char :=
  ((text.dropWhile (· ≠ '[')).drop 1).takeWhile (· ≠ ']')

/-- The text without the first opening bracket, the next closing one and what is between them. -/
def unbracketed (text : List Char) : List Char :=
  text.takeWhile (· ≠ '[') ++ ((text.dropWhile (· ≠ '[')).dropWhile (· ≠ ']')).drop 1

theorem takeWhile_ne {c : Char} {front : List Char} (h : c ∉ front) (back : List Char) :
    (front ++ c :: back).takeWhile (· ≠ c) = front :=
  takeWhile_run (fun _ hx => decide_eq_true fun heq => h (heq ▸ hx))
    (fun _ hx => decide_eq_false fun hne => hne (Option.some.inj hx).symm)

theorem dropWhile_ne {c : Char} {front : List Char} (h : c ∉ front) (back : List Char) :
    (front ++ c :: back).dropWhile (· ≠ c) = c :: back :=
  dropWhile_run (fun _ hx => decide_eq_true fun heq => h (heq ▸ hx))
    (fun _ hx => decide_eq_false fun hne => hne (Option.some.inj hx).symm)

section Brackets

variable {front inside : List Char} (hfront : '[' ∉ front) (hinside : ']' ∉ inside)
  (back : List Char)
include hfront hinside

theorem bracketed_append : bracketed (front ++ '[' :: (inside ++ ']' :: back)) = inside := by
  rw [bracketed, dropWhile_ne hfront, List.drop_succ_cons, List.drop_zero, takeWhile_ne hinside]

theorem unbracketed_append :
    unbracketed (front ++ '[' :: (inside ++ ']' :: back)) = front ++ back := by
  have hopen : ']' ∉ '[' :: inside := List.not_mem_cons_of_ne_of_not_mem (by decide) hinside
  rw [unbracketed, takeWhile_ne hfront, dropWhile_ne hfront, ← List.cons_append,
    dropWhile_ne hopen, List.drop_succ_cons, List.drop_zero]

end Brackets

/-! ## Lists of items -/

namespace Roll

/-- The parts of a text that separators set apart. -/
def splitItems : List Char → List (List Char)
  | [] => [[]]
  | ',' :: ' ' :: rest => [] :: splitItems rest
  | c :: rest => (splitItems rest).modifyHead (c :: ·)

theorem splitItems_cons {c : Char} (h : c ≠ ',') (rest : List Char) :
    splitItems (c :: rest) = (splitItems rest).modifyHead (c :: ·) := by
  rw [splitItems]
  rintro - rfl
  contradiction

theorem splitItems_item {item : List Char} (h : ',' ∉ item) : splitItems item = [item] := by
  induction item with
  | nil => rfl
  | cons c item ih =>
    rw [List.mem_cons, not_or] at h
    rw [splitItems_cons (Ne.symm h.1), ih h.2]
    rfl

theorem splitItems_item_append {item : List Char} (h : ',' ∉ item) (rest : List Char) :
    splitItems (item ++ separator ++ rest) = item :: splitItems rest := by
  induction item with
  | nil => rfl
  | cons c item ih =>
    rw [List.mem_cons, not_or] at h
    rw [List.cons_append, List.cons_append, splitItems_cons (Ne.symm h.1), ih h.2]
    rfl

/-- Items without a comma are set apart again just as they were joined. -/
theorem splitItems_intercalate {items : List (List Char)} (hne : items ≠ [])
    (h : ∀ item ∈ items, ',' ∉ item) : splitItems (separator.intercalate items) = items := by
  induction items with
  | nil => contradiction
  | cons item rest ih =>
    rw [List.forall_mem_cons] at h
    cases rest with
    | nil => rw [List.intercalate_singleton, splitItems_item h.1]
    | cons next rest =>
      rw [List.intercalate_cons_cons, splitItems_item_append h.1, ih (List.cons_ne_nil _ _) h.2]

/-- Behind a separator at the end of a text there is one more part, an empty one. -/
theorem exists_splitItems_append_separator (text : List Char) :
    ∃ item items, splitItems (text ++ separator) = item :: items ∧ [] ∈ items := by
  fun_induction splitItems text with
  | case1 => exact ⟨[], [[]], rfl, List.mem_singleton_self _⟩
  | case2 rest ih =>
    obtain ⟨item, items, hsplit, hempty⟩ := ih
    exact ⟨[], item :: items, congrArg ([] :: ·) hsplit, List.mem_cons_of_mem _ hempty⟩
  | case3 c rest hno ih =>
    obtain ⟨item, items, hsplit, hempty⟩ := ih
    refine ⟨c :: item, items, ?_, hempty⟩
    rw [List.cons_append, splitItems, hsplit, List.modifyHead_cons]
    -- the character begins no separator here either: a comma follows it, or what followed before
    intro rest' hc hrest
    cases rest with
    | nil => cases hrest
    | cons x rest =>
      cases hrest
      exact hno rest hc rfl

/-- The text is a list of the items: these are what separators join and what separators set apart
again.  None of them is empty, so no separator comes first or last. -/
structure Lists (text : List Char) (items : List (List Char)) : Prop where
  joined : text = separator.intercalate items
  apart : items ≠ [] → splitItems text = items
  filled : [] ∉ items
  first : ¬separator <+: text
  last : ¬separator <:+ text

theorem Lists.of_items {items : List (List Char)} (hfilled : [] ∉ items)
    (hcomma : ∀ item ∈ items, ',' ∉ item) : Lists (separator.intercalate items) items := by
  by_cases hne : items = []
  · subst hne
    exact ⟨rfl, fun h => absurd rfl h, hfilled, by decide, by decide⟩
  · have hapart := splitItems_intercalate hne hcomma
    refine ⟨rfl, fun _ => hapart, hfilled, ?_, ?_⟩
    -- a separator at either end would set an empty part apart
    · rintro ⟨rest, hrest⟩
      have hsplit : splitItems (separator ++ rest) = [] :: splitItems rest := rfl
      rw [hrest, hapart] at hsplit
      rw [hsplit] at hfilled
      exact hfilled List.mem_cons_self
    · rintro ⟨rest, hrest⟩
      obtain ⟨item, parts, hsplit, hempty⟩ := exists_splitItems_append_separator rest
      rw [hrest, hapart] at hsplit
      rw [hsplit] at hfilled
      exact hfilled (List.mem_cons_of_mem _ hempty)

/-! ## Dice up to a limit -/

/-- How many of so many dice a list shows. -/
def shown (limit : Option Nat) (total : Nat) : Nat := limit.elim total (min · total)

/-- The first dice of a list, and one more item for the dice that are left out, if any are. -/
def items (rolls : List Die) (n : Nat) : List (List Char) :=
  (rolls.take n).map Die.text ++
    if n < rolls.length then [remainder (rolls.length - n)] else []

theorem listing_some (rolls : List Die) (k : Nat) :
    listing rolls (some k) = listing (rolls.take k) none ++
      if k < rolls.length then separator ++ remainder (rolls.length - k) else [] := rfl

theorem spelled_remainder (n : Nat) : Spelled [' ', 'm', 'o', 'r', 'e', '.'] (remainder n) :=
  (spelled_decimal _ n).append (Spelled.of_subset (by decide))

/-- Up to a limit, too, a list is spelled without brackets. -/
theorem spelled_listing_limit (rolls : List Die) (limit : Option Nat) :
    Spelled [' ', '(', 'd', ')', ',', 'm', 'o', 'r', 'e', '.'] (listing rolls limit) := by
  cases limit with
  | none => exact (spelled_listing rolls).mono (by decide)
  | some k =>
    rw [listing_some]
    refine ((spelled_listing _).mono (by decide)).append ?_
    split
    · exact (Spelled.of_subset (by decide)).append ((spelled_remainder _).mono (by decide))
    · exact nofun

theorem listing_of_length_le {rolls : List Die} {k : Nat} (h : rolls.length ≤ k) :
    listing rolls (some k) = listing rolls none := by
  rw [listing_some, List.take_of_length_le h, if_neg (Nat.not_lt.mpr h), List.append_nil]

/-- Behind at least one item, one more item comes with a separator. -/
theorem intercalate_append_singleton {items : List (List Char)} (h : items ≠ [])
    (item : List Char) :
    separator.intercalate (items ++ [item]) = separator.intercalate items ++ separator ++ item := by
  induction items with
  | nil => contradiction
  | cons first rest ih =>
    cases rest with
    | nil => simp
    | cons next rest =>
      have hrest := ih (List.cons_ne_nil _ _)
      simp only [List.cons_append, List.intercalate_cons_cons] at hrest ⊢
      simp [hrest]

theorem listing_eq_intercalate {rolls : List Die} {limit : Option Nat}
    (h : limit = some 0 → rolls = []) :
    listing rolls limit = separator.intercalate (items rolls (shown limit rolls.length)) := by
  cases limit with
  | none => simp [shown, items, listing_none]
  | some k =>
    rcases Nat.lt_or_ge k rolls.length with hlt | hge
    · have hshown : shown (some k) rolls.length = k := Nat.min_eq_left (Nat.le_of_lt hlt)
      have hne : (rolls.take k).map Die.text ≠ [] := by
        rw [Ne, List.map_eq_nil_iff, List.take_eq_nil_iff]
        rintro (rfl | hnil)
        · rw [h rfl] at hlt
          contradiction
        · rw [hnil] at hlt
          contradiction
      rw [hshown, items, if_pos hlt, intercalate_append_singleton hne, listing_some, if_pos hlt,
        listing_none, List.append_assoc]
    · have hshown : shown (some k) rolls.length = rolls.length := Nat.min_eq_right hge
      rw [hshown, items, if_neg (Nat.lt_irrefl _), List.append_nil, List.take_length,
        listing_of_length_le hge, listing_none]

/-- Every item says something, and none has a comma in it. -/
theorem ne_nil_and_comma_notMem_of_mem_items {rolls : List Die} {n : Nat} :
    ∀ item ∈ items rolls n, item ≠ [] ∧ ',' ∉ item := by
  intro item hitem
  rw [items, List.mem_append] at hitem
  rcases hitem with hitem | hitem
  · obtain ⟨die, -, rfl⟩ := List.mem_map.mp hitem
    exact ⟨die.text_ne_nil, die.spelled_text.notMem (by decide) (by decide)⟩
  · split at hitem
    · rw [List.mem_singleton.mp hitem]
      exact ⟨List.append_ne_nil_of_left_ne_nil (isNumber_decimal _).1 _,
        (spelled_remainder _).notMem (by decide) (by decide)⟩
    · contradiction

/-! ## Descriptions -/

theorem toList_describe (r : Roll) (limit : Option Nat) :
    (r.describe limit).toList = { r.dice with modifier := 0 }.text ++
      '[' :: (listing r.rolls limit ++ ']' :: surcharge r.modifier) := by
  rw [describe, String.toList_ofList, descriptionText]
  simp

theorem bracket_notMem_text (d : Dice) : '[' ∉ d.text :=
  d.spelled_text.notMem (by decide) (by decide)

theorem bracket_notMem_listing (rolls : List Die) (limit : Option Nat) :
    ']' ∉ listing rolls limit :=
  (spelled_listing_limit rolls limit).notMem (by decide) (by decide)

theorem bracketed_describe (r : Roll) (limit : Option Nat) :
    bracketed (r.describe limit).toList = listing r.rolls limit := by
  rw [toList_describe]
  exact bracketed_append (bracket_notMem_text _) (bracket_notMem_listing _ _) _

/-- **A description lists the dice up to its limit, and how many more there are.**  Unless the limit
is zero and there are dice, the list in the brackets has one item for each die that is shown, in
order, and one more iff dice are left out.  With a limit of zero the item for the dice left out has
a separator in front of it.  A limit that leaves nothing out changes nothing. -/
theorem describe_lists (r : Roll) (limit : Option Nat) :
    ((limit = some 0 → r.rolls = []) →
      Lists (bracketed (r.describe limit).toList)
        (items r.rolls (shown limit r.rolls.length))) ∧
      (r.rolls ≠ [] →
        bracketed (r.describe (some 0)).toList = separator ++ remainder r.rolls.length) ∧
      ∀ k, r.rolls.length ≤ k → r.describe (some k) = r.describe none := by
  refine ⟨fun h => ?_, fun hne => ?_, fun k hk => ?_⟩
  · rw [bracketed_describe, listing_eq_intercalate h]
    exact .of_items (fun hempty => (ne_nil_and_comma_notMem_of_mem_items _ hempty).1 rfl)
      fun item hitem => (ne_nil_and_comma_notMem_of_mem_items item hitem).2
  · rw [bracketed_describe, listing_some, if_pos (List.length_pos_of_ne_nil hne)]
    rfl
  · rw [← String.toList_inj, toList_describe, toList_describe, listing_of_length_le hk]

/-- Two of three dice are shown; a limit of zero shows none, and a limit of three shows all. -/
theorem describe_lists_of_three_dice :
    (ofValues ⟨3, 6, -1, none⟩ [3, 1, 4]).describe (some 2) = "3d6[3, 1, 1 more...] - 1" ∧
      Lists (bracketed "3d6[3, 1, 1 more...] - 1".toList) [['3'], ['1'], remainder 1] ∧
      bracketed ((ofValues ⟨3, 6, -1, none⟩ [3, 1, 4]).describe (some 0)).toList =
        separator ++ remainder 3 ∧
      (ofValues ⟨3, 6, -1, none⟩ [3, 1, 4]).describe (some 3) =
        (ofValues ⟨3, 6, -1, none⟩ [3, 1, 4]).describe none := by
  have hdescribe : (ofValues ⟨3, 6, -1, none⟩ [3, 1, 4]).describe (some 2) =
      "3d6[3, 1, 1 more...] - 1" := by decide +kernel
  obtain ⟨hlists, hzero, hall⟩ := describe_lists (ofValues ⟨3, 6, -1, none⟩ [3, 1, 4]) (some 2)
  rw [hdescribe] at hlists
  exact ⟨hdescribe, hlists nofun, hzero (List.cons_ne_nil _ _), hall 3 (by decide +kernel)⟩

/-- With a limit of zero the list in the brackets begins with a separator, so it is a list of no
items whatever. -/
theorem not_lists_of_limit_zero :
    (ofValues ⟨2, 6, 0, none⟩ [3, 4]).describe (some 0) = "2d6[, 2 more...]" ∧
      ¬∃ items, Lists (bracketed "2d6[, 2 more...]".toList) items := by
  refine ⟨by decide +kernel, ?_⟩
  rintro ⟨items, hlists⟩
  exact hlists.first (by decide +kernel)

/-! ## The notation in a description -/

/-- The text without what is in brackets and without blanks. -/
def notationOf (text : String) : String :=
  String.ofList ((unbracketed text.toList).filter (· ≠ ' '))

theorem filter_surcharge (d : Dice) : (surcharge d.modifier).filter (· ≠ ' ') = d.modifierText := by
  have hdecimal : ∀ n, (decimal n).filter (· ≠ ' ') = decimal n := by
    intro n
    refine List.filter_eq_self.mpr fun c hc => decide_eq_true ?_
    rintro rfl
    exact absurd ((isNumber_decimal n).2 ' ' hc) (by decide)
  unfold surcharge Dice.modifierText
  split
  · rfl
  · split
    · rw [List.filter_append, hdecimal]
      rfl
    · rw [List.filter_append, hdecimal]
      rfl

/-- The dice without a modifier, and the modifier behind them, make up the notation. -/
theorem text_append_modifierText (d : Dice) :
    { d with modifier := 0 }.text ++ d.modifierText = d.text := by
  have hplain : { d with modifier := 0 }.modifierText = [] := rfl
  rw [Dice.text, hplain, List.append_nil]
  rfl

theorem notationOf_describe (d : Dice) (vals : List UInt16) (limit : Option Nat) :
    notationOf ((ofValues d vals).describe limit) = toString d := by
  have hblank : ∀ d : Dice, d.text.filter (· ≠ ' ') = d.text := by
    intro d
    refine List.filter_eq_self.mpr fun c hc => decide_eq_true ?_
    rintro rfl
    exact d.spelled_text.notMem (by decide) (by decide) hc
  have htext : (unbracketed ((ofValues d vals).describe limit).toList).filter (· ≠ ' ') =
      d.text := by
    rw [toList_describe, unbracketed_append (bracket_notMem_text _) (bracket_notMem_listing _ _),
      List.filter_append, hblank]
    exact (congrArg _ (filter_surcharge d)).trans (text_append_modifierText d)
  exact congrArg String.ofList htext

/-- **A description holds the notation of its dice.**  Without the list in brackets and without
blanks it is what the dice are printed as, whatever they are and wherever the list is cut short.  So
they are read from it again iff they are within the limits. -/
theorem notation_of_describe (d : Dice) (vals : List UInt16) (limit : Option Nat) :
    notationOf ((ofValues d vals).describe limit) = toString d ∧
      (parse (notationOf ((ofValues d vals).describe limit)) = .ok d ↔ d.Legal) := by
  rw [notationOf_describe, d.spells_toString.parse_eq_ok_iff, d.numbers_expression]
  exact ⟨rfl, fun h => h.2, fun h => ⟨rfl, h⟩⟩

end Roll
end TabletopDice
