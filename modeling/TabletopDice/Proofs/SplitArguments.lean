import TabletopDice.Proofs.CommandLines
import TabletopDice.Proofs.Parsing

/-! # An expression in several arguments

A run joins its arguments with a space between each two of them.  If a single one of
them has anything in it but blanks, the spaces come to stand around it, and change
nothing.  If two have, a space comes to stand inside the text, between parts that may
each be notation, or would be if they stood together.  No expression has a blank in
it, so this is always invalid: what a run rolls was in one argument as a whole.
-/
namespace TabletopDice

/-! ## Blanks around a text and inside it -/

/-- The string is rejected for the reason. -/
def RejectedFor (s : String) (reason : Reason) : Prop :=
  ∃ r, parse s = .error r ∧ r.reason = reason

/-- A text with a blank inside is not in the grammar. -/
theorem rejectedFor_invalid_of_blank_mem_trim {s : String} {c : Char} (hc : c ∈ trim s.toList)
    (hblank : isBlank c = true) : RejectedFor s .invalid := by
  rcases allBlank_or_halts_or_spells s with hall | ⟨hsome, halt, hscan⟩ | ⟨e, he⟩
  · rw [trim_eq_nil_iff.mpr hall] at hc
    contradiction
  · exact ⟨_, parse_of_scan_eq_error hsome hscan, rfl⟩
  · have hnot := he.1.isBlank_of_sameLetters he.sameLetters c hc
    rw [hblank] at hnot
    contradiction

/-- What is trimmed makes no difference to the dice, nor to the reason. -/
theorem parse_iff_of_trim_eq {s s' : String} (hs : ¬AllBlank s.toList)
    (h : trim s'.toList = trim s.toList) :
    (∀ d, parse s' = .ok d ↔ parse s = .ok d) ∧
      ∀ reason, RejectedFor s' reason ↔ RejectedFor s reason := by
  have hs' : ¬AllBlank s'.toList := by
    rw [← trim_eq_nil_iff, h, trim_eq_nil_iff]
    exact hs
  unfold RejectedFor
  rw [parse_of_not_allBlank hs, parse_of_not_allBlank hs', h]
  cases readExpression ((trim s.toList).map Char.toLower) with
  | ok d => simp
  | error fault => simp

namespace CommandLine

/-! ## Joined arguments -/

/-- The arguments with a space between each two of them. -/
def joined (arguments : List String) : String := " ".intercalate arguments

theorem joined_singleton (a : String) : joined [a] = a := String.intercalate_singleton

theorem toList_joined_append {front back : List String} (hfront : front ≠ []) (hback : back ≠ []) :
    (joined (front ++ back)).toList = (joined front).toList ++ ' ' :: (joined back).toList := by
  rw [joined, String.intercalate_append_of_ne_nil hfront hback, String.toList_append,
    String.toList_append, List.append_assoc]
  rfl

theorem allBlank_joined {arguments : List String} :
    AllBlank (joined arguments).toList ↔ ∀ a ∈ arguments, AllBlank a.toList := by
  induction arguments with
  | nil => exact ⟨fun _ => nofun, fun _ => nofun⟩
  | cons a rest ih =>
    by_cases hrest : rest = []
    · rw [hrest, joined_singleton, List.forall_mem_singleton]
    · rw [List.forall_mem_cons, ← ih, ← List.singleton_append,
        toList_joined_append (List.cons_ne_nil a []) hrest, joined_singleton]
      have hspace : ' ' ∈ whiteSpaces := by decide
      simp only [AllBlank, List.forall_mem_append, List.forall_mem_cons, hspace, true_and]

/-- Blank arguments around an argument come to blanks around its text. -/
theorem exists_joined_around {front back : List String} (a : String)
    (hfront : ∀ b ∈ front, AllBlank b.toList) (hback : ∀ b ∈ back, AllBlank b.toList) :
    ∃ ahead behind, AllBlank ahead ∧ AllBlank behind ∧
      (joined (front ++ a :: back)).toList = ahead ++ a.toList ++ behind := by
  have hspace : ' ' ∈ whiteSpaces := by decide
  have hbehind : ∃ behind, AllBlank behind ∧
      (joined (a :: back)).toList = a.toList ++ behind := by
    by_cases hne : back = []
    · exact ⟨[], nofun, by rw [hne, joined_singleton, List.append_nil]⟩
    · refine ⟨' ' :: (joined back).toList,
        List.forall_mem_cons.mpr ⟨hspace, allBlank_joined.mpr hback⟩, ?_⟩
      rw [← List.singleton_append, toList_joined_append (List.cons_ne_nil a []) hne,
        joined_singleton]
  obtain ⟨behind, hbehind, htext⟩ := hbehind
  by_cases hne : front = []
  · exact ⟨[], behind, nofun, hbehind, by rw [hne, List.nil_append, htext, List.nil_append]⟩
  · refine ⟨(joined front).toList ++ [' '], behind,
      List.forall_mem_append.mpr ⟨allBlank_joined.mpr hfront, List.forall_mem_singleton.mpr hspace⟩,
      hbehind, ?_⟩
    rw [toList_joined_append hne (List.cons_ne_nil a back), htext]
    simp

/-! ## Runs -/

/-- The arguments that have anything but blanks in them. -/
def telling (arguments : List String) : List String :=
  arguments.filter fun a => ¬AllBlank a.toList

theorem telling_eq_nil_iff {arguments : List String} :
    telling arguments = [] ↔ ∀ a ∈ arguments, AllBlank a.toList := by
  simp [telling, List.filter_eq_nil_iff]

theorem telling_eq_cons_iff {arguments rest : List String} {a : String} :
    telling arguments = a :: rest ↔
      ∃ front back, arguments = front ++ a :: back ∧ (∀ b ∈ front, AllBlank b.toList) ∧
        ¬AllBlank a.toList ∧ telling back = rest := by
  simp [telling, List.filter_eq_cons_iff]

/-- The text of the arguments is rejected for the reason, and the run echoes it and exits with 1,
whatever its input is and whatever words it may draw. -/
def FailsFor (arguments : List String) (reason : Reason) : Prop :=
  RejectedFor (joined arguments) reason ∧
    ∀ input words, ∃ o, run arguments input words = some o ∧ o.exit = 1 ∧
      o.output = "Input: " ++ joined arguments ++ "\n"

theorem failsFor_iff {arguments : List String} (hne : arguments ≠ []) {reason : Reason} :
    FailsFor arguments reason ↔ RejectedFor (joined arguments) reason := by
  refine ⟨fun h => h.1, fun h => ⟨h, fun input words => ?_⟩⟩
  obtain ⟨r, hr, -⟩ := h
  exact ⟨_, (run_arguments hne input words).trans (answer_of_error hr words), rfl, rfl⟩

/-- Spaces between arguments that say something come to stand inside the text. -/
theorem space_mem_trim_joined {arguments rest : List String} {a b : String}
    (h : telling arguments = a :: b :: rest) : ' ' ∈ trim (joined arguments).toList := by
  obtain ⟨front, back, rfl, -, ha, hback⟩ := telling_eq_cons_iff.mp h
  have hne : back ≠ [] := by
    rintro rfl
    contradiction
  have hahead : ¬AllBlank (joined (front ++ [a])).toList :=
    fun hblank => ha (allBlank_joined.mp hblank a (by simp))
  have hbehind : ¬AllBlank (joined back).toList := by
    rw [allBlank_joined, ← telling_eq_nil_iff, hback]
    exact List.cons_ne_nil b rest
  rw [List.append_cons, toList_joined_append (by simp) hne]
  exact mem_trim_append hahead hbehind ' '

/-- **An expression is read from one argument or not at all.**  Arguments of nothing but blanks are
empty.  If a single argument has anything else in it, the run reads what it would read from this one
alone, or fails for the same reason.  If two or more have, they are invalid together, even if each
is an expression or they would make one up. -/
theorem run_of_split {arguments : List String} (hne : arguments ≠ []) :
    (telling arguments = [] → FailsFor arguments .empty) ∧
    (∀ a, telling arguments = [a] →
      (∀ d, parse (joined arguments) = .ok d ↔ parse a = .ok d) ∧
      ∀ reason, FailsFor arguments reason ↔ RejectedFor a reason) ∧
    (2 ≤ (telling arguments).length → FailsFor arguments .invalid) := by
  simp only [failsFor_iff hne]
  refine ⟨fun h => ?_, fun a h => ?_, fun h => ?_⟩
  · exact ⟨_, parse_of_allBlank (allBlank_joined.mpr (telling_eq_nil_iff.mp h)), rfl⟩
  · obtain ⟨front, back, rfl, hfront, ha, hback⟩ := telling_eq_cons_iff.mp h
    obtain ⟨ahead, behind, hahead, hbehind, htext⟩ :=
      exists_joined_around a hfront (telling_eq_nil_iff.mp hback)
    refine parse_iff_of_trim_eq ha ?_
    rw [htext, trim_append hahead ha hbehind]
  · match htelling : telling arguments with
    | a :: b :: rest =>
      exact rejectedFor_invalid_of_blank_mem_trim (space_mem_trim_joined htelling) (by decide)
    | [] | [_] =>
      rw [htelling] at h
      contradiction

/-- Arguments of blanks are empty; blank arguments around an expression do not matter; and two
parts that make up an expression when they stand together are invalid apart. -/
theorem run_of_split_of_two_parts :
    FailsFor ["", "\u3000"] .empty ∧
      parse (joined ["", "2D6+3\t", " "]) = .ok ⟨2, 6, 3, none⟩ ∧
      FailsFor ["\n", "2d0"] .sidesTooLow ∧
      FailsFor ["2d6", "", "+3"] .invalid := by
  have hparse : parse "2D6+3\t" = .ok ⟨2, 6, 3, none⟩ := by rfl
  have hreject : RejectedFor "2d0" .sidesTooLow := ⟨⟨"2d0", .sidesTooLow, ⟨2, 3⟩⟩, by rfl, rfl⟩
  obtain ⟨hempty, -, -⟩ := run_of_split (List.cons_ne_nil _ _ : ["", "\u3000"] ≠ [])
  obtain ⟨-, hone, -⟩ := run_of_split (List.cons_ne_nil _ _ : ["", "2D6+3\t", " "] ≠ [])
  obtain ⟨-, hone', -⟩ := run_of_split (List.cons_ne_nil _ _ : ["\n", "2d0"] ≠ [])
  obtain ⟨-, -, htwo⟩ := run_of_split (List.cons_ne_nil _ _ : ["2d6", "", "+3"] ≠ [])
  exact ⟨hempty (by decide), ((hone _ (by decide)).1 _).mpr hparse,
    ((hone' _ (by decide)).2 _).mpr hreject, htwo (by decide)⟩

end CommandLine
end TabletopDice
