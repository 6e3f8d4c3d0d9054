import TabletopDice.CommandLine
import TabletopDice.Proofs.Rollers

/-! # What a run depends on

A run answers one text, joined from its arguments or decoded from the first line of
its input.  Either way it comes to the same, but for the prompt, and what stands
behind the first line is not looked at.  Chance decides what a run reports and how
many words it takes, but never its exit code, and so not whether it complains
(`run_complains_iff`).
-/
namespace TabletopDice
namespace CommandLine

/-! ## The first line -/

/-- The first line of an input.  It ends with the input or in front of the first newline, and a
carriage return in front of this newline belongs to the line end, but not one at the end of the
input. -/
inductive FirstLine : List UInt8 → List UInt8 → Prop
  | whole {line : List UInt8} (h : 10 ∉ line) : FirstLine line line
  | newline {line rest : List UInt8} (h : 10 ∉ line) (hlast : line.getLast? ≠ some 13) :
    FirstLine (line ++ 10 :: rest) line
  | returnNewline {line rest : List UInt8} (h : 10 ∉ line) :
    FirstLine (line ++ 13 :: 10 :: rest) line

theorem takeWhile_line {line rest : List UInt8} (h : 10 ∉ line)
    (hrest : ∀ byte ∈ rest.head?, byte = 10) : (line ++ rest).takeWhile (· ≠ 10) = line :=
  takeWhile_run (fun _ hbyte => decide_eq_true fun heq => h (heq ▸ hbyte))
    (fun byte hbyte => decide_eq_false fun hne => hne (hrest byte hbyte))

theorem firstLine_of_notMem {line : List UInt8} (h : 10 ∉ line) : firstLine line = line := by
  have hline : (line ++ []).takeWhile (· ≠ 10) = line := takeWhile_line h nofun
  rw [List.append_nil] at hline
  simp only [firstLine, List.contains_iff_mem, if_neg h, hline]

theorem firstLine_append {front : List UInt8} (h : 10 ∉ front) (rest : List UInt8) :
    firstLine (front ++ 10 :: rest) = withoutReturn front := by
  have hfront : (front ++ 10 :: rest).takeWhile (· ≠ 10) = front :=
    takeWhile_line h fun _ hbyte => (Option.some.inj hbyte).symm
  have hnewline : 10 ∈ front ++ 10 :: rest := List.mem_append_right _ List.mem_cons_self
  simp only [firstLine, List.contains_iff_mem, if_pos hnewline, hfront]

theorem withoutReturn_append (line : List UInt8) : withoutReturn (line ++ [13]) = line := by
  simp [withoutReturn]

theorem firstLine_eq_iff {input line : List UInt8} :
    firstLine input = line ↔ FirstLine input line := by
  constructor
  · rintro rfl
    by_cases hnewline : 10 ∈ input
    · obtain ⟨front, rest, rfl, hfront⟩ := List.eq_append_cons_of_mem hnewline
      rw [firstLine_append hfront]
      by_cases hlast : front.getLast? = some 13
      · obtain ⟨line, rfl⟩ := List.getLast?_eq_some_iff.mp hlast
        rw [withoutReturn_append, List.append_assoc]
        exact .returnNewline fun hline => hfront (List.mem_append_left _ hline)
      · rw [withoutReturn, if_neg hlast]
        exact .newline hfront hlast
    · rw [firstLine_of_notMem hnewline]
      exact .whole hnewline
  · intro h
    cases h with
    | whole hline => exact firstLine_of_notMem hline
    | newline hline hlast => rw [firstLine_append hline, withoutReturn, if_neg hlast]
    | returnNewline hline =>
      have hfront : 10 ∉ line ++ [13] := by simp [hline]
      rw [List.append_cons, firstLine_append hfront, withoutReturn_append]

/-! ## UTF-8 -/

/-- The bytes of a text. -/
def encode (text : String) : List UInt8 := text.toByteArray.data.toList

/-- Bytes are decoded to the text that they are the bytes of. -/
theorem decode?_eq_some_iff {bytes : List UInt8} {text : String} :
    decode? bytes = some text ↔ bytes = encode text := by
  constructor
  · intro h
    rw [decode?, String.fromUTF8?] at h
    split at h
    · cases h
      rfl
    · contradiction
  · rintro rfl
    rw [decode?, String.fromUTF8?]
    exact dif_pos text.isValidUTF8

theorem decode?_eq_none_iff {bytes : List UInt8} :
    decode? bytes = none ↔ ∀ text, bytes ≠ encode text := by
  rw [Option.eq_none_iff_forall_ne_some]
  exact forall_congr' fun text => not_congr decode?_eq_some_iff

/-! ## Runs -/

theorem answer_of_error {text : String} {r : Rejection} (h : parse text = .error r)
    (words : List UInt64) :
    answer text words = some ⟨1, "Input: " ++ text ++ "\n", toString r ++ "\n"⟩ := by
  simp only [answer, h]

theorem answer_of_ok {text : String} {d : Dice} (h : parse text = .ok d) (words : List UInt64) :
    answer text words =
      (execute d words).map fun r => ⟨0, "Input: " ++ text ++ "\n" ++ report d r, ""⟩ := by
  simp only [answer, h]

theorem run_arguments {arguments : List String} (h : arguments ≠ []) (input : List UInt8)
    (words : List UInt64) :
    run arguments input words = answer (" ".intercalate arguments) words := by
  rw [run, List.isEmpty_eq_false_iff.mpr h]
  rfl

/-- Of the input, a run takes notice of the first line alone.  Behind the prompt it comes to what
comes of arguments with the same text, or to nothing if the line is no text. -/
theorem run_input_eq {input line : List UInt8} (h : FirstLine input line) (words : List UInt64) :
    run [] input words =
      match decode? line with
      | none => some ⟨1, prompt, "Unable to read input: not UTF-8\n"⟩
      | some text => (answer text words).map fun o => { o with output := prompt ++ o.output } := by
  show (answerInput input words).map _ = _
  rw [answerInput, firstLine_eq_iff.mpr h]
  cases decode? line with
  | none => rfl
  | some text => rfl

theorem run_input_of_text {input : List UInt8} {text : String} (h : FirstLine input (encode text))
    (words : List UInt64) :
    run [] input words =
      (answer text words).map fun o => { o with output := prompt ++ o.output } := by
  rw [run_input_eq h, decode?_eq_some_iff.mpr rfl]

theorem run_input_of_no_text {input line : List UInt8} (h : FirstLine input line)
    (hline : ∀ text, line ≠ encode text) (words : List UInt64) :
    run [] input words = some ⟨1, prompt, "Unable to read input: not UTF-8\n"⟩ := by
  rw [run_input_eq h, decode?_eq_none_iff.mpr hline]

/-! ## Exit codes -/

/-- Whatever words have been drawn, there are further ones with which the attempt succeeds, and
whenever it does so, it is with this exit code. -/
structure ExitsWith (attempt : List UInt64 → Option Outcome) (code : UInt32) : Prop where
  ends : ∀ words, ∃ more o, attempt (words ++ more) = some o
  exit : ∀ words o, attempt words = some o → o.exit = code

/-- An attempt that needs no word exits with the code of its outcome. -/
theorem ExitsWith.of_forall {attempt : List UInt64 → Option Outcome} {o : Outcome}
    (h : ∀ words, attempt words = some o) : ExitsWith attempt o.exit := by
  refine ⟨fun words => ⟨[], o, h _⟩, fun words o' ho' => ?_⟩
  rw [h words] at ho'
  cases ho'
  rfl

/-- What is written does not change the exit code. -/
theorem ExitsWith.map {attempt : List UInt64 → Option Outcome} {code : UInt32}
    (h : ExitsWith attempt code) {f : Outcome → Outcome} (hf : ∀ o, (f o).exit = o.exit) :
    ExitsWith (fun words => (attempt words).map f) code := by
  refine ⟨fun words => ?_, fun words o' ho' => ?_⟩
  · obtain ⟨more, o, ho⟩ := h.ends words
    exact ⟨more, f o, Option.map_eq_some_iff.mpr ⟨o, ho, rfl⟩⟩
  · obtain ⟨o, ho, rfl⟩ := Option.map_eq_some_iff.mp ho'
    rw [hf]
    exact h.exit words o ho

/-- Chance has no say in the exit code: a text that is read as dice is answered with 0, another
one with 1. -/
theorem exitsWith_answer (text : String) :
    ExitsWith (answer text) (match parse text with | .ok _ => 0 | .error _ => 1) := by
  cases hparse : parse text with
  | error r => exact .of_forall (answer_of_error hparse)
  | ok d =>
    refine ⟨fun words => ?_, fun words o ho => ?_⟩
    · obtain ⟨more, r, hr⟩ := Roller.exists_execute_append d words
      exact ⟨more, _, by rw [answer_of_ok hparse, hr]; rfl⟩
    · rw [answer_of_ok hparse] at ho
      obtain ⟨r, -, rfl⟩ := Option.map_eq_some_iff.mp ho
      rfl

theorem exists_exitsWith_input {input line : List UInt8} (h : FirstLine input line) :
    ∃ code, ExitsWith (run [] input) code := by
  cases hline : decode? line with
  | none => exact ⟨_, .of_forall (run_input_of_no_text h (decode?_eq_none_iff.mp hline))⟩
  | some text =>
    cases decode?_eq_some_iff.mp hline
    rw [funext (run_input_of_text h)]
    exact ⟨_, (exitsWith_answer text).map fun _ => rfl⟩

theorem answer_complains_iff {text : String} {words : List UInt64} {o : Outcome}
    (h : answer text words = some o) : o.complaint ≠ "" ↔ o.exit ≠ 0 := by
  cases hparse : parse text with
  | error r =>
    rw [answer_of_error hparse] at h
    cases h
    have hcomplaint : toString r ++ "\n" ≠ "" := fun hempty => by simp at hempty
    have hexit : (1 : UInt32) ≠ 0 := by decide
    exact iff_of_true hcomplaint hexit
  | ok d =>
    rw [answer_of_ok hparse] at h
    obtain ⟨r, -, rfl⟩ := Option.map_eq_some_iff.mp h
    exact iff_of_false (fun hne => hne rfl) (fun hne => hne rfl)

/-- A run complains exactly if it does not exit with 0. -/
theorem run_complains_iff {arguments : List String} {input : List UInt8} {words : List UInt64}
    {o : Outcome} (h : run arguments input words = some o) : o.complaint ≠ "" ↔ o.exit ≠ 0 := by
  by_cases hnil : arguments = []
  · subst hnil
    rw [run_input_eq (firstLine_eq_iff.mp rfl)] at h
    cases hline : decode? (firstLine input) with
    | none =>
      rw [hline] at h
      cases h
      exact iff_of_true (by decide) (by decide)
    | some text =>
      rw [hline] at h
      obtain ⟨answered, hanswer, rfl⟩ := Option.map_eq_some_iff.mp h
      -- the prompt changes neither of the two
      have hcomplains : answered.complaint ≠ "" ↔ answered.exit ≠ 0 := answer_complains_iff hanswer
      exact hcomplains
  · rw [run_arguments hnil] at h
    exact answer_complains_iff h

/-- What a text comes to if nothing is left to chance. -/
theorem exists_answer_of_one_sided {text : String} (h : ∀ d, parse text = .ok d → d.sides = 1) :
    ∃ o : Outcome, (∀ words, answer text words = some o) ∧
      (o.exit = 0 ↔ ∃ d, parse text = .ok d) ∧
      (o.exit ≠ 0 → o.output = "Input: " ++ text ++ "\n") := by
  cases hparse : parse text with
  | error r => exact ⟨_, answer_of_error hparse, ⟨nofun, nofun⟩, fun _ => rfl⟩
  | ok d =>
    have hfew : d.sides ≤ 1 := by rw [h d hparse]; decide
    have hanswer : ∀ words, answer text words = some ⟨0, "Input: " ++ text ++ "\n" ++
        report d (.ofValues d (List.replicate d.count.toNat d.sides)), ""⟩ := by
      intro words
      rw [answer_of_ok hparse, execute, Roller.roll_words_of_le_one hfew]
      rfl
    exact ⟨_, hanswer, ⟨fun _ => ⟨d, rfl⟩, fun _ => rfl⟩, fun hne => absurd rfl hne⟩

/-- **A run comes to the same from arguments and from its input, and only the first line of the
input counts.**  If nothing is left to chance, a first line has the outcome of arguments with the
same text, the prompt in front of its output; the exit code is 0 iff the text is read as dice, and
otherwise nothing is written but the text.  What follows the first newline makes no difference to
the outcome for the words that are drawn, nor to the exit code whatever words are drawn.  A first
line that is not UTF-8 has exit code 1, and nothing but the prompt is written. -/
theorem run_of_firstLine :
    (∀ (arguments : List String) (ignored input : List UInt8), arguments ≠ [] →
      FirstLine input (encode (" ".intercalate arguments)) →
      (∀ d, parse (" ".intercalate arguments) = .ok d → d.sides = 1) →
      ∃ o : Outcome, (∀ words, run arguments ignored words = some o) ∧
        (∀ words, run [] input words =
          some { o with output := "Enter dice expression: " ++ o.output }) ∧
        (o.exit = 0 ↔ ∃ d, parse (" ".intercalate arguments) = .ok d) ∧
        (o.exit ≠ 0 → o.output = "Input: " ++ " ".intercalate arguments ++ "\n")) ∧
    (∀ line rest rest' : List UInt8, 10 ∉ line →
      (∀ words, run [] (line ++ 10 :: rest) words = run [] (line ++ 10 :: rest') words) ∧
      ∃ code, ExitsWith (run [] (line ++ 10 :: rest)) code ∧
        ExitsWith (run [] (line ++ 10 :: rest')) code) ∧
    ∀ input line : List UInt8, FirstLine input line → (∀ text, line ≠ encode text) →
      ∃ o : Outcome, (∀ words, run [] input words = some o) ∧ o.exit = 1 ∧
        o.output = "Enter dice expression: " := by
  refine ⟨fun arguments ignored input hne hline hchance => ?_, fun line rest rest' hline => ?_,
    fun input line hline hbytes => ⟨_, run_input_of_no_text hline hbytes, rfl, rfl⟩⟩
  · obtain ⟨o, ho, hexit, houtput⟩ := exists_answer_of_one_sided hchance
    refine ⟨o, fun words => ?_, fun words => ?_, hexit, houtput⟩
    · rw [run_arguments hne, ho]
    · rw [run_input_of_text hline, ho]
      rfl
  · have hfirst := firstLine_eq_iff.mp (firstLine_append hline rest)
    have hsame : run [] (line ++ 10 :: rest) = run [] (line ++ 10 :: rest') := by
      funext words
      rw [run_input_eq hfirst, run_input_eq (firstLine_eq_iff.mp (firstLine_append hline rest'))]
    obtain ⟨code, hcode⟩ := exists_exitsWith_input hfirst
    exact ⟨congrFun hsame, code, hcode, hsame ▸ hcode⟩

/-- The first argument is empty.  The same text ends with a carriage return and a newline in the
input, and bytes that are not UTF-8 come behind it. -/
theorem run_of_firstLine_of_one_die :
    (∃ o : Outcome, (∀ words, run ["", "1d1"] [] words = some o) ∧
      (∀ words, run [] (encode " 1d1" ++ 13 :: 10 :: [0xC3, 10]) words =
        some { o with output := "Enter dice expression: " ++ o.output }) ∧ o.exit = 0) ∧
    (∃ code, ExitsWith (run [] (encode "2d20\r" ++ 10 :: [0xC3])) code ∧
      ExitsWith (run [] (encode "2d20\r" ++ 10 :: [])) code) ∧
    ∃ o : Outcome, (∀ words, run [] [0xC3, 10] words = some o) ∧ o.exit = 1 ∧
      o.output = "Enter dice expression: " := by
  obtain ⟨hsame, hrest, hbytes⟩ := run_of_firstLine
  have hparse : parse " 1d1" = .ok ⟨1, 1, 0, none⟩ := by rfl
  refine ⟨?_, (hrest (encode "2d20\r") [0xC3] [] (by decide +kernel)).2, ?_⟩
  · have hline : FirstLine (encode " 1d1" ++ 13 :: 10 :: [0xC3, 10])
        (encode (" ".intercalate ["", "1d1"])) := .returnNewline (by decide +kernel)
    obtain ⟨o, harguments, hinput, hexit, -⟩ := hsame ["", "1d1"] [] _ (by decide) hline
      fun d hd => by
        cases hparse.symm.trans hd
        rfl
    exact ⟨o, harguments, hinput, hexit.mpr ⟨_, hparse⟩⟩
  · have hdecode : decode? [0xC3] = none := by rfl
    have hline : FirstLine ([0xC3] ++ 10 :: []) [0xC3] := .newline (by decide) (by decide)
    exact hbytes _ _ hline (decode?_eq_none_iff.mp hdecode)

end CommandLine
end TabletopDice
