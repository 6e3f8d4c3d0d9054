import TabletopDice.Proofs.Sessions

/-! # Rolls with the seeded generator

A die passes over rejected words without counting them, so it must be shown that
it comes up at all.  Every word brings the state of the generator one step closer
to zero, and the word of the state zero is accepted for every die; so the words
until then are a bound, whatever the state was before (`WyRand.exists_accepted`).

What is rolled with the generator is what is rolled with its words, no more of
them and no fewer (`WyRand.Draws`).  The words of several dice follow one another,
and the state grows by the stride with each of them (`WyRand.state_after`).
-/
namespace TabletopDice
namespace WyRand

/-! ## The words to come -/

/-- The generator `k` words further on. -/
def after (g : WyRand) (k : Nat) : WyRand := next^[k] g

/-- The next `k` words. -/
def words (g : WyRand) (k : Nat) : List UInt64 :=
  (List.range k).map fun j => (g.after (j + 1)).word

theorem after_succ (g : WyRand) (k : Nat) : g.after (k + 1) = g.next.after k :=
  Function.iterate_succ_apply next k g

theorem after_add (g : WyRand) (j k : Nat) : g.after (j + k) = (g.after j).after k := by
  rw [Nat.add_comm]
  exact Function.iterate_add_apply next k j g

theorem length_words (g : WyRand) (k : Nat) : (g.words k).length = k := by
  rw [words, List.length_map, List.length_range]

theorem words_add (g : WyRand) (j k : Nat) :
    g.words (j + k) = g.words j ++ (g.after j).words k := by
  rw [words, List.range_add, List.map_append, List.map_map]
  refine congrArg (g.words j ++ ·) (List.map_congr_left fun i _ => ?_)
  rw [Function.comp_apply, Nat.add_assoc, after_add]

theorem words_succ (g : WyRand) (k : Nat) :
    g.words (k + 1) = g.words k ++ [(g.after (k + 1)).word] := by
  rw [words, List.range_succ, List.map_append]
  rfl

theorem words_succ_eq_cons (g : WyRand) (k : Nat) :
    g.words (k + 1) = g.next.word :: g.next.words k := by
  rw [Nat.add_comm, words_add]
  rfl

theorem state_after (g : WyRand) (k : Nat) :
    (g.after k).state = g.state + UInt64.ofNat k * stride := by
  induction k with
  | zero =>
    have hzero : UInt64.ofNat 0 = 0 := rfl
    rw [hzero, UInt64.zero_mul, UInt64.add_zero, after, Function.iterate_zero_apply]
  | succ k ih =>
    have hnext : (g.after (k + 1)).state = (g.after k).state + stride :=
      congrArg state (Function.iterate_succ_apply' next k g)
    rw [hnext, ih, UInt64.ofNat_add, UInt64.add_mul, UInt64.ofNat_one, UInt64.one_mul,
      UInt64.add_assoc]

/-! ## One die -/

/-- Some words are rejected, and then one is accepted, no later than the word of the state zero. -/
theorem exists_accepted (sides : UInt16) (g : WyRand) :
    ∃ k face, k ≤ g.next.toZero.toNat ∧ (∀ word ∈ g.words k, face? sides word = none) ∧
      face? sides (g.after (k + 1)).word = some face ∧ g.face sides = (face, g.after (k + 1)) := by
  induction hn : g.next.toZero.toNat using Nat.strongRecOn generalizing g with
  | ind n ih =>
    cases hface : face? sides g.next.word with
    | some face => exact ⟨0, face, Nat.zero_le _, nofun, hface, face_of_accepted hface⟩
    | none =>
      -- a rejected word brings the generator closer to zero
      have hcloser := toZero_next_toNat (state_ne_zero_of_face?_eq_none hface)
      obtain ⟨k, face, hk, hrejected, haccepted, hdie⟩ := ih _ (by omega) g.next rfl
      refine ⟨k + 1, face, by omega, ?_, ?_, ?_⟩
      · rw [words_succ_eq_cons]
        exact List.forall_mem_cons.mpr ⟨hface, hrejected⟩
      · rw [after_succ]
        exact haccepted
      · rw [face_of_rejected hface, after_succ]
        exact hdie

/-- Played with the generator, or with its next `k` words and any others behind them, `play` gives
`a`, and it takes these `k` words and no other. -/
structure Draws {α : Type} (g : WyRand) (k : Nat) (play : (σ : Type) → [Roller σ] → σ → α × σ)
    (a : α) : Prop where
  state : play WyRand g = (a, g.after k)
  words : ∀ rest, play Words (Words.mk (g.words k ++ rest)) = (a, ⟨rest⟩)

variable {sides : UInt16} {g : WyRand}

theorem draws_die_of_le_one (hsides : sides ≤ 1) :
    g.Draws 0 (fun _ _ => Roller.rollDie sides) (some sides) where
  state := if_pos hsides
  words := Roller.rollDie_words_of_le_one hsides

/-- A die draws the words that it rejects and the one that it accepts. -/
theorem draws_die {k : Nat} {face : UInt16} (hsides : 2 ≤ sides.toNat)
    (hrejected : ∀ word ∈ g.words k, face? sides word = none)
    (haccepted : face? sides (g.after (k + 1)).word = some face)
    (hdie : g.face sides = (face, g.after (k + 1))) :
    g.Draws (k + 1) (fun _ _ => Roller.rollDie sides) (some face) where
  state := by
    refine (if_neg (two_le_toNat_iff.mp hsides)).trans ?_
    rw [hdie]
  words rest := by
    show Roller.rollDie sides (Words.mk (g.words (k + 1) ++ rest)) = _
    rw [Roller.rollDie_words hsides, words_succ, List.append_assoc, List.singleton_append,
      firstFace_append_cons hrejected haccepted]

theorem exists_draws_accepted (hsides : 2 ≤ sides.toNat) (g : WyRand) :
    ∃ k face, k + 1 ≤ 2 ^ 64 ∧ (∀ word ∈ g.words k, face? sides word = none) ∧
      face? sides (g.after (k + 1)).word = some face ∧
      g.Draws (k + 1) (fun _ _ => Roller.rollDie sides) (some face) := by
  obtain ⟨k, face, hk, hrejected, haccepted, hdie⟩ := exists_accepted sides g
  have hlt : g.next.toZero.toNat < 2 ^ 64 := UInt64.toNat_lt _
  exact ⟨k, face, by omega, hrejected, haccepted, draws_die hsides hrejected haccepted hdie⟩

theorem exists_draws_die (sides : UInt16) (g : WyRand) :
    ∃ k face, k ≤ 2 ^ 64 ∧ g.Draws k (fun _ _ => Roller.rollDie sides) (some face) := by
  by_cases hsides : sides ≤ 1
  · exact ⟨0, sides, Nat.zero_le _, draws_die_of_le_one hsides⟩
  · obtain ⟨k, face, hk, -, -, hdraws⟩ := exists_draws_accepted (two_le_toNat_iff.mpr hsides) g
    exact ⟨k + 1, face, hk, hdraws⟩

/-! ## Dice in turn -/

theorem exists_draws_values (sides : UInt16) (n : Nat) (g : WyRand) :
    ∃ k vals, k ≤ n * 2 ^ 64 ∧ g.Draws k (fun _ _ => Roller.rollValues sides n) (some vals) := by
  induction n generalizing g with
  | zero => exact ⟨0, [], Nat.zero_le _, rfl, fun _ => rfl⟩
  | succ n ih =>
    obtain ⟨j, face, hj, hdie⟩ := exists_draws_die sides g
    obtain ⟨k, vals, hk, hvals⟩ := ih (g.after j)
    refine ⟨j + k, face :: vals, ?_, ?_, fun rest => ?_⟩
    · rw [Nat.succ_mul]
      omega
    · rw [Roller.rollValues_succ_of_some hdie.state, hvals.state, after_add]
      rfl
    · rw [words_add, List.append_assoc, Roller.rollValues_succ_of_some (hdie.words _),
        hvals.words]
      rfl

theorem exists_draws_roll (d : Dice) (g : WyRand) :
    ∃ k r, k ≤ d.count.toNat * 2 ^ 64 ∧ g.Draws k (fun _ _ => Roller.roll d) (some r) := by
  obtain ⟨k, vals, hk, hvals⟩ := exists_draws_values d.sides d.count.toNat g
  refine ⟨k, Roll.ofValues d vals, hk, ?_, fun rest => ?_⟩
  · rw [Roller.roll_eq, hvals.state]
    rfl
  · rw [Roller.roll_eq, hvals.words]
    rfl

/-- Each step of a session gets its answer from the next words.  A rehearsal is an exception, since
its words are drawn again. -/
theorem exists_draws_step {x : Session.Step} (hx : ∀ order, x ≠ .rehearse order) (g : WyRand) :
    ∃ k answer, g.Draws k (fun _ _ s => Session.step s x) answer ∧ answer ≠ .exhausted := by
  cases x with
  | die sides =>
    obtain ⟨k, face, -, hdie⟩ := exists_draws_die sides g
    refine ⟨k, .die { val := face }, ⟨?_, fun rest => ?_⟩, by simp⟩
    · exact Session.step_die_of_some hdie.state
    · exact Session.step_die_of_some (hdie.words rest)
  | roll order =>
    cases horder : order.dice with
    | error rejection =>
      refine ⟨0, .rejected rejection, ⟨?_, fun rest => ?_⟩, by simp⟩
      · exact Session.fill_of_error horder g
      · exact Session.fill_of_error horder (Words.mk rest)
    | ok d =>
      obtain ⟨k, r, -, hroll⟩ := exists_draws_roll d g
      refine ⟨k, .roll r, ⟨?_, fun rest => ?_⟩, by simp⟩
      · exact Session.fill_of_roll horder hroll.state
      · exact Session.fill_of_roll horder (hroll.words rest)
  | rehearse order => exact absurd rfl (hx order)
  | ask => exact ⟨0, .canRoll true, ⟨rfl, fun _ => rfl⟩, by simp⟩

/-- A session draws the words for its steps one after the other. -/
theorem exists_draws_run {steps : List Session.Step}
    (hsteps : ∀ order, .rehearse order ∉ steps) (g : WyRand) :
    ∃ k answers, g.Draws k (fun _ _ s => Session.run s steps) answers ∧
      .exhausted ∉ answers := by
  induction steps generalizing g with
  | nil => exact ⟨0, [], ⟨rfl, fun _ => rfl⟩, List.not_mem_nil⟩
  | cons x steps ih =>
    have hx : ∀ order, x ≠ .rehearse order := by
      rintro order rfl
      exact hsteps order List.mem_cons_self
    obtain ⟨j, answer, hstep, hanswer⟩ := exists_draws_step hx g
    obtain ⟨k, answers, hrun, hanswers⟩ :=
      ih (fun order hmem => hsteps order (List.mem_cons_of_mem _ hmem)) (g.after j)
    refine ⟨j + k, answer :: answers, ⟨?_, fun rest => ?_⟩, ?_⟩
    · rw [Session.run_cons, hstep.state, hrun.state, after_add]
    · rw [Session.run_cons, words_add, List.append_assoc, hstep.words, hrun.words]
    · rw [List.mem_cons, not_or]
      exact ⟨hanswer.symm, hanswers⟩

/-- **Dice that are rolled with the generator always come up.**  Whatever its state, a die with two
or more sides rejects some words and accepts the next, which is one of the first `2 ^ 64`, and other
dice take no word.  So all dice are rolled, with no more than so many words for each of them, and a
session never runs out.  The state has grown by the stride for every word that was drawn. -/
theorem dice_come_up (g : WyRand) :
    (∀ sides : UInt16, 2 ≤ sides.toNat → ∃ k face, k + 1 ≤ 2 ^ 64 ∧
      (∀ word ∈ g.words k, face? sides word = none) ∧
      face? sides (g.after (k + 1)).word = some face ∧
      g.Draws (k + 1) (fun _ _ => Roller.rollDie sides) (some face)) ∧
    (∀ sides : UInt16, sides ≤ 1 → g.Draws 0 (fun _ _ => Roller.rollDie sides) (some sides)) ∧
    (∀ d : Dice, ∃ k r, k ≤ d.count.toNat * 2 ^ 64 ∧
      g.Draws k (fun _ _ => Roller.roll d) (some r)) ∧
    (∀ steps : List Session.Step, (∀ order, .rehearse order ∉ steps) →
      ∃ k answers, g.Draws k (fun _ _ s => Session.run s steps) answers ∧
        .exhausted ∉ answers) ∧
    ∀ k, (g.words k).length = k ∧
      (g.after k).state = g.state + UInt64.ofNat k * 0x2d358dccaa6c78a5 := by
  refine ⟨?_, ?_, ?_, ?_, ?_⟩
  · intro sides hsides
    exact exists_draws_accepted hsides g
  · intro sides hsides
    exact draws_die_of_le_one hsides
  · intro d
    exact exists_draws_roll d g
  · intro steps hsteps
    exact exists_draws_run hsteps g
  · intro k
    exact ⟨length_words g k, state_after g k⟩

/-- A die and four more in a session. -/
theorem dice_come_up_from_seed :
    2 ≤ (6 : UInt16).toNat ∧
      (∃ k face, k + 1 ≤ 2 ^ 64 ∧
        Draws ⟨0x750c38d574400⟩ (k + 1) (fun _ _ => Roller.rollDie 6) (some face)) ∧
      ∃ k answers, Draws ⟨0x750c38d574400⟩ k
        (fun _ _ s => Session.run s [.die 20, .roll (.ready { count := 4, sides := 6 })]) answers ∧
          .exhausted ∉ answers := by
  obtain ⟨hdie, -, -, hrun, -⟩ := dice_come_up ⟨0x750c38d574400⟩
  obtain ⟨k, face, hk, -, -, hdraws⟩ := hdie 6 (by decide)
  refine ⟨by decide, ⟨k, face, hk, hdraws⟩, hrun _ fun order => ?_⟩
  simp

end WyRand
end TabletopDice
