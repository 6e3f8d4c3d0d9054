import Mathlib.Data.Fin.VecNotation
import Mathlib.SetTheory.Cardinal.Finite
import TabletopDice.Proofs.Outcomes

/-! # What is left to chance

Dice draw a word each, and are fair if every word is as likely as any other: of
all the ways to draw the words, equally many lead to each combination of faces.
For one die the words are counted in `ncard_wordsFor`; the draws for a whole roll
are a product of such sets, because the dice do not share words (`rollsTo_iff`).

One-sided dice come to the same roll whatever words they are rolled with, and take
none of them.  Of dice with more sides each face comes up for some word, and if all
dice show the same face, the total tells which, since at least one of them counts.
So dice within the limits have one total only if they have one side.
-/
namespace TabletopDice

/-! ## Fair rolls -/

variable {n : Nat}

/-- The draws of a word for each of `n` dice. -/
theorem card_draws (n : Nat) : Nat.card (Fin n → UInt64) = (2 ^ 64) ^ n := by
  have e : UInt64 ≃ Fin (2 ^ 64) := ⟨UInt64.toFin, UInt64.ofFin, fun _ => rfl, fun _ => rfl⟩
  rw [Nat.card_fun, Nat.card_congr e, Nat.card_fin, Nat.card_fin]

theorem ncard_pi {α : Type} (t : Fin n → Set α) :
    (Set.pi Set.univ t).ncard = ∏ i, (t i).ncard := by
  rw [← Nat.card_coe_set_eq, Nat.card_congr (Equiv.Set.univPi t), Nat.card_pi]
  rfl

theorem forall₂_ofFn {α β : Type} {R : α → β → Prop} {f : Fin n → α} {g : Fin n → β} :
    List.Forall₂ R (List.ofFn f) (List.ofFn g) ↔ ∀ i, R (f i) (g i) := by
  rw [List.forall₂_iff_get]
  simp [Fin.forall_iff]

/-- The draws that lead to certain faces leave each die a word for its own face. -/
theorem setOf_rollsTo {d : Dice} (hsides : 2 ≤ d.sides.toNat)
    (faces : Fin d.count.toNat → UInt16) :
    {draws : Fin d.count.toNat → UInt64 | RollsTo d (List.ofFn draws) (List.ofFn faces)} =
      Set.pi Set.univ fun i => wordsFor d.sides (faces i) := by
  ext draws
  rw [Set.mem_ofPred_eq, rollsTo_iff hsides (List.length_ofFn), forall₂_ofFn, Set.mem_univ_pi]
  rfl

/-- **Rolls are fair.**  Whatever the number of sides, each combination of faces comes up for
equally many of the ways to draw a word for each die: as many as the number of sides goes into
`2 ^ 64`, to the power of the number of dice.  If the number of sides is a power of two, no word is
ever rejected. -/
theorem ncard_draws_of_faces (d : Dice) (hsides : 2 ≤ d.sides.toNat) :
    (∀ faces : Fin d.count.toNat → UInt16,
      (∀ i, 1 ≤ (faces i).toNat ∧ (faces i).toNat ≤ d.sides.toNat) →
        {draws : Fin d.count.toNat → UInt64 |
          RollsTo d (List.ofFn draws) (List.ofFn faces)}.ncard =
            (2 ^ 64 / d.sides.toNat) ^ d.count.toNat) ∧
      Nat.card (Fin d.count.toNat → UInt64) = (2 ^ 64) ^ d.count.toNat ∧
      ∀ m, d.sides.toNat = 2 ^ m → ∀ draws : Fin d.count.toNat → UInt64,
        ∃ faces : Fin d.count.toNat → UInt16,
          (∀ i, 1 ≤ (faces i).toNat ∧ (faces i).toNat ≤ d.sides.toNat) ∧
            RollsTo d (List.ofFn draws) (List.ofFn faces) := by
  have hone : 1 ≤ d.sides.toNat := Nat.le_of_succ_le hsides
  refine ⟨fun faces hfaces => ?_, card_draws _, fun m hm draws => ?_⟩
  · have hshare : ∀ i, (wordsFor d.sides (faces i)).ncard = 2 ^ 64 / d.sides.toNat :=
      fun i => ncard_wordsFor hone (hfaces i)
    rw [setOf_rollsTo hsides, ncard_pi]
    simp only [hshare, Finset.prod_const, Finset.card_univ, Fintype.card_fin]
  · choose faces hface hrange using fun i => exists_face_of_pow_two hm (draws i)
    refine ⟨faces, hrange, ?_⟩
    rw [rollsTo_iff hsides (List.length_ofFn), forall₂_ofFn]
    exact hface

/-- There are `281479271743489` words for each face of a die with `65535` sides, and one word is
rejected. -/
theorem ncard_draws_of_faces_of_largest_dice :
    {draws : Fin 3 → UInt64 |
      RollsTo { count := 3, sides := 65535 } (List.ofFn draws) [1, 65535, 7]}.ncard =
        281479271743489 ^ 3 := by
  exact (ncard_draws_of_faces { count := 3, sides := 65535 } (by decide)).1 ![1, 65535, 7]
    (by decide)

/-! ## Dice with one total -/

/-- Whatever words the dice are rolled with, they come to the same total, if the words suffice.  A
roll that comes to an end has taken finitely many words, so lists stand for any supply of them. -/
def Dice.HasOneTotal (d : Dice) : Prop :=
  ∀ words words' r r', execute d words = some r → execute d words' = some r' → r.total = r'.total

/-- Each face of a die comes up for some word. -/
theorem exists_face?_eq_some {sides face : UInt16}
    (hface : 1 ≤ face.toNat ∧ face.toNat ≤ sides.toNat) :
    ∃ word, face? sides word = some face := by
  have hsides : 1 ≤ sides.toNat := Nat.le_trans hface.1 hface.2
  have hcard : (wordsFor sides face).ncard ≠ 0 := by
    rw [ncard_wordsFor hsides hface]
    exact (Nat.div_pos (Nat.le_of_lt (Nat.lt_trans sides.toNat_lt (by decide))) hsides).ne'
  exact Set.nonempty_of_ncard_ne_zero hcard

namespace Roller

/-- Where the same accepted word comes again and again, all dice show its face. -/
theorem rollValues_replicate {sides face : UInt16} (hsides : 2 ≤ sides.toNat) {word : UInt64}
    (h : face? sides word = some face) (n : Nat) :
    rollValues sides n (Words.mk (List.replicate n word)) =
      (some (List.replicate n face), Words.mk []) := by
  induction n with
  | zero => rfl
  | succ n ih =>
    rw [List.replicate_succ, rollValues_succ_of_eq_some hsides h, ih]
    rfl

end Roller

namespace Dice

variable {d : Dice}

/-- Dice with two or more sides can all show the same face, whichever it is. -/
theorem exists_execute_replicate (hsides : 2 ≤ d.sides.toNat) (face : UInt16)
    (hface : 1 ≤ face.toNat ∧ face.toNat ≤ d.sides.toNat) :
    ∃ words, execute d words = some (Roll.ofValues d (List.replicate d.count.toNat face)) := by
  obtain ⟨word, hword⟩ := exists_face?_eq_some hface
  refine ⟨List.replicate d.count.toNat word, ?_⟩
  rw [execute, Roller.roll_eq, Roller.rollValues_replicate hsides hword]
  rfl

/-- One-sided dice all show a 1, and no word is taken for that. -/
theorem roll_of_isDeterministic (h : d.isDeterministic = true) (words : List UInt64) :
    Roller.roll d (Words.mk words) =
      (some (Roll.ofValues d (List.replicate d.count.toNat 1)), Words.mk words) := by
  have hone : d.sides = 1 := of_decide_eq_true h
  have hroll := Roller.roll_words_of_le_one (d := d) (hone ▸ UInt16.le_refl 1) words
  rw [hone] at hroll
  exact hroll

/-- Dice within the limits that have one total have one side. -/
theorem isDeterministic_of_hasOneTotal (hd : d.Legal) (h : d.HasOneTotal) :
    d.isDeterministic = true := by
  by_contra hmore
  have hsides : 2 ≤ d.sides.toNat := by
    have hone : d.sides.toNat ≠ 1 := fun hone =>
      hmore (decide_eq_true (UInt16.toNat_inj.mp hone))
    have hpos := hd.sides.1
    omega
  obtain ⟨words, hleast⟩ := exists_execute_replicate hsides 1 ⟨by decide, hd.sides.1⟩
  obtain ⟨words', hnext⟩ := exists_execute_replicate hsides 2 ⟨by decide, hsides⟩
  have hsame := congrArg Int64.toInt (h _ _ _ _ hleast hnext)
  rw [Roll.total_replicate hd, Roll.total_replicate hd] at hsame
  -- each of the dice that count adds one to the second total
  have htwo : (2 : UInt16).toNat = 2 := rfl
  have hpos := hd.keptCount_pos
  rw [UInt16.toNat_one, htwo] at hsame
  omega

end Dice

/-- **Dice that are read from notation leave nothing to chance iff they have one side.**  They are
said to do so iff they come to the same total with any two supplies of words.  If so, they come to
the very same roll with any words, and take none of them. -/
theorem isDeterministic_iff_of_parse_eq_ok {s : String} {d : Dice} (h : parse s = .ok d) :
    (d.isDeterministic = true ↔ d.HasOneTotal) ∧
      (d.isDeterministic = true →
        ∃ r, ∀ words, Roller.roll d (Words.mk words) = (some r, Words.mk words)) := by
  have hroll : d.isDeterministic = true →
      ∃ r, ∀ words, Roller.roll d (Words.mk words) = (some r, Words.mk words) :=
    fun hone => ⟨_, d.roll_of_isDeterministic hone⟩
  refine ⟨⟨fun hone words words' r r' hr hr' => ?_, fun htotal =>
    Dice.isDeterministic_of_hasOneTotal (legal_of_parse_eq_ok h) htotal⟩, hroll⟩
  obtain ⟨same, hsame⟩ := hroll hone
  rw [execute, hsame] at hr hr'
  cases hr
  cases hr'
  rfl

/-- Three one-sided dice of which two are kept come to one roll, and two coins do not have one
total. -/
theorem isDeterministic_iff_of_parse_eq_ok_of_three_dice :
    parse "3d1kh2-5" = .ok ⟨3, 1, -5, some ⟨.keep, .highest, 2⟩⟩ ∧
      (∃ r, ∀ words, Roller.roll ⟨3, 1, -5, some ⟨.keep, .highest, 2⟩⟩ (Words.mk words) =
        (some r, Words.mk words)) ∧
      parse "2d2dl1" = .ok ⟨2, 2, 0, some ⟨.drop, .lowest, 1⟩⟩ ∧
      ¬Dice.HasOneTotal ⟨2, 2, 0, some ⟨.drop, .lowest, 1⟩⟩ := by
  have hdice : parse "3d1kh2-5" = .ok ⟨3, 1, -5, some ⟨.keep, .highest, 2⟩⟩ := by rfl
  have hcoins : parse "2d2dl1" = .ok ⟨2, 2, 0, some ⟨.drop, .lowest, 1⟩⟩ := by rfl
  refine ⟨hdice, (isDeterministic_iff_of_parse_eq_ok hdice).2 rfl, hcoins, fun htotal => ?_⟩
  have hone := (isDeterministic_iff_of_parse_eq_ok hcoins).1.mpr htotal
  exact absurd hone (by decide)

end TabletopDice
