import TabletopDice.Proofs.JsonForms
import TabletopDice.Proofs.Rollers

/-! # Rolls made again

Whatever rolled the dice, the record of the roll is a function of the dice and the
raw values, and it holds both.  So the record can be made again: from these
values, by rolling the same dice with them, and from its JSON text.  Nothing is
asked of the dice here, which may have no sides, or a selection of more dice than
there are.
-/
namespace TabletopDice
namespace Roll

/-- The roll is made again from its dice and these values, and they are all that its dice take. -/
structure Replays (r : Roll) (vals : List UInt16) : Prop where
  made : ofValues r.dice vals = r
  rolled : (Roller.roll r.dice (Recorded.mk vals)).1 = some r
  usedUp : (Roller.roll r.dice (Recorded.mk vals)).2.remaining = []

/-- As many values as there are dice make a roll that they replay. -/
theorem replays_ofValues {d : Dice} {vals : List UInt16} (h : vals.length = d.count.toNat) :
    (ofValues d vals).Replays vals := by
  obtain ⟨hvals, hleft⟩ := (Recorded.mk vals).rollValues_eq d.sides d.count.toNat
  have htake : vals.take d.count.toNat = vals := List.take_of_length_le (Nat.le_of_eq h)
  have hdrop : vals.drop d.count.toNat = [] := List.drop_eq_nil_of_le (Nat.le_of_eq h)
  have henough : ¬(Recorded.mk vals).remaining.length < d.count.toNat :=
    Nat.not_lt.mpr (Nat.le_of_eq h.symm)
  refine ⟨rfl, ?_, ?_⟩
  · show (Roller.roll d (Recorded.mk vals)).1 = some (ofValues d vals)
    rw [Roller.roll_eq, hvals, if_neg henough]
    exact congrArg (fun vals => some (ofValues d vals)) htake
  · show (Roller.roll d (Recorded.mk vals)).2.remaining = []
    rw [Roller.roll_eq, hleft]
    exact hdrop

end Roll

/-- **Every roll can be replayed.**  Any dice that are rolled, in any way, leave a record of these
dice and of the values that came up; the record is made again from those values, by rolling the
dice with them, and so is the record that is read back from JSON.  A seeded generator, a fixed value
and the best face roll any dice; recorded values and random words do if there are enough of them. -/
theorem replays_of_roll (d : Dice) :
    (∀ (σ : Type) [Roller σ] (s s' : σ) (r : Roll), Roller.roll d s = (some r, s') →
      r.dice = d ∧ Roller.rollValues d.sides d.count.toNat s = (some r.vals, s') ∧
        r.Replays r.vals ∧
        ∃ r' : Roll, ofJsonText? (toJsonText r) = some r' ∧ r'.Replays r.vals) ∧
    (∀ g : WyRand, ∃ r g', Roller.roll d g = (some r, g')) ∧
    (∀ s : Fixed, ∃ r s', Roller.roll d s = (some r, s')) ∧
    (∀ s : Best, ∃ r s', Roller.roll d s = (some r, s')) ∧
    (∀ s : Recorded, d.count.toNat ≤ s.remaining.length →
      ∃ r s', Roller.roll d s = (some r, s')) ∧
    ∀ words, d.count.toNat ≤ words.countP (fun word => (face? d.sides word).isSome) →
      ∃ r s', Roller.roll d (Words.mk words) = (some r, s') := by
  refine ⟨fun σ _ s s' r h => ?_, fun g => ?_, fun s => ?_, fun s => ?_, fun s henough => ?_,
    fun words henough => ?_⟩
  · obtain ⟨vals, hvals, rfl⟩ := Roller.roll_eq_some_iff_exists.mp h
    have hlength : vals.length = d.count.toNat :=
      (Roller.rollValues_induct (P := fun _ => True) (fun _ _ _ => trivial) (by rw [hvals])).1
    have hreplays := Roll.replays_ofValues hlength
    rw [Roll.vals_ofValues]
    exact ⟨rfl, hvals, hreplays, _, ofJsonText?_toJsonText _, hreplays⟩
  · exact Roller.exists_roll (Roller.exists_rollValues_wyRand d.sides d.count.toNat g)
  · exact ⟨_, _, Roller.roll_fixed d s⟩
  · exact ⟨_, _, Roller.roll_best d s⟩
  · obtain ⟨hvals, -⟩ := s.rollValues_eq d.sides d.count.toNat
    rw [if_neg (Nat.not_lt.mpr henough)] at hvals
    exact Roller.exists_roll ⟨_, _, Prod.ext hvals rfl⟩
  · exact Roller.exists_roll (Roller.exists_rollValues_words henough)

/-- The selection drops more dice than there are.  One of the recorded values was taken out before
the roll and one is left over; the first of the words is rejected. -/
theorem replays_of_roll_without_kept_dice :
    (∃ r, Roller.roll ⟨3, 6, -2, some ⟨.drop, .highest, 200⟩⟩ (Recorded.ahead 3 [1, 5, 9]) =
        (some r, Recorded.mk [9]) ∧
      r.Replays [3, 1, 5] ∧ ∃ r' : Roll, ofJsonText? (toJsonText r) = some r' ∧
        r'.Replays [3, 1, 5]) ∧
    (∃ r s', Roller.roll ⟨3, 6, -2, some ⟨.drop, .highest, 200⟩⟩ (Recorded.ahead 3 [1, 5, 9]) =
      (some r, s')) ∧
    ∃ r s', Roller.roll ⟨3, 6, -2, some ⟨.drop, .highest, 200⟩⟩
        (Words.mk [0xFFFFFFFFFFFFFFFF, 2, 0, 4]) = (some r, s') ∧ r.Replays r.vals := by
  obtain ⟨hevery, -, -, -, hrecorded, hwords⟩ :=
    replays_of_roll ⟨3, 6, -2, some ⟨.drop, .highest, 200⟩⟩
  refine ⟨?_, hrecorded (Recorded.ahead 3 [1, 5, 9]) (by decide), ?_⟩
  · have hroll : Roller.roll ⟨3, 6, -2, some ⟨.drop, .highest, 200⟩⟩ (Recorded.ahead 3 [1, 5, 9]) =
        (some (.ofValues ⟨3, 6, -2, some ⟨.drop, .highest, 200⟩⟩ [3, 1, 5]), Recorded.mk [9]) := by
      rfl
    obtain ⟨-, -, hreplays, hjson⟩ := hevery _ _ _ _ hroll
    rw [Roll.vals_ofValues] at hreplays hjson
    exact ⟨_, hroll, hreplays, hjson⟩
  · obtain ⟨r, s', hroll⟩ := hwords [0xFFFFFFFFFFFFFFFF, 2, 0, 4] (by decide +kernel)
    exact ⟨r, s', hroll, (hevery _ _ _ _ hroll).2.2.1⟩

end TabletopDice
