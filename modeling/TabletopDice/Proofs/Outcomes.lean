import TabletopDice.Proofs.Capacity
import TabletopDice.Proofs.Parsing

/-! # What dice come to

Dice within the limits always keep a die, and their sums stay far from the end of
a machine word.  So the outcome of a roll is known up to the faces: how many dice
there are and how many of them count, and between which totals the total lies.
`Roll.IsOutcomeOf` collects this, and `isOutcomeOf_of_parse_eq_ok` says it of all
dice that are read from notation.  The least and the greatest of these totals do
come up.
-/
namespace TabletopDice

/-- How many dice count: all of them, or those that are named to be kept, or all but those that
are named to be dropped. -/
def Dice.keptCount (d : Dice) : Nat :=
  match d.selection with
  | none => d.count.toNat
  | some ⟨.keep, _, number⟩ => number.toNat
  | some ⟨.drop, _, number⟩ => d.count.toNat - number.toNat

/-- The roll is one that the dice can come to. -/
structure Roll.IsOutcomeOf (r : Roll) (d : Dice) : Prop where
  dice : r.dice = d
  length_rolls : r.rolls.length = d.count.toNat
  /-- Every die shows one of its faces, whether or not it counts. -/
  faces : ∀ die ∈ r.rolls, 1 ≤ die.val.toNat ∧ die.val.toNat ≤ d.sides.toNat
  length_kept : r.kept.length = d.keptCount
  kept_pos : 1 ≤ d.keptCount
  /-- The subtotal has not been cut off. -/
  subtotal : r.subtotal.toNat = exactSum r.rolls
  modifier : r.modifier = d.modifier
  total : r.total.toInt = r.subtotal.toNat + r.modifier.toInt
  lower : d.keptCount + d.modifier.toInt ≤ r.total.toInt
  upper : r.total.toInt ≤ d.keptCount * d.sides.toNat + d.modifier.toInt

/-- At least one of the dice counts. -/
theorem Dice.Legal.keptCount_pos {d : Dice} (h : d.Legal) : 1 ≤ d.keptCount := by
  unfold keptCount
  split <;> rename_i hs
  · exact h.count.1
  · exact (h.selection _ hs).1
  · have hfits := (h.selection _ hs).2
    simp only at hfits
    omega

namespace Roll

variable {d : Dice} {vals : List UInt16}

/-- As many dice count as the dice say, since their selection fits. -/
theorem countP_kept_settle (hfits : ∀ s ∈ d.selection, s.Fits d.count)
    (hlength : vals.length = d.count.toNat) :
    (settle d.selection vals).countP Die.kept = d.keptCount := by
  have hfresh := Selection.kept_of_fresh vals
  unfold settle Dice.keptCount
  cases hs : d.selection with
  | none =>
    rw [List.countP_eq_length.mpr hfresh, List.length_map]
    exact hlength
  | some s =>
    obtain ⟨action, extreme, number⟩ := s
    have hcount := Selection.countP_kept_apply ⟨action, extreme, number⟩ hfresh
    have hfit := (hfits _ hs).2
    rw [List.length_map, hlength] at hcount
    cases action with
    | keep => exact hcount.trans (Nat.min_eq_left hfit)
    | drop => exact hcount

/-- The sums of legal dice are exact. -/
theorem subtotal_of_legal (hd : d.Legal) (hlength : vals.length = d.count.toNat) :
    (ofValues d vals).subtotal.toNat = exactSum (ofValues d vals).rolls := by
  refine toNat_sum_of_length_le (?_ : (settle d.selection vals).length ≤ 65537)
  have hcount := hd.count.2
  rw [length_settle, hlength]
  omega

/-- The bounds of its values bound the total of legal dice. -/
theorem total_bounds (hd : d.Legal) (hlength : vals.length = d.count.toNat) {lo hi : Nat}
    (hvals : ∀ val ∈ vals, lo ≤ val.toNat ∧ val.toNat ≤ hi) :
    d.keptCount * lo + d.modifier.toInt ≤ (ofValues d vals).total.toInt ∧
      (ofValues d vals).total.toInt ≤ d.keptCount * hi + d.modifier.toInt := by
  have hdice : ∀ die ∈ (ofValues d vals).rolls, lo ≤ die.val.toNat ∧ die.val.toNat ≤ hi :=
    fun die hdie => hvals die.val (val_mem_of_mem_rolls hdie)
  have hkept : (ofValues d vals).rolls.countP Die.kept = d.keptCount :=
    countP_kept_settle hd.selection hlength
  obtain ⟨hlo, hhi⟩ := exactSum_bounds hdice
  rw [hkept] at hlo hhi
  rw [toInt_total_of_exact (subtotal_of_legal hd hlength)]
  refine ⟨?_, ?_⟩
  · exact Int.add_le_add_right (by exact_mod_cast hlo) _
  · exact Int.add_le_add_right (by exact_mod_cast hhi) _

/-- Faces of legal dice make an outcome. -/
theorem isOutcomeOf_ofValues (hd : d.Legal) (hlength : vals.length = d.count.toNat)
    (hvals : ∀ val ∈ vals, 1 ≤ val.toNat ∧ val.toNat ≤ d.sides.toNat) :
    (ofValues d vals).IsOutcomeOf d := by
  obtain ⟨hlower, hupper⟩ := total_bounds hd hlength hvals
  rw [Nat.cast_one, Int.mul_one] at hlower
  exact ⟨rfl, (length_settle d.selection vals).trans hlength,
    fun die hdie => hvals die.val (val_mem_of_mem_rolls hdie),
    (length_kept _).trans (countP_kept_settle hd.selection hlength), hd.keptCount_pos,
    subtotal_of_legal hd hlength, rfl, toInt_total_ofValues d vals, hlower, hupper⟩

/-- Where all values are the same, the total is known. -/
theorem total_replicate (hd : d.Legal) (val : UInt16) :
    (ofValues d (List.replicate d.count.toNat val)).total.toInt =
      d.keptCount * val.toNat + d.modifier.toInt := by
  have hlength : (List.replicate d.count.toNat val).length = d.count.toNat := List.length_replicate
  have hkept := (length_kept (ofValues d (List.replicate d.count.toNat val))).trans
    (countP_kept_settle hd.selection hlength)
  rw [toInt_total_of_exact (subtotal_of_legal hd hlength), exactSum_replicate, hkept,
    Nat.cast_mul]

end Roll

/-- **Notation promises what a roll comes to.**  Whatever words dice are rolled with that were read
from notation, if the words suffice, the roll is an outcome of these dice.  The least total comes
up where every die shows 1, and the greatest where every die shows its last face. -/
theorem isOutcomeOf_of_parse_eq_ok {s : String} {d : Dice} (h : parse s = .ok d) :
    (∀ words r, execute d words = some r → r.IsOutcomeOf d) ∧
      (∃ r, (Roller.roll d (Fixed.mk 1)).1 = some r ∧
        r.total.toInt = d.keptCount + d.modifier.toInt) ∧
      ∃ r, (Roller.roll d Best.mk).1 = some r ∧
        r.total.toInt = d.keptCount * d.sides.toNat + d.modifier.toInt := by
  have hd := legal_of_parse_eq_ok h
  refine ⟨fun words r hr => ?_, ⟨_, congrArg Prod.fst (Roller.roll_fixed d _), ?_⟩,
    ⟨_, congrArg Prod.fst (Roller.roll_best d _), Roll.total_replicate hd d.sides⟩⟩
  · rw [execute, Roller.roll_eq] at hr
    obtain ⟨vals, hvals, rfl⟩ := Option.map_eq_some_iff.mp hr
    obtain ⟨hlength, hrange⟩ := Roller.rollValues_words_range hd.sides.1 hvals
    exact Roll.isOutcomeOf_ofValues hd hlength hrange
  · have htotal := Roll.total_replicate hd 1
    rw [UInt16.toNat_one, Nat.cast_one, Int.mul_one] at htotal
    exact htotal

/-- Three of four dice count, so their total is between 5 and 20. -/
theorem isOutcomeOf_of_four_dice :
    ∃ d r, parse "4D6dl1+2" = .ok d ∧ execute d [0, 1, 2, 3] = some r ∧ r.IsOutcomeOf d ∧
      5 ≤ r.total.toInt ∧ r.total.toInt ≤ 20 ∧
      (∃ r, (Roller.roll d (Fixed.mk 1)).1 = some r ∧ r.total.toInt = 5) ∧
      ∃ r, (Roller.roll d Best.mk).1 = some r ∧ r.total.toInt = 20 := by
  have h : parse "4D6dl1+2" = .ok ⟨4, 6, 2, some ⟨.drop, .lowest, 1⟩⟩ := by rfl
  have hroll : execute ⟨4, 6, 2, some ⟨.drop, .lowest, 1⟩⟩ [0, 1, 2, 3] =
      some (.ofValues ⟨4, 6, 2, some ⟨.drop, .lowest, 1⟩⟩ [1, 2, 3, 4]) := by rfl
  obtain ⟨hall, hleast, hgreatest⟩ := isOutcomeOf_of_parse_eq_ok h
  have houtcome := hall _ _ hroll
  exact ⟨_, _, h, hroll, houtcome, houtcome.lower, houtcome.upper, hleast, hgreatest⟩

end TabletopDice
