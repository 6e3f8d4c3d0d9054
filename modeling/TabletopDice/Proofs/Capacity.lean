import TabletopDice.Proofs.Ranks
import TabletopDice.Proofs.Rollers
import TabletopDice.Proofs.Totals

/-! # How much a subtotal holds

A subtotal has room for 65537 kept dice, whatever they show: so many of the
largest values add up to the largest number of 32 bits exactly.  No roller makes a
roll of more than 255 dice, so its sums are exact.  The limit is sharp for dice
that may keep more: beyond it some values do not fit.
-/
namespace TabletopDice
namespace Roll

theorem length_kept (r : Roll) : r.kept.length = r.rolls.countP Die.kept :=
  List.countP_eq_length_filter.symm

/-- Where all values are the same, the exact sum is known. -/
theorem exactSum_replicate (d : Dice) (n : Nat) (val : UInt16) :
    exactSum (ofValues d (List.replicate n val)).rolls =
      (ofValues d (List.replicate n val)).kept.length * val.toNat := by
  have hsame : ∀ die ∈ (ofValues d (List.replicate n val)).rolls,
      val.toNat ≤ die.val.toNat ∧ die.val.toNat ≤ val.toNat := by
    intro die hdie
    rw [List.eq_of_mem_replicate (val_mem_of_mem_rolls hdie)]
    exact ⟨Nat.le_refl _, Nat.le_refl _⟩
  obtain ⟨hlower, hupper⟩ := exactSum_bounds hsame
  rw [length_kept]
  exact Nat.le_antisymm hupper hlower

/-- Any number of dice can be kept, unless only so many of them are to be kept. -/
theorem exists_length_kept_replicate {d : Dice} (hd : ∀ s ∈ d.selection, s.action = .drop)
    (n : Nat) (val : UInt16) :
    ∃ m, (ofValues d (List.replicate m val)).kept.length = n := by
  simp only [length_kept]
  show ∃ m, (settle d.selection (List.replicate m val)).countP Die.kept = n
  unfold settle
  cases hs : d.selection with
  | none =>
    refine ⟨n, ?_⟩
    rw [List.countP_eq_length.mpr (Selection.kept_of_fresh _), List.length_map,
      List.length_replicate]
  | some s =>
    -- the dice that are dropped come on top
    refine ⟨n + s.number.toNat, (s.countP_kept_apply (Selection.kept_of_fresh _)).trans ?_⟩
    rw [hd s hs, List.length_map, List.length_replicate]
    exact Nat.add_sub_cancel n _

/-- A roller makes no roll of more than 255 dice. -/
theorem length_rolls_of_roll {σ : Type} [Roller σ] {d : Dice} {s s' : σ} {r : Roll}
    (h : Roller.roll d s = (some r, s')) : r.rolls.length ≤ 255 := by
  obtain ⟨vals, hvals, rfl⟩ := Roller.roll_eq_some_iff_exists.mp h
  have hlength : vals.length = d.count.toNat :=
    (Roller.rollValues_induct (P := fun _ => True) (fun _ _ _ => trivial)
      (congrArg Prod.fst hvals)).1
  have hcount : d.count.toNat < 256 := d.count.toNat_lt
  show (settle d.selection vals).length ≤ 255
  rw [length_settle]
  omega

/-- A total is the exact sum of the kept dice and the modifier, unless the subtotal is cut off. -/
theorem toInt_total_of_exact {d : Dice} {vals : List UInt16}
    (h : (ofValues d vals).subtotal.toNat = exactSum (ofValues d vals).rolls) :
    (ofValues d vals).total.toInt = exactSum (ofValues d vals).rolls + d.modifier.toInt := by
  rw [toInt_total_ofValues, h]

/-- **Totals are exact up to a sharp limit.**  The subtotal is the exact sum of the kept dice, cut
off once at the largest number of 32 bits; it depends on nothing but the kept dice, in whatever
order they are added up.  The total is the subtotal and the modifier, exactly.  Nothing is cut off
from 65537 kept dice or fewer, hence from no roll that a roller makes.  From any larger number of
kept dice something may be cut off, where the selection lets so many be kept. -/
theorem totals_exact_up_to_limit (d : Dice) :
    (∀ vals,
      (ofValues d vals).subtotal.toNat = min (exactSum (ofValues d vals).rolls) 4294967295 ∧
      (∀ rolls, (rolls.filter (·.kept)).Perm (ofValues d vals).kept →
        exactSum rolls = exactSum (ofValues d vals).rolls ∧
          sum rolls = (ofValues d vals).subtotal) ∧
      (ofValues d vals).total.toInt = (ofValues d vals).subtotal.toNat + d.modifier.toInt ∧
      ((ofValues d vals).kept.length ≤ 65537 →
        (ofValues d vals).subtotal.toNat = exactSum (ofValues d vals).rolls)) ∧
    (∀ {σ : Type} [Roller σ] (s s' : σ) r, Roller.roll d s = (some r, s') →
      r.subtotal.toNat = exactSum r.rolls ∧
        r.total.toInt = exactSum r.rolls + d.modifier.toInt) ∧
    ∀ n, 65537 < n → (∀ s ∈ d.selection, s.action = .drop) →
      ∃ vals, (ofValues d vals).kept.length = n ∧
        (ofValues d vals).subtotal.toNat < exactSum (ofValues d vals).rolls := by
  have hcap := fun vals => toNat_sum (ofValues d vals).rolls
  refine ⟨fun vals => ⟨hcap vals, fun rolls hperm => ?_, toInt_total_ofValues d vals,
    fun hkept => ?_⟩, fun s s' r hr => ?_, fun n hn hd => ?_⟩
  · have hexact : exactSum rolls = exactSum (ofValues d vals).rolls := by
      rw [← exactSum_filter_kept, exactSum_perm hperm]
      exact exactSum_filter_kept _
    refine ⟨hexact, UInt32.toNat_inj.mp ?_⟩
    show (sum rolls).toNat = (sum (ofValues d vals).rolls).toNat
    rw [toNat_sum, toNat_sum, hexact]
  · rw [length_kept] at hkept
    exact toNat_sum_of_countP_le hkept
  · have hlength := length_rolls_of_roll hr
    obtain ⟨vals, -, rfl⟩ := Roller.roll_eq_some_iff_exists.mp hr
    have hexact := toNat_sum_of_length_le (Nat.le_trans hlength (by decide : 255 ≤ 65537))
    exact ⟨hexact, toInt_total_of_exact hexact⟩
  · obtain ⟨m, hm⟩ := exists_length_kept_replicate hd n 65535
    have hexact := exactSum_replicate d m 65535
    rw [hm] at hexact
    refine ⟨List.replicate m 65535, hm, ?_⟩
    show (sum (ofValues d (List.replicate m 65535)).rolls).toNat < _
    rw [toNat_sum, hexact]
    show min (n * 65535) 4294967295 < n * 65535
    omega

/-- Four dice with one of them dropped are far from the limit, and so are the four that a roller
rolls.  With 65538 dice that are kept, as they may be beside the one that is dropped, the limit is
passed. -/
theorem totals_exact_up_to_limit_of_dropped_die :
    (ofValues ⟨4, 6, -2, some ⟨.drop, .lowest, 1⟩⟩ [3, 1, 5, 4]).kept.length ≤ 65537 ∧
      (ofValues ⟨4, 6, -2, some ⟨.drop, .lowest, 1⟩⟩ [3, 1, 5, 4]).subtotal.toNat =
        exactSum (ofValues ⟨4, 6, -2, some ⟨.drop, .lowest, 1⟩⟩ [3, 1, 5, 4]).rolls ∧
      (∃ r s', Roller.roll ⟨4, 6, -2, some ⟨.drop, .lowest, 1⟩⟩ (Fixed.mk 65535) = (some r, s') ∧
        r.total.toInt = exactSum r.rolls + (-2 : Int32).toInt) ∧
      ∃ vals, (ofValues ⟨4, 6, -2, some ⟨.drop, .lowest, 1⟩⟩ vals).kept.length = 65538 ∧
        (ofValues ⟨4, 6, -2, some ⟨.drop, .lowest, 1⟩⟩ vals).subtotal.toNat <
          exactSum (ofValues ⟨4, 6, -2, some ⟨.drop, .lowest, 1⟩⟩ vals).rolls := by
  obtain ⟨hvals, hroller, hbeyond⟩ :=
    totals_exact_up_to_limit ⟨4, 6, -2, some ⟨.drop, .lowest, 1⟩⟩
  obtain ⟨-, -, -, hexact⟩ := hvals [3, 1, 5, 4]
  have hkept : (ofValues ⟨4, 6, -2, some ⟨.drop, .lowest, 1⟩⟩ [3, 1, 5, 4]).kept.length ≤ 65537 :=
    Nat.le_trans (List.length_filter_le _ _) (by decide)
  have hroll := Roller.roll_fixed ⟨4, 6, -2, some ⟨.drop, .lowest, 1⟩⟩ (Fixed.mk 65535)
  refine ⟨hkept, hexact hkept, ⟨_, _, hroll, (hroller _ _ _ hroll).2⟩,
    hbeyond 65538 (by decide) ?_⟩
  intro s hs
  cases hs
  rfl

end Roll
end TabletopDice
