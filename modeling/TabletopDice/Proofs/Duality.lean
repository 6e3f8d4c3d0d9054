import TabletopDice.Proofs.Parting

/-! # Keeping and dropping

To keep some dice from one end of the ranking is to drop all others from the opposite
end, as far as values go: `4d6kh3` and `4d6dl1` come to the same total.  Which dice
are kept may differ.  Of equal dice both selections name the one that was rolled
first, and then the former keeps it and the latter drops it, so they keep the same
dice only if no value is found on both sides of the cut (`Roll.keep_dual_drop`).
-/
namespace TabletopDice
namespace Roll

variable {s t : Selection} {vals : List UInt16}

/-! ## The places of the kept dice -/

theorem mem_keptPlaces_iff {r : Roll} {i : Nat} :
    i ∈ r.keptPlaces ↔ ∃ die, r.rolls[i]? = some die ∧ die.kept = true := by
  simp only [keptPlaces, List.mem_map, List.mem_filter, Prod.exists, exists_eq_right,
    List.mk_mem_zipIdx_iff_getElem?]

theorem mem_keptPlaces_ofValues_iff {d : Dice} {i : Nat} :
    i ∈ (ofValues { d with selection := some s } vals).keptPlaces ↔
      ∃ val, vals[i]? = some val ∧ s.Keeps vals i := by
  rw [mem_keptPlaces_iff]
  show (∃ die, (settle (some s) vals)[i]? = some die ∧ _) ↔ _
  rw [getElem?_settle]
  cases vals[i]? with
  | none => simp
  | some val => simp

/-! ## Ties -/

/-- A die that counts and a dropped die show the same value. -/
def Tied (rolls : List Die) : Prop :=
  ∃ val ∈ valsWith true rolls, val ∈ valsWith false rolls

theorem tied_settle_iff :
    Tied (settle (some s) vals) ↔ ∃ i j : Nat, ∃ val, vals[i]? = some val ∧ vals[j]? = some val ∧
      s.Keeps vals i ∧ ¬s.Keeps vals j := by
  simp only [Tied, mem_valsWith_settle_iff, decide_eq_true_eq, decide_eq_false_iff_not]
  constructor
  · rintro ⟨val, ⟨i, hi, hkept⟩, j, hj, hdropped⟩
    exact ⟨i, j, val, hi, hj, hkept, hdropped⟩
  · rintro ⟨i, j, val, hi, hj, hkept, hdropped⟩
    exact ⟨val, ⟨i, hi, hkept⟩, j, hj, hdropped⟩

/-- Without a tie the values tell which dice are kept. -/
theorem keeps_iff_of_not_tied (hperm : (settle (some s) vals).Perm (settle (some t) vals))
    (hties : ¬Tied (settle (some s) vals)) {i : Nat} {val : UInt16} (hi : vals[i]? = some val) :
    s.Keeps vals i ↔ t.Keeps vals i := by
  have hsame (kept : Bool) : val ∈ valsWith kept (settle (some t) vals) →
      val ∈ valsWith kept (settle (some s) vals) := (valsWith_perm kept hperm).mem_iff.mpr
  constructor
  · intro hs
    by_contra ht
    exact hties ⟨val, mem_valsWith_settle_iff.mpr ⟨i, hi, decide_eq_true hs⟩,
      hsame false (mem_valsWith_settle_iff.mpr ⟨i, hi, decide_eq_false ht⟩)⟩
  · intro ht
    by_contra hs
    exact hties ⟨val, hsame true (mem_valsWith_settle_iff.mpr ⟨i, hi, decide_eq_true ht⟩),
      mem_valsWith_settle_iff.mpr ⟨i, hi, decide_eq_false hs⟩⟩

/-- Of two equal dice on either side of the cut, a selection that keeps has kept the earlier one and
a selection that drops the later one. -/
theorem not_tied_of_keeps_iff (hs : s.action = .keep) (ht : t.action = .drop)
    (h : ∀ i val, vals[i]? = some val → (s.Keeps vals i ↔ t.Keeps vals i)) :
    ¬Tied (settle (some s) vals) := by
  rw [tied_settle_iff]
  rintro ⟨i, j, val, hi, hj, hkept, hdropped⟩
  have hirrefl (x : Extreme) : ¬x.beats val val = true := by
    rw [Extreme.beats_iff]
    exact Nat.lt_irrefl _
  have hkeep := (s.beats_or_eq_of_keeps hi hj hkept hdropped).resolve_left (hirrefl _)
  have hdrop := (t.beats_or_eq_of_keeps hi hj ((h i val hi).mp hkept)
    (fun hkept' => hdropped ((h j val hj).mpr hkept'))).resolve_left (hirrefl _)
  simp only [hs] at hkeep
  simp only [ht] at hdrop
  -- each of the two dice was rolled before the other
  rw [Nat.le_antisymm hkeep.2 hdrop.2] at hkept
  exact hdropped hkept

/-! ## The duality -/

/-- **To keep so many dice from one end is to drop all others from the opposite end.**  Both
selections keep the same values and drop the same values, so they come to the same totals.  They
keep the same dice iff no value is found on both sides of the cut. -/
theorem keep_dual_drop (d e : Dice) (x : Extreme) {n m : UInt8} {vals : List UInt16}
    (h : n.toNat + m.toNat = vals.length) :
    let keep := ofValues { d with selection := some ⟨.keep, x, n⟩ } vals
    let drop := ofValues { e with selection := some ⟨.drop, x.opposite, m⟩ } vals
    (keep.kept.map Die.val).Perm (drop.kept.map Die.val) ∧
      (keep.dropped.map Die.val).Perm (drop.dropped.map Die.val) ∧
      keep.subtotal = drop.subtotal ∧
      (d.modifier = e.modifier → keep.total = drop.total) ∧
      ((∀ i, i ∈ keep.keptPlaces ↔ i ∈ drop.keptPlaces) ↔
        ¬∃ val ∈ keep.kept.map Die.val, val ∈ keep.dropped.map Die.val) := by
  intro keep drop
  have hrolls : keep.rolls.Perm drop.rolls := by
    refine settle_perm_settle (x.opposite_opposite).symm ?_ (.refl vals)
    show min n.toNat vals.length = vals.length - min m.toNat vals.length
    omega
  have hsubtotal : keep.subtotal = drop.subtotal := subtotal_eq_of_perm hrolls
  simp only [map_val_kept, map_val_dropped]
  refine ⟨valsWith_perm true hrolls, valsWith_perm false hrolls, hsubtotal,
    fun hmodifier => total_eq_of_subtotal_eq hsubtotal hmodifier, ?_, ?_⟩
  · intro hplaces
    refine not_tied_of_keeps_iff (t := ⟨.drop, x.opposite, m⟩) rfl rfl fun i val hi => ?_
    have hplace := hplaces i
    rw [mem_keptPlaces_ofValues_iff, mem_keptPlaces_ofValues_iff, hi] at hplace
    simpa using hplace
  · intro hties i
    rw [mem_keptPlaces_ofValues_iff, mem_keptPlaces_ofValues_iff]
    exact exists_congr fun val =>
      and_congr_right fun hi => keeps_iff_of_not_tied hrolls hties hi

/-- Two dice that both show a twelve: it counts under advantage and where the lower die is dropped,
but it is not the same die. -/
theorem keep_dual_drop_of_equal_dice :
    (ofValues ⟨2, 20, 3, some ⟨.keep, .highest, 1⟩⟩ [12, 12]).total =
        (ofValues ⟨2, 20, 3, some ⟨.drop, .lowest, 1⟩⟩ [12, 12]).total ∧
      ¬∀ i, i ∈ (ofValues ⟨2, 20, 3, some ⟨.keep, .highest, 1⟩⟩ [12, 12]).keptPlaces ↔
        i ∈ (ofValues ⟨2, 20, 3, some ⟨.drop, .lowest, 1⟩⟩ [12, 12]).keptPlaces := by
  have hlength : (1 : UInt8).toNat + (1 : UInt8).toNat = ([12, 12] : List UInt16).length := rfl
  obtain ⟨-, -, -, htotal, hplaces⟩ :=
    keep_dual_drop ⟨2, 20, 3, none⟩ ⟨2, 20, 3, none⟩ .highest hlength
  refine ⟨htotal rfl, fun h => hplaces.mp h ?_⟩
  simp only [map_val_kept, map_val_dropped]
  exact tied_settle_iff.mpr ⟨0, 1, 12, rfl, rfl, by decide, by decide⟩

end Roll
end TabletopDice
