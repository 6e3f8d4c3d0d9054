import Mathlib.Data.List.Basic
import TabletopDice.Proofs.Rolling

/-! # Ranks

A ranking lists every place on the table once, so a selection names as many dice
as its number says, or all of them if there are fewer.  Of fresh dice it keeps
those that it names, or all others (`Selection.countP_kept_apply`).

A selection sorts the places of the dice and cuts the ranking behind its number.
Sorting leaves every die behind those that are ahead of it, and behind no others,
so how many these are, its rank, says on which side of the cut a die comes to lie
(`Selection.mem_named_iff`).  Whether it was dropped before does not matter to its
rank.

The ranking compares places too, where values are equal.  This is what a stable
sort of the places by value alone amounts to (`Extreme.ranked_eq_mergeSort`).
-/
namespace TabletopDice

/-- A ranking is an arrangement of all places. -/
theorem Extreme.ranked_perm (x : Extreme) (rolls : List Die) :
    (x.ranked rolls).Perm (List.range rolls.length) := by
  have hsorted := (List.mergeSort_perm rolls.zipIdx x.precedes).map Prod.snd
  rw [List.zipIdx_map_snd, ← List.range_eq_range'] at hsorted
  exact hsorted

namespace Selection

variable (s : Selection) (rolls : List Die)

/-! ## The dice that are named -/

theorem length_named : (s.named rolls).length = min s.number.toNat rolls.length := by
  rw [named, List.length_take, (s.extreme.ranked_perm rolls).length_eq, List.length_range]

/-- No die is named twice. -/
theorem nodup_named : (s.named rolls).Nodup :=
  ((s.extreme.ranked_perm rolls).nodup_iff.mpr List.nodup_range).sublist (List.take_sublist _ _)

theorem lt_length_of_mem_named {i : Nat} (h : i ∈ s.named rolls) : i < rolls.length :=
  List.mem_range.mp ((s.extreme.ranked_perm rolls).mem_iff.mp (List.mem_of_mem_take h))

/-- The places of the dice that are named are as many as are named. -/
theorem countP_range_named :
    (List.range rolls.length).countP (s.named rolls).contains =
      min s.number.toNat rolls.length := by
  have hperm : ((List.range rolls.length).filter (s.named rolls).contains).Perm
      (s.named rolls) := by
    refine (List.perm_ext_iff_of_nodup (List.nodup_range.sublist List.filter_sublist)
      (s.nodup_named rolls)).mpr fun i => ?_
    rw [List.mem_filter, List.mem_range, List.contains_iff_mem]
    exact ⟨And.right, fun hi => ⟨s.lt_length_of_mem_named rolls hi, hi⟩⟩
  rw [List.countP_eq_length_filter, hperm.length_eq, length_named]

/-! ## The dice that are kept -/

variable {rolls}

/-- Dice that have just been rolled all count. -/
theorem kept_of_fresh (vals : List UInt16) :
    ∀ die ∈ vals.map fun v => ({ val := v } : Die), die.kept = true := by
  intro die hdie
  obtain ⟨v, -, rfl⟩ := List.mem_map.mp hdie
  rfl

/-- Fresh dice are kept by whether they are named. -/
theorem map_kept_apply (hfresh : ∀ die ∈ rolls, die.kept = true) :
    (s.apply rolls).map Die.kept =
      (List.range rolls.length).map fun i => (s.named rolls).contains i == s.isKeep := by
  refine List.ext_getElem? fun i => ?_
  simp only [apply, List.getElem?_map, List.getElem?_mapIdx]
  by_cases hi : i < rolls.length
  · have hkept : rolls[i].kept = true := hfresh _ (List.getElem_mem hi)
    rw [List.getElem?_eq_getElem hi, List.getElem?_range hi]
    simp only [Option.map_some]
    split <;> rename_i hnamed
    · rw [hkept, hnamed]
    · rw [Bool.not_eq_true] at hnamed
      rw [hnamed]
      rfl
  · have hlen : rolls.length ≤ i := Nat.le_of_not_lt hi
    rw [List.getElem?_eq_none hlen, List.getElem?_eq_none (by rwa [List.length_range])]
    rfl

/-- **A selection keeps the dice that it names or leaves out the dice that it names.** -/
theorem countP_kept_apply (hfresh : ∀ die ∈ rolls, die.kept = true) :
    (s.apply rolls).countP Die.kept =
      match s.action with
      | .keep => min s.number.toNat rolls.length
      | .drop => rolls.length - s.number.toNat := by
  have hcount : (s.apply rolls).countP Die.kept =
      (List.range rolls.length).countP fun i => (s.named rolls).contains i == s.isKeep := by
    have hmap : ∀ dice : List Die, dice.countP Die.kept = (dice.map Die.kept).countP id :=
      fun dice => by rw [List.countP_map]; rfl
    rw [hmap, s.map_kept_apply hfresh, List.countP_map]
    rfl
  have hnamed := s.countP_range_named rolls
  rw [hcount]
  cases haction : s.action with
  | keep =>
    have hkeep : s.isKeep = true := by simp [isKeep, haction]
    rw [← hnamed]
    exact List.countP_congr fun i _ => by rw [hkeep, beq_true]
  | drop =>
    have hkeep : s.isKeep = false := by simp [isKeep, haction]
    have hothers : (List.range rolls.length).countP (fun i => (s.named rolls).contains i == s.isKeep)
        = (List.range rolls.length).countP fun i => !(s.named rolls).contains i :=
      List.countP_congr fun i _ => by rw [hkeep, beq_false]
    have hsplit := List.length_eq_countP_add_countP (s.named rolls).contains
      (l := List.range rolls.length)
    simp only [List.length_range, hnamed, Bool.not_eq_true, Bool.decide_eq_false] at hsplit
    rw [hothers]
    show _ = rolls.length - s.number.toNat
    omega

end Selection

/-! ## Counting in lists -/

/-- In a list that is in order, the first `n` entries are those with fewer than `n` ahead. -/
theorem mem_take_iff_countP_lt {α : Type} {le : α → α → Bool} {l : List α} {a : α} {n : Nat}
    (hsorted : l.Pairwise fun a b => le a b = true) (hrefl : le a a = true)
    (hanti : ∀ b ∈ l, le a b = true → le b a = true → a = b) (ha : a ∈ l) :
    a ∈ l.take n ↔ l.countP (fun b => !le a b) < n := by
  induction l generalizing n with
  | nil => cases ha
  | cons b l ih =>
    obtain ⟨hb, hl⟩ := List.pairwise_cons.mp hsorted
    cases n with
    | zero => simp
    | succ n =>
      rw [List.take_succ_cons, List.mem_cons]
      by_cases hab : a = b
      · -- all others come behind the first entry
        subst hab
        have hnone : (a :: l).countP (fun c => !le a c) = 0 := by
          refine List.countP_eq_zero.mpr fun c hc => ?_
          obtain rfl | hc := List.mem_cons.mp hc
          · simp [hrefl]
          · simp [hb c hc]
        rw [hnone]
        exact ⟨fun _ => Nat.succ_pos n, fun _ => .inl rfl⟩
      · -- the first entry is one of those ahead, and the others are found in the rest
        have ha : a ∈ l := (List.mem_cons.mp ha).resolve_left hab
        have hahead : (!le a b) = true := by
          rw [Bool.not_eq_true', Bool.eq_false_iff]
          exact fun h => hab (hanti b List.mem_cons_self h (hb a ha))
        have hcount : (b :: l).countP (fun c => !le a c) = l.countP (fun c => !le a c) + 1 :=
          List.countP_cons_of_pos hahead
        rw [hcount, Nat.succ_lt_succ_iff,
          ← ih hl (fun c hc => hanti c (List.mem_cons_of_mem b hc)) ha]
        exact ⟨fun h => h.resolve_left hab, .inr⟩

/-- Of entries with their places, those that pass one test are counted together with those before
a place that pass another. -/
theorem countP_zipIdx_or {p q : Die → Bool} (hdisjoint : ∀ die, p die = true → q die = false)
    (rolls : List Die) (i k : Nat) :
    (rolls.zipIdx k).countP (fun b => p b.1 || q b.1 && decide (b.2 < i)) =
      rolls.countP p + (rolls.take (i - k)).countP q := by
  induction rolls generalizing k with
  | nil => simp
  | cons die rolls ih =>
    rw [List.zipIdx_cons, List.countP_cons, List.countP_cons, ih]
    by_cases hk : k < i
    · have hi : i - k = i - (k + 1) + 1 := by omega
      rw [hi, List.take_succ_cons, List.countP_cons]
      cases hp : p die with
      | false =>
        simp only [hk, Bool.false_or, decide_true, Bool.and_true, Bool.false_eq_true, if_false]
        omega
      | true =>
        simp only [hdisjoint die hp, Bool.true_or, Bool.false_eq_true, if_true, if_false]
        omega
    · have hi : i - k = 0 ∧ i - (k + 1) = 0 := by omega
      rw [hi.1, hi.2, List.take_zero, List.take_zero]
      simp only [hk, decide_false, Bool.and_false, Bool.or_false]
      omega

namespace Extreme

variable (x : Extreme)

/-! ## The order of a ranking -/

/-- How far a value lies from this end of the scale. -/
def distance (val : UInt16) : Nat :=
  match x with
  | .highest => 65535 - val.toNat
  | .lowest => val.toNat

theorem beats_iff {a b : UInt16} : x.beats a b = true ↔ x.distance a < x.distance b := by
  have ha : a.toNat < 65536 := a.toNat_lt
  cases x with
  | highest =>
    simp only [beats, distance, decide_eq_true_eq, UInt16.lt_iff_toNat_lt]
    omega
  | lowest => simp only [beats, distance, decide_eq_true_eq, UInt16.lt_iff_toNat_lt]

/-- No two values are at the same distance. -/
theorem distance_inj {a b : UInt16} : x.distance a = x.distance b ↔ a = b := by
  have ha : a.toNat < 65536 := a.toNat_lt
  have hb : b.toNat < 65536 := b.toNat_lt
  rw [← UInt16.toNat_inj]
  cases x with
  | highest =>
    simp only [distance]
    omega
  | lowest => exact Iff.rfl

theorem precedes_iff {a b : Die × Nat} :
    x.precedes a b = true ↔ x.distance a.1.val < x.distance b.1.val ∨
      x.distance a.1.val = x.distance b.1.val ∧ a.2 ≤ b.2 := by
  simp only [precedes, Bool.or_eq_true, Bool.and_eq_true, decide_eq_true_eq, beq_iff_eq,
    beats_iff, distance_inj]

theorem precedes_trans (a b c : Die × Nat) (hab : x.precedes a b = true)
    (hbc : x.precedes b c = true) : x.precedes a c = true := by
  rw [precedes_iff] at *
  omega

theorem precedes_total (a b : Die × Nat) : (x.precedes a b || x.precedes b a) = true := by
  rw [Bool.or_eq_true, precedes_iff, precedes_iff]
  omega

/-- The dice with their places, in the order of the ranking. -/
def sorted (rolls : List Die) : List (Die × Nat) := rolls.zipIdx.mergeSort x.precedes

variable (rolls : List Die)

theorem pairwise_sorted : (x.sorted rolls).Pairwise fun a b => x.precedes a b = true :=
  List.pairwise_mergeSort x.precedes_trans x.precedes_total _

theorem sorted_perm : (x.sorted rolls).Perm rolls.zipIdx := List.mergeSort_perm _ _

variable {rolls}

theorem mem_sorted_iff {i : Nat} {die : Die} :
    (die, i) ∈ x.sorted rolls ↔ rolls[i]? = some die := by
  rw [(x.sorted_perm rolls).mem_iff, List.mk_mem_zipIdx_iff_getElem?]

/-- Only one die is at a place, so no two dice precede each other. -/
theorem eq_of_precedes {a b : Die × Nat} (ha : a ∈ x.sorted rolls) (hb : b ∈ x.sorted rolls)
    (hab : x.precedes a b = true) (hba : x.precedes b a = true) : a = b := by
  obtain ⟨die, i⟩ := a
  obtain ⟨other, j⟩ := b
  rw [mem_sorted_iff] at ha hb
  rw [precedes_iff] at hab hba
  have hplace : i = j := by omega
  subst hplace
  rw [Option.some.inj (ha.symm.trans hb)]

/-! ## Counting the dice ahead -/

/-- The rank of a die is the number of entries that it does not precede. -/
theorem rank_eq_countP {i : Nat} {die : Die} (h : rolls[i]? = some die) :
    x.rank rolls i = (x.sorted rolls).countP fun other => !x.precedes (die, i) other := by
  have hahead : ∀ other : Die × Nat, (!x.precedes (die, i) other) =
      (x.beats other.1.val die.val || (other.1.val == die.val) && decide (other.2 < i)) := by
    intro other
    rw [Bool.eq_iff_iff, Bool.not_eq_true', Bool.eq_false_iff, ne_eq, precedes_iff, Bool.or_eq_true,
      Bool.and_eq_true, beats_iff, beq_iff_eq, decide_eq_true_eq, ← x.distance_inj]
    dsimp only
    omega
  have hdisjoint : ∀ other : Die, x.beats other.val die.val = true →
      (other.val == die.val) = false := by
    intro other hbeats
    rw [beats_iff] at hbeats
    rw [beq_eq_false_iff_ne, ne_eq, ← x.distance_inj]
    omega
  rw [(x.sorted_perm rolls).countP_eq, List.countP_congr fun other _ => by rw [hahead],
    countP_zipIdx_or hdisjoint rolls i 0, Nat.sub_zero, rank, h]

/-- Of two dice, the one with the lower rank comes first. -/
theorem precedes_of_rank_lt {i j : Nat} {die other : Die} (hi : rolls[i]? = some die)
    (hj : rolls[j]? = some other) (h : x.rank rolls i < x.rank rolls j) :
    x.precedes (die, i) (other, j) = true := by
  by_contra hprecedes
  have hback : x.precedes (other, j) (die, i) = true := by
    have htotal := x.precedes_total (die, i) (other, j)
    rw [Bool.or_eq_true] at htotal
    exact htotal.resolve_left hprecedes
  -- whatever the other die does not precede is not preceded by the die either
  have hle : x.rank rolls j ≤ x.rank rolls i := by
    rw [x.rank_eq_countP hi, x.rank_eq_countP hj]
    refine List.countP_mono_left fun c _ hc => ?_
    rw [Bool.not_eq_true', Bool.eq_false_iff] at hc ⊢
    exact fun hdie => hc (x.precedes_trans _ _ _ hback hdie)
  exact absurd h (Nat.not_lt.mpr hle)

/-! ## Sorting by value alone -/

/-- The die at place `i` is not beaten by the one at place `j`, and so may come before it. -/
def unbeaten (rolls : List Die) (i j : Nat) : Bool :=
  match rolls[i]?, rolls[j]? with
  | some die, some other => !x.beats other.val die.val
  | _, _ => true

/-- To compare places where values are equal is what keeps a sort by value stable. -/
theorem precedes_eq_zipIdxLE {a b : Die × Nat} (ha : rolls[a.2]? = some a.1)
    (hb : rolls[b.2]? = some b.1) :
    x.precedes a b = List.zipIdxLE (x.unbeaten rolls) (a.2, a.2) (b.2, b.2) := by
  rw [Bool.eq_iff_iff, precedes_iff]
  simp only [List.zipIdxLE, unbeaten, ha, hb, Bool.not_eq_true', Bool.eq_false_iff, ne_eq,
    beats_iff]
  split_ifs
  · rw [iff_false]
    omega
  · rw [eq_self_iff_true, iff_true]
    omega
  · rw [decide_eq_true_eq]
    omega

/-- **A ranking is what a stable sort makes of the places, in order, by the values there.** -/
theorem ranked_eq_mergeSort (rolls : List Die) :
    x.ranked rolls = (List.range rolls.length).mergeSort (x.unbeaten rolls) := by
  have hplaces : rolls.zipIdx.map (fun b => (b.2, b.2)) = (List.range rolls.length).zipIdx := by
    refine List.ext_getElem? fun i => ?_
    simp only [List.getElem?_map, List.getElem?_zipIdx]
    by_cases hi : i < rolls.length
    · rw [List.getElem?_eq_getElem hi, List.getElem?_range hi]
      simp
    · rw [List.getElem?_eq_none (Nat.le_of_not_lt hi), List.getElem?_eq_none (by simpa using hi)]
      rfl
  have horder : ∀ a ∈ rolls.zipIdx, ∀ b ∈ rolls.zipIdx,
      x.precedes a b = List.zipIdxLE (x.unbeaten rolls) (a.2, a.2) (b.2, b.2) :=
    fun a ha b hb => x.precedes_eq_zipIdxLE (List.mem_zipIdx_iff_getElem?.mp ha)
      (List.mem_zipIdx_iff_getElem?.mp hb)
  rw [← List.mergeSort_zipIdx, ← hplaces, ← List.map_mergeSort horder, List.map_map]
  rfl

end Extreme

namespace Selection

variable (s : Selection) {rolls : List Die}

/-- A die of this rank, counted from 0, is one that the selection keeps. -/
def Admits (rank : Nat) : Prop :=
  match s.action with
  | .keep => rank < s.number.toNat
  | .drop => s.number.toNat ≤ rank

instance : (s : Selection) → (rank : Nat) → Decidable (s.Admits rank)
  | ⟨.keep, _, number⟩, rank => Nat.decLt rank number.toNat
  | ⟨.drop, _, number⟩, rank => Nat.decLe number.toNat rank

/-- A selection names the dice with fewer dice ahead than its number. -/
theorem mem_named_iff {i : Nat} {die : Die} (h : rolls[i]? = some die) :
    i ∈ s.named rolls ↔ s.extreme.rank rolls i < s.number.toNat := by
  have hmem : (die, i) ∈ s.extreme.sorted rolls := s.extreme.mem_sorted_iff.mpr h
  have hrefl : s.extreme.precedes (die, i) (die, i) = true := by
    rw [Extreme.precedes_iff]
    omega
  rw [s.extreme.rank_eq_countP h, ← mem_take_iff_countP_lt (s.extreme.pairwise_sorted rolls)
    hrefl (fun b hb => s.extreme.eq_of_precedes hmem hb) hmem]
  show i ∈ (((s.extreme.sorted rolls).map Prod.snd).take s.number.toNat) ↔ _
  rw [← List.map_take, List.mem_map]
  constructor
  · rintro ⟨⟨other, j⟩, hother, rfl⟩
    have hj := s.extreme.mem_sorted_iff.mp (List.mem_of_mem_take hother)
    rw [Option.some.inj (h.symm.trans hj)]
    exact hother
  · intro hdie
    exact ⟨_, hdie, rfl⟩

/-- A selection leaves the dice alone whose rank it admits. -/
theorem contains_named_iff_admits {i : Nat} {die : Die} (h : rolls[i]? = some die) :
    ((s.named rolls).contains i == s.isKeep) = true ↔ s.Admits (s.extreme.rank rolls i) := by
  have hnamed := s.mem_named_iff h
  rw [← List.contains_iff_mem] at hnamed
  cases haction : s.action with
  | keep =>
    have hkeep : s.isKeep = true := by simp [isKeep, haction]
    rw [hkeep, beq_true, Admits, haction]
    exact hnamed
  | drop =>
    have hkeep : s.isKeep = false := by simp [isKeep, haction]
    rw [hkeep, beq_false, Bool.not_eq_true', Bool.eq_false_iff, ne_eq, hnamed, Admits, haction]
    exact Nat.not_lt

/-- A die stays as it is if its rank is one that the selection keeps, and is dropped if not. -/
theorem getElem?_apply (rolls : List Die) (i : Nat) :
    (s.apply rolls)[i]? =
      rolls[i]?.map fun die => if s.Admits (s.extreme.rank rolls i) then die else die.drop := by
  simp only [apply, List.getElem?_mapIdx]
  cases h : rolls[i]? with
  | none => rfl
  | some die => simp only [Option.map_some, s.contains_named_iff_admits h]

/-- **A selection marks the dice by their ranks.**  It changes neither the values nor their order,
and a die is kept after it iff it was kept before and the selection keeps its rank.  The ranking
that it cuts is a stable sort of the places by value.  All places in it are on the table, and the
cut takes as many of them as the number says, or all there are. -/
theorem kept_apply_iff_admits (s : Selection) (rolls : List Die) :
    (s.apply rolls).map Die.val = rolls.map Die.val ∧
      (∀ i die, rolls[i]? = some die → ∃ marked, (s.apply rolls)[i]? = some marked ∧
        (marked.kept = true ↔ die.kept = true ∧ s.Admits (s.extreme.rank rolls i))) ∧
      s.extreme.ranked rolls = (List.range rolls.length).mergeSort (s.extreme.unbeaten rolls) ∧
      (∀ i ∈ s.extreme.ranked rolls, i < rolls.length) ∧
      ∃ rest, s.extreme.ranked rolls = s.named rolls ++ rest ∧
        (s.named rolls).length = min s.number.toNat rolls.length := by
  refine ⟨s.map_val_apply rolls, fun i die h => ?_, s.extreme.ranked_eq_mergeSort rolls,
    fun i hi => List.mem_range.mp ((s.extreme.ranked_perm rolls).mem_iff.mp hi),
    _, (List.take_append_drop s.number.toNat _).symm, s.length_named rolls⟩
  refine ⟨_, by rw [s.getElem?_apply, h, Option.map_some], ?_⟩
  split <;> rename_i hadmits
  · exact ⟨fun hkept => ⟨hkept, hadmits⟩, And.left⟩
  · exact ⟨fun hkept => absurd hkept Bool.false_ne_true, fun hkept => absurd hkept.2 hadmits⟩

/-- The last of these dice has a rank of 2 from either end, since a die that was dropped before is
ahead of it by its place.  Of the two highest dice only the one that was not dropped is kept.  Of
the two lowest the other one is dropped as well, and the last die is not among them. -/
theorem kept_apply_iff_admits_of_tie :
    (∃ second last,
      ((⟨.keep, .highest, 2⟩ : Selection).apply [⟨5, false⟩, ⟨8, true⟩, ⟨2, true⟩, ⟨5, true⟩])[1]? =
        some second ∧ second.kept = true ∧
      ((⟨.keep, .highest, 2⟩ : Selection).apply [⟨5, false⟩, ⟨8, true⟩, ⟨2, true⟩, ⟨5, true⟩])[3]? =
        some last ∧ last.kept = false) ∧
    ∃ third last,
      ((⟨.drop, .lowest, 2⟩ : Selection).apply [⟨5, false⟩, ⟨8, true⟩, ⟨2, true⟩, ⟨5, true⟩])[2]? =
        some third ∧ third.kept = false ∧
      ((⟨.drop, .lowest, 2⟩ : Selection).apply [⟨5, false⟩, ⟨8, true⟩, ⟨2, true⟩, ⟨5, true⟩])[3]? =
        some last ∧ last.kept = true := by
  constructor
  · obtain ⟨-, hkept, -⟩ := kept_apply_iff_admits ⟨.keep, .highest, 2⟩
      [⟨5, false⟩, ⟨8, true⟩, ⟨2, true⟩, ⟨5, true⟩]
    obtain ⟨second, hsecond, hiff⟩ := hkept 1 ⟨8, true⟩ rfl
    obtain ⟨last, hlast, hiff'⟩ := hkept 3 ⟨5, true⟩ rfl
    refine ⟨second, last, hsecond, hiff.mpr ⟨rfl, by decide⟩, hlast, ?_⟩
    rw [Bool.eq_false_iff, ne_eq, hiff']
    decide
  · obtain ⟨-, hkept, -⟩ := kept_apply_iff_admits ⟨.drop, .lowest, 2⟩
      [⟨5, false⟩, ⟨8, true⟩, ⟨2, true⟩, ⟨5, true⟩]
    obtain ⟨third, hthird, hiff⟩ := hkept 2 ⟨2, true⟩ rfl
    obtain ⟨last, hlast, hiff'⟩ := hkept 3 ⟨5, true⟩ rfl
    refine ⟨third, last, hthird, ?_, hlast, hiff'.mpr ⟨rfl, by decide⟩⟩
    rw [Bool.eq_false_iff, ne_eq, hiff]
    decide

end Selection
end TabletopDice
