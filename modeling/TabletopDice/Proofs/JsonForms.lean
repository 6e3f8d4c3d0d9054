import TabletopDice.JsonForm
import TabletopDice.Proofs.JsonValues

/-! # Records read back from JSON

A form is lawful if a value is taken back from its form, and the form can be read
from its text.  Numbers are lawful for all of their range; a record is lawful if
its parts are, because the names of its members are plain and differ from one
another (`Json.parts?_object`).
-/
namespace TabletopDice

open JsonForm

/-- Every value can be taken back from its JSON form, and the form from its text. -/
class LawfulJsonForm (α : Type) [JsonForm α] : Prop where
  ofJson?_toJson (a : α) : ofJson? (toJson a) = some a
  plain_toJson (a : α) : (toJson a).Plain

open LawfulJsonForm

/-- A value with a lawful form is read back from its text. -/
theorem ofJsonText?_toJsonText {α : Type} [JsonForm α] [LawfulJsonForm α] (a : α) :
    ofJsonText? (toJsonText a) = some a := by
  rw [ofJsonText?, toJsonText, Json.ofText?_text (plain_toJson a)]
  exact ofJson?_toJson a

namespace Json

/-! ## Numbers -/

theorem plain_ofNat (n : Nat) : (ofNat n).Plain :=
  List.forall_mem_singleton.mpr (JsonToken.plain_decimal n)

theorem plain_ofInt (z : Int) : (ofInt z).Plain :=
  List.forall_mem_singleton.mpr (JsonToken.plain_integer z)

theorem toInt?_ofNat (n : Nat) : (ofNat n).toInt? = some (n : Int) := by
  have hdigits : (decimal n).all Char.isDigit = true := List.all_eq_true.mpr (isNumber_decimal n).2
  unfold toInt? ofNat
  split
  · rename_i run hminus
    rw [Json.number.injEq] at hminus
    exact absurd (hminus ▸ List.mem_cons_self) (JsonToken.minus_notMem_decimal n)
  · rename_i run _ hrun
    rw [Json.number.injEq] at hrun
    rw [← hrun, if_pos hdigits, value_decimal]
  · rename_i hno
    exact absurd rfl (hno _)

theorem toInt?_ofInt (z : Int) : (ofInt z).toInt? = some z := by
  unfold ofInt integer
  split
  · have hdigits : (decimal z.natAbs).all Char.isDigit = true :=
      List.all_eq_true.mpr (isNumber_decimal z.natAbs).2
    have hvalue : value (decimal z.natAbs) ≠ 0 := by
      rw [value_decimal]
      omega
    show (if (decimal z.natAbs).all Char.isDigit && value (decimal z.natAbs) ≠ 0 then
      some (-(value (decimal z.natAbs) : Int)) else none) = some z
    rw [hdigits, if_pos (by simpa using hvalue), value_decimal]
    exact congrArg some (by omega)
  · rename_i hneg
    rw [show Json.number (decimal z.natAbs) = ofNat z.natAbs from rfl, toInt?_ofNat]
    exact congrArg some (by omega)

/-- A number below the bound is read from its form. -/
theorem map_toNatBelow?_ofNat {α : Type} {f : Nat → α} {a : α} {size n : Nat} (h : n < size)
    (hf : f n = a) : ((ofNat n).toNatBelow? size).map f = some a := by
  have hread : (ofNat n).toNatBelow? size = some n := by
    rw [toNatBelow?, toInt?_ofNat]
    exact if_pos h
  rw [hread, Option.map_some, hf]

/-- An integer between the bounds is read from its form. -/
theorem map_toIntWithin?_ofInt {α : Type} {f : Int → α} {a : α} {low high z : Int} (hlow : low ≤ z)
    (hhigh : z ≤ high) (hf : f z = a) : ((ofInt z).toIntWithin? low high).map f = some a := by
  have hread : (ofInt z).toIntWithin? low high = some z := by
    rw [toIntWithin?, toInt?_ofInt]
    exact if_pos ⟨hlow, hhigh⟩
  rw [hread, Option.map_some, hf]

/-! ## Objects -/

/-- The names can serve for a record: they are plain, and no two of them are the same. -/
def ProperNames (names : List (List Char)) : Prop :=
  (∀ name ∈ names, JsonToken.PlainBody name) ∧ names.Nodup

instance (names : List (List Char)) : Decidable (ProperNames names) :=
  inferInstanceAs (Decidable (_ ∧ _))

/-- Plain names are found as they are written. -/
theorem named?_of_plain {members : List (List Char × Json)}
    (h : ∀ name ∈ members.map Prod.fst, JsonToken.PlainBody name) :
    named? members = some members := by
  unfold named?
  induction members with
  | nil => rfl
  | cons m members ih =>
    obtain ⟨hm, hmembers⟩ := List.forall_mem_cons.mp h
    have hname : JsonToken.unescape m.1 = some m.1 :=
      JsonToken.unescape_plain fun c hc => (hm c hc).2.1
    rw [List.mapM_cons, ih hmembers, hname]
    rfl

theorem filter_name {members : List (List Char × Json)} (hnodup : (members.map Prod.fst).Nodup)
    {m : List Char × Json} (hm : m ∈ members) : members.filter (·.1 = m.1) = [m] := by
  induction members with
  | nil => contradiction
  | cons first members ih =>
    obtain ⟨hnot, hrest⟩ := List.nodup_cons.mp hnodup
    rcases List.mem_cons.mp hm with rfl | hm
    · rw [List.filter_cons_of_pos (by simp), List.filter_eq_nil_iff.mpr]
      intro other hother hsame
      exact hnot (of_decide_eq_true hsame ▸ List.mem_map_of_mem hother)
    · have hother : first.1 ≠ m.1 := fun hsame => hnot (hsame ▸ List.mem_map_of_mem hm)
      rw [List.filter_cons_of_neg (by simpa using hother), ih hrest hm]

theorem member?_of_mem {members : List (List Char × Json)} (hnodup : (members.map Prod.fst).Nodup)
    {m : List Char × Json} (hm : m ∈ members) : member? m.1 members = some (some m.2) := by
  unfold member?
  rw [filter_name hnodup hm]

/-- **A record has the parts that it was written with**, each under its name. -/
theorem parts?_object {members : List (List Char × Json)} {names : List (List Char)}
    (hnames : members.map Prod.fst = names) (h : ProperNames names) :
    parts? names (.object members) = some (members.map fun m => some m.2) := by
  subst hnames
  obtain ⟨hplain, hnodup⟩ := h
  have hfound : ∀ part : List (List Char × Json), part ⊆ members →
      (part.map Prod.fst).mapM (member? · members) = some (part.map fun m => some m.2) := by
    intro part hsub
    induction part with
    | nil => rfl
    | cons m part ih =>
      obtain ⟨hm, hpart⟩ := List.cons_subset.mp hsub
      rw [List.map_cons, List.mapM_cons, member?_of_mem hnodup hm, ih hpart]
      rfl
  show (named? members).bind (fun found => (members.map Prod.fst).mapM (member? · found)) = _
  rw [named?_of_plain hplain]
  exact hfound members (List.Subset.refl _)

theorem plain_record {members : List (List Char × Json)} {names : List (List Char)}
    (hnames : members.map Prod.fst = names) (h : ProperNames names)
    (hvalues : ∀ v ∈ members.map Prod.snd, v.Plain) : (object members).Plain := by
  subst hnames
  exact plain_object fun m hm =>
    ⟨h.1 m.1 (List.mem_map_of_mem hm), hvalues m.2 (List.mem_map_of_mem hm)⟩

end Json

/-! ## Numbers and truth values -/

instance : LawfulJsonForm UInt8 where
  ofJson?_toJson n := Json.map_toNatBelow?_ofNat n.toNat_lt UInt8.ofNat_toNat
  plain_toJson _ := Json.plain_ofNat _

instance : LawfulJsonForm UInt16 where
  ofJson?_toJson n := Json.map_toNatBelow?_ofNat n.toNat_lt UInt16.ofNat_toNat
  plain_toJson _ := Json.plain_ofNat _

instance : LawfulJsonForm UInt32 where
  ofJson?_toJson n := Json.map_toNatBelow?_ofNat n.toNat_lt UInt32.ofNat_toNat
  plain_toJson _ := Json.plain_ofNat _

instance : LawfulJsonForm Int32 where
  ofJson?_toJson z :=
    Json.map_toIntWithin?_ofInt z.minValue_le_toInt z.toInt_le (Int32.ofInt_toInt z)
  plain_toJson _ := Json.plain_ofInt _

instance : LawfulJsonForm Int64 where
  ofJson?_toJson z :=
    Json.map_toIntWithin?_ofInt z.minValue_le_toInt z.toInt_le (Int64.ofInt_toInt z)
  plain_toJson _ := Json.plain_ofInt _

instance : LawfulJsonForm Bool where
  ofJson?_toJson _ := rfl
  plain_toJson _ := List.forall_mem_singleton.mpr trivial

instance {α : Type} [JsonForm α] [LawfulJsonForm α] : LawfulJsonForm (List α) where
  ofJson?_toJson as := by
    show (as.map toJson).mapM ofJson? = some as
    induction as with
    | nil => rfl
    | cons a as ih =>
      rw [List.map_cons, List.mapM_cons, ofJson?_toJson, ih]
      rfl
  plain_toJson as := by
    refine Json.plain_array fun v hv => ?_
    obtain ⟨a, -, rfl⟩ := List.mem_map.mp hv
    exact plain_toJson a

/-! ## Selections -/

namespace Selection

theorem ofJsonName?_jsonName (a : Action) (x : Extreme) :
    ofJsonName? (jsonName a x) = some (a, x) := by
  cases a <;> cases x <;> rfl

theorem plainBody_jsonName (a : Action) (x : Extreme) : JsonToken.PlainBody (jsonName a x) := by
  cases a <;> cases x <;> decide

instance : LawfulJsonForm Selection where
  ofJson?_toJson s := by
    have hname : JsonToken.unescape (jsonName s.action s.extreme) =
        some (jsonName s.action s.extreme) :=
      JsonToken.unescape_plain fun c hc => (plainBody_jsonName _ _ c hc).2.1
    show ((JsonToken.unescape (jsonName s.action s.extreme)).bind fun name =>
      (ofJsonName? name).bind fun kind => (ofJson? (toJson s.number)).bind fun number =>
        some (Selection.mk kind.1 kind.2 number)) = some s
    rw [hname, Option.bind_some, ofJsonName?_jsonName, Option.bind_some, ofJson?_toJson]
    rfl
  plain_toJson s :=
    Json.plain_object (List.forall_mem_singleton.mpr ⟨plainBody_jsonName _ _, plain_toJson _⟩)

end Selection

/-- No selection is written like a missing one. -/
instance : LawfulJsonForm (Option Selection) where
  ofJson?_toJson selection := by
    cases selection with
    | none => rfl
    | some s =>
      show (ofJson? (toJson s)).map some = some (some s)
      rw [ofJson?_toJson]
      rfl
  plain_toJson selection := by
    cases selection with
    | none => exact List.forall_mem_singleton.mpr trivial
    | some s => exact plain_toJson s

/-! ## Records -/

/-- The names of the parts of dice. -/
def Dice.partNames : List (List Char) :=
  ["count".toList, "sides".toList, "modifier".toList, "selection".toList]

theorem Dice.properNames : Json.ProperNames Dice.partNames := by decide

instance : LawfulJsonForm Dice where
  ofJson?_toJson d := by
    have hparts : (toJson d).parts? Dice.partNames =
        some [some (toJson d.count), some (toJson d.sides), some (toJson d.modifier),
          some (toJson d.selection)] :=
      Json.parts?_object rfl Dice.properNames
    show ((toJson d).parts? Dice.partNames).bind _ = _
    rw [hparts, Option.bind_some]
    simp only [Option.getD_some, ofJson?_toJson]
    rfl
  plain_toJson d :=
    Json.plain_record rfl Dice.properNames (by simp [plain_toJson])

/-- The names of the parts of a die. -/
def Die.partNames : List (List Char) := ["val".toList, "kept".toList]

theorem Die.properNames : Json.ProperNames Die.partNames := by decide

instance : LawfulJsonForm Die where
  ofJson?_toJson d := by
    have hparts : (toJson d).parts? Die.partNames =
        some [some (toJson d.val), some (toJson d.kept)] :=
      Json.parts?_object rfl Die.properNames
    show ((toJson d).parts? Die.partNames).bind _ = _
    rw [hparts, Option.bind_some]
    simp only [ofJson?_toJson]
    rfl
  plain_toJson d :=
    Json.plain_record rfl Die.properNames (by simp [plain_toJson])

/-- The names of the parts of a roll. -/
def Roll.partNames : List (List Char) :=
  ["dice".toList, "rolls".toList, "subtotal".toList, "modifier".toList, "total".toList]

theorem Roll.properNames : Json.ProperNames Roll.partNames := by decide

instance : LawfulJsonForm Roll where
  ofJson?_toJson r := by
    have hparts : (toJson r).parts? Roll.partNames =
        some [some (toJson r.dice), some (toJson r.rolls), some (toJson r.subtotal),
          some (toJson r.modifier), some (toJson r.total)] :=
      Json.parts?_object rfl Roll.properNames
    show ((toJson r).parts? Roll.partNames).bind _ = _
    rw [hparts, Option.bind_some]
    simp only [ofJson?_toJson]
    rfl
  plain_toJson r :=
    Json.plain_record rfl Roll.properNames (by simp [plain_toJson])

/-- **Nothing is lost in JSON.**  Dice, selections, dice on the table and rolls are read back from
their JSON text exactly as they were, whatever their parts are and whether or not these belong
together. -/
theorem read_back_from_json :
    (∀ d : Dice, ofJsonText? (toJsonText d) = some d) ∧
      (∀ s : Selection, ofJsonText? (toJsonText s) = some s) ∧
      (∀ d : Die, ofJsonText? (toJsonText d) = some d) ∧
      ∀ r : Roll, ofJsonText? (toJsonText r) = some r :=
  ⟨ofJsonText?_toJsonText, ofJsonText?_toJsonText, ofJsonText?_toJsonText, ofJsonText?_toJsonText⟩

end TabletopDice
