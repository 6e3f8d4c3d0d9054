import TabletopDice.Json
import TabletopDice.Proofs.JsonTokens

/-! # JSON values read back

The reader goes through the tokens of a value and comes out with this value,
whatever containers are open around it and whatever follows (`Json.reads`).  The
tokens of a value hold no two numbers in a row, so a value whose numbers and
strings are plain is read from its text as well (`Json.ofText?_text`).
-/
namespace TabletopDice
namespace JsonToken

/-! ## Tokens with nothing between them -/

theorem isChain_cons {t : JsonToken} {tokens : List JsonToken} (ht : t.isNumber = false)
    (h : tokens.IsChain Apart) : (t :: tokens).IsChain Apart := by
  cases tokens with
  | nil => exact List.isChain_singleton t
  | cons u tokens => exact List.isChain_cons_cons.mpr ⟨Or.inl ht, h⟩

theorem isChain_append_cons {front back : List JsonToken} {t : JsonToken} (ht : t.isNumber = false)
    (hfront : front.IsChain Apart) (hback : back.IsChain Apart) :
    (front ++ t :: back).IsChain Apart := by
  refine List.isChain_append.mpr ⟨hfront, isChain_cons ht hback, fun x _ y hy => ?_⟩
  cases hy
  exact Or.inr ht

end JsonToken

namespace Json

open JsonToken (Apart isChain_cons isChain_append_cons)

/-! ## The shape of values -/

/-- What holds of an array and of an object whenever it holds of all values in them, holds of every
value. -/
theorem induction {P : Json → Prop} (null : P null) (bool : ∀ b, P (bool b))
    (number : ∀ lexeme, P (number lexeme)) (string : ∀ body, P (string body))
    (array : ∀ items, (∀ v ∈ items, P v) → P (array items))
    (object : ∀ members, (∀ m ∈ members, P m.2) → P (object members)) (v : Json) : P v := by
  match v with
  | .null => exact null
  | .bool b => exact bool b
  | .number lexeme => exact number lexeme
  | .string body => exact string body
  | .array items =>
    exact array items fun v _ => induction null bool number string array object v
  | .object members =>
    exact object members fun m _ => induction null bool number string array object m.2
termination_by sizeOf v
decreasing_by
  · rename_i hv
    have hlt := List.sizeOf_lt_of_mem hv
    simp only [Json.array.sizeOf_spec]
    omega
  · rename_i hm
    have hlt := List.sizeOf_lt_of_mem hm
    obtain ⟨name, v⟩ := m
    simp only [Json.object.sizeOf_spec, Prod.mk.sizeOf_spec] at hlt ⊢
    omega

/-- What is written behind an item of an array. -/
def itemsBehind : List Json → List JsonToken
  | [] => [.closeArray]
  | v :: items => .comma :: (tokens v ++ itemsBehind items)

/-- What is written behind a member of an object. -/
def membersBehind : List (List Char × Json) → List JsonToken
  | [] => [.closeObject]
  | (name, v) :: members => .comma :: .string name :: .colon :: (tokens v ++ membersBehind members)

theorem itemTokens_cons (v : Json) (items : List Json) :
    itemTokens (v :: items) = tokens v ++ itemsBehind items := by
  induction items generalizing v with
  | nil => rfl
  | cons w items ih => rw [itemTokens, ih, itemsBehind]

theorem memberTokens_cons (name : List Char) (v : Json) (members : List (List Char × Json)) :
    memberTokens ((name, v) :: members) =
      .string name :: .colon :: (tokens v ++ membersBehind members) := by
  induction members generalizing name v with
  | nil => rfl
  | cons m members ih =>
    obtain ⟨name', w⟩ := m
    rw [memberTokens, ih, membersBehind]
    rfl

/-! ## Numbers are set apart -/

theorem isChain_itemsBehind {items : List Json} (h : ∀ v ∈ items, (tokens v).IsChain Apart)
    {front : List JsonToken} (hfront : front.IsChain Apart) :
    (front ++ itemsBehind items).IsChain Apart := by
  induction items generalizing front with
  | nil => exact isChain_append_cons rfl hfront List.isChain_nil
  | cons v items ih =>
    obtain ⟨hv, hitems⟩ := List.forall_mem_cons.mp h
    exact isChain_append_cons rfl hfront (ih hitems hv)

theorem isChain_membersBehind {members : List (List Char × Json)}
    (h : ∀ m ∈ members, (tokens m.2).IsChain Apart) {front : List JsonToken}
    (hfront : front.IsChain Apart) : (front ++ membersBehind members).IsChain Apart := by
  induction members generalizing front with
  | nil => exact isChain_append_cons rfl hfront List.isChain_nil
  | cons m members ih =>
    obtain ⟨hm, hmembers⟩ := List.forall_mem_cons.mp h
    exact isChain_append_cons rfl hfront (isChain_cons rfl (isChain_cons rfl (ih hmembers hm)))

/-- Behind a number in a value there is a mark or a bracket, never a number. -/
theorem isChain_tokens (v : Json) : (tokens v).IsChain Apart := by
  induction v using induction with
  | null | bool b | number lexeme | string body => exact List.isChain_singleton _
  | array items ih =>
    cases items with
    | nil => exact isChain_cons rfl (List.isChain_singleton _)
    | cons v items =>
      obtain ⟨hv, hitems⟩ := List.forall_mem_cons.mp ih
      rw [tokens, itemTokens_cons]
      exact isChain_cons rfl (isChain_itemsBehind hitems hv)
  | object members ih =>
    cases members with
    | nil => exact isChain_cons rfl (List.isChain_singleton _)
    | cons m members =>
      obtain ⟨hm, hmembers⟩ := List.forall_mem_cons.mp ih
      rw [tokens, memberTokens_cons]
      exact isChain_cons rfl (isChain_cons rfl
        (isChain_cons rfl (isChain_membersBehind hmembers hm)))

/-! ## Tokens read as values -/

/-- The tokens of a value are read as this value, within any containers and in front of any
tokens. -/
def Reads (v : Json) : Prop :=
  ∀ (stack : List Frame) (rest : List JsonToken),
    (tokens v ++ rest).foldlM step (.value stack) = rest.foldlM step (.done v stack)

/-- The first item of an array is read like a further one. -/
theorem foldlM_firstItem (v : Json) (stack : List Frame) (rest : List JsonToken) :
    (tokens v ++ rest).foldlM step (.firstItem stack) =
      (tokens v ++ rest).foldlM step (.value (.array [] :: stack)) := by
  cases v <;> rfl

/-- An array is finished from any of its items on. -/
theorem foldlM_itemsBehind {items : List Json} (h : ∀ v ∈ items, Reads v) (v : Json)
    (before : List Json) (stack : List Frame) (rest : List JsonToken) :
    (itemsBehind items ++ rest).foldlM step (.done v (.array before :: stack)) =
      rest.foldlM step (.done (.array (before.reverse ++ v :: items)) stack) := by
  induction items generalizing v before with
  | nil =>
    show rest.foldlM step (.done (.array (v :: before).reverse) stack) = _
    rw [List.reverse_cons]
  | cons w items ih =>
    obtain ⟨hw, hitems⟩ := List.forall_mem_cons.mp h
    show (tokens w ++ itemsBehind items ++ rest).foldlM step
      (.value (.array (v :: before) :: stack)) = _
    rw [List.append_assoc, hw, ih hitems, List.reverse_cons, List.append_assoc]
    rfl

/-- An object is finished from any of its members on. -/
theorem foldlM_membersBehind {members : List (List Char × Json)} (h : ∀ m ∈ members, Reads m.2)
    (name : List Char) (v : Json) (before : List (List Char × Json)) (stack : List Frame)
    (rest : List JsonToken) :
    (membersBehind members ++ rest).foldlM step (.done v (.object before name :: stack)) =
      rest.foldlM step (.done (.object (before.reverse ++ (name, v) :: members)) stack) := by
  induction members generalizing name v before with
  | nil =>
    show rest.foldlM step (.done (.object ((name, v) :: before).reverse) stack) = _
    rw [List.reverse_cons]
  | cons m members ih =>
    obtain ⟨name', w⟩ := m
    obtain ⟨hw, hmembers⟩ := List.forall_mem_cons.mp h
    show (tokens w ++ membersBehind members ++ rest).foldlM step
      (.value (.object ((name, v) :: before) name' :: stack)) = _
    rw [List.append_assoc, hw, ih hmembers, List.reverse_cons, List.append_assoc]
    rfl

theorem reads (v : Json) : Reads v := by
  induction v using induction with
  | null | bool b | number lexeme | string body => exact fun stack rest => rfl
  | array items ih =>
    intro stack rest
    cases items with
    | nil => rfl
    | cons v items =>
      obtain ⟨hv, hitems⟩ := List.forall_mem_cons.mp ih
      show (itemTokens (v :: items) ++ rest).foldlM step (.firstItem stack) = _
      rw [itemTokens_cons, List.append_assoc, foldlM_firstItem, hv, foldlM_itemsBehind hitems]
      rfl
  | object members ih =>
    intro stack rest
    cases members with
    | nil => rfl
    | cons m members =>
      obtain ⟨name, v⟩ := m
      obtain ⟨hv, hmembers⟩ := List.forall_mem_cons.mp ih
      rw [tokens, memberTokens_cons]
      show (tokens v ++ membersBehind members ++ rest).foldlM step
        (.value (.object [] name :: stack)) = _
      rw [List.append_assoc, hv, foldlM_membersBehind hmembers]
      rfl

/-- **The tokens of a value are read as this value**, whatever is in it. -/
theorem ofTokens?_tokens (v : Json) : ofTokens? v.tokens = some v := by
  have h := reads v [] []
  rw [List.append_nil] at h
  rw [ofTokens?, h]
  rfl

/-! ## Texts read as values -/

/-- The numbers, strings and names in the value can be read in one way. -/
def Plain (v : Json) : Prop := ∀ t ∈ v.tokens, t.Plain

theorem plain_itemsBehind {items : List Json} (h : ∀ v ∈ items, v.Plain) :
    ∀ t ∈ itemsBehind items, t.Plain := by
  induction items with
  | nil => exact List.forall_mem_singleton.mpr trivial
  | cons v items ih =>
    obtain ⟨hv, hitems⟩ := List.forall_mem_cons.mp h
    exact List.forall_mem_cons.mpr ⟨trivial, List.forall_mem_append.mpr ⟨hv, ih hitems⟩⟩

theorem plain_array {items : List Json} (h : ∀ v ∈ items, v.Plain) : (array items).Plain := by
  refine List.forall_mem_cons.mpr ⟨trivial, ?_⟩
  cases items with
  | nil => exact List.forall_mem_singleton.mpr trivial
  | cons v items =>
    obtain ⟨hv, hitems⟩ := List.forall_mem_cons.mp h
    rw [itemTokens_cons]
    exact List.forall_mem_append.mpr ⟨hv, plain_itemsBehind hitems⟩

theorem plain_membersBehind {members : List (List Char × Json)}
    (h : ∀ m ∈ members, JsonToken.PlainBody m.1 ∧ m.2.Plain) :
    ∀ t ∈ membersBehind members, t.Plain := by
  induction members with
  | nil => exact List.forall_mem_singleton.mpr trivial
  | cons m members ih =>
    obtain ⟨⟨hname, hv⟩, hmembers⟩ := List.forall_mem_cons.mp h
    exact List.forall_mem_cons.mpr ⟨trivial, List.forall_mem_cons.mpr ⟨hname,
      List.forall_mem_cons.mpr ⟨trivial, List.forall_mem_append.mpr ⟨hv, ih hmembers⟩⟩⟩⟩

theorem plain_object {members : List (List Char × Json)}
    (h : ∀ m ∈ members, JsonToken.PlainBody m.1 ∧ m.2.Plain) : (object members).Plain := by
  refine List.forall_mem_cons.mpr ⟨trivial, ?_⟩
  cases members with
  | nil => exact List.forall_mem_singleton.mpr trivial
  | cons m members =>
    obtain ⟨⟨hname, hv⟩, hmembers⟩ := List.forall_mem_cons.mp h
    rw [memberTokens_cons]
    exact List.forall_mem_cons.mpr ⟨hname, List.forall_mem_cons.mpr ⟨trivial,
      List.forall_mem_append.mpr ⟨hv, plain_membersBehind hmembers⟩⟩⟩

/-- **A value is read from its text**, if its numbers and strings are plain. -/
theorem ofText?_text {v : Json} (h : v.Plain) : ofText? v.text = some v := by
  rw [ofText?, text, JsonToken.ofText_flatMap_text h (isChain_tokens v)]
  exact ofTokens?_tokens v

end Json
end TabletopDice
