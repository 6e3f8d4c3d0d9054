import TabletopDice.JsonToken

/-! # JSON values

A JSON text stands for a tree of values.  Objects keep their members in the order
in which they are written, repeated names included.  Reading goes through the
tokens of a text from left to right and keeps the containers that are still open
on a stack, so that nesting may be as deep as the text is long.
-/
namespace TabletopDice

/-- A JSON value; numbers, strings and names are kept as they are written. -/
inductive Json where
  | null
  | bool (b : Bool)
  | number (lexeme : List Char)
  | string (body : List Char)
  | array (items : List Json)
  | object (members : List (List Char × Json))
  deriving Repr

namespace Json

/-! ## Writing -/

mutual

/-- The tokens of a value. -/
def tokens : Json → List JsonToken
  | null => [.null]
  | bool b => [.bool b]
  | number lexeme => [.number lexeme]
  | string body => [.string body]
  | array items => .openArray :: itemTokens items
  | object members => .openObject :: memberTokens members

/-- The tokens of the items of an array, up to its end. -/
def itemTokens : List Json → List JsonToken
  | [] => [.closeArray]
  | [v] => tokens v ++ [.closeArray]
  | v :: w :: rest => tokens v ++ .comma :: itemTokens (w :: rest)

/-- The tokens of the members of an object, up to its end. -/
def memberTokens : List (List Char × Json) → List JsonToken
  | [] => [.closeObject]
  | [(name, v)] => .string name :: .colon :: tokens v ++ [.closeObject]
  | (name, v) :: m :: rest =>
    .string name :: .colon :: tokens v ++ .comma :: memberTokens (m :: rest)

end

/-- The value as text, without blanks. -/
def text (v : Json) : List Char := v.tokens.flatMap JsonToken.text

/-! ## Reading -/

/-- A container that is still open, with what is in it so far, last first. -/
inductive Frame where
  | array (items : List Json)
  /-- An object, and the name of the member whose value is being read. -/
  | object (members : List (List Char × Json)) (name : List Char)
  deriving Repr

/-- What has been read, and what may come next. -/
inductive State where
  /-- A value. -/
  | value (stack : List Frame)
  /-- The first item of an array, or its end. -/
  | firstItem (stack : List Frame)
  /-- The first name of an object, or its end. -/
  | firstName (stack : List Frame)
  /-- A further name of an object with these members. -/
  | name (members : List (List Char × Json)) (stack : List Frame)
  /-- The colon behind a name. -/
  | colon (members : List (List Char × Json)) (name : List Char) (stack : List Frame)
  /-- The comma behind a finished value, or the end of what it is in. -/
  | done (v : Json) (stack : List Frame)
  deriving Repr

/-- Reads the first token of a value. -/
def beginValue (stack : List Frame) : JsonToken → Option State
  | .null => some (.done .null stack)
  | .bool b => some (.done (.bool b) stack)
  | .number lexeme => some (.done (.number lexeme) stack)
  | .string body => some (.done (.string body) stack)
  | .openArray => some (.firstItem stack)
  | .openObject => some (.firstName stack)
  | _ => none

/-- Reads the token behind a value in the innermost open container. -/
def continueValue (v : Json) : List Frame → JsonToken → Option State
  | .array items :: stack, .comma => some (.value (.array (v :: items) :: stack))
  | .array items :: stack, .closeArray => some (.done (.array (v :: items).reverse) stack)
  | .object members name :: stack, .comma => some (.name ((name, v) :: members) stack)
  | .object members name :: stack, .closeObject =>
    some (.done (.object ((name, v) :: members).reverse) stack)
  | _, _ => none

/-- Reads one token. -/
def step : State → JsonToken → Option State
  | .value stack, t => beginValue stack t
  | .firstItem stack, .closeArray => some (.done (.array []) stack)
  | .firstItem stack, t => beginValue (.array [] :: stack) t
  | .firstName stack, .closeObject => some (.done (.object []) stack)
  | .firstName stack, .string name => some (.colon [] name stack)
  | .firstName _, _ => none
  | .name members stack, .string name => some (.colon members name stack)
  | .name _ _, _ => none
  | .colon members name stack, .colon => some (.value (.object members name :: stack))
  | .colon _ _ _, _ => none
  | .done v stack, t => continueValue v stack t

/-- The value that some tokens stand for, if they are those of one value. -/
def ofTokens? (tokens : List JsonToken) : Option Json :=
  match tokens.foldlM step (.value []) with
  | some (.done v []) => some v
  | _ => none

/-- The value that a text stands for. -/
def ofText? (text : List Char) : Option Json := (JsonToken.ofText text).bind ofTokens?

end Json
end TabletopDice
