import CodeAtlas.Json.Token

set_option autoImplicit false

namespace CodeAtlas.Json

inductive Frame where
  /-- An array with its earlier items, the latest first. -/
  | array (before : List Json)
  /-- An object with its earlier members and the key of the value being read. -/
  | object (before : List (String × Json)) (key : String)

inductive Mode where
  | value
  | arrayStart
  | objectStart
  | key (before : List (String × Json))
  | colon (before : List (String × Json)) (key : String)
  | after (value : Json)

/-- The open arrays and objects, innermost first, and what may come next. -/
structure ReadState where
  stack : List Frame
  mode : Mode

def ReadState.startValue (stack : List Frame) : Token → Option ReadState
  | .scalar v => some ⟨stack, .after v⟩
  | .openBracket => some ⟨stack, .arrayStart⟩
  | .openBrace => some ⟨stack, .objectStart⟩
  | _ => none

def ReadState.afterValue (v : Json) : List Frame → Token → Option ReadState
  | .array before :: stack, .comma => some ⟨.array (v :: before) :: stack, .value⟩
  | .array before :: stack, .closeBracket => some ⟨stack, .after (.array (v :: before).reverse)⟩
  | .object before key :: stack, .comma => some ⟨stack, .key (Table.putEntry key v before)⟩
  | .object before key :: stack, .closeBrace =>
    some ⟨stack, .after (.object (Table.putEntry key v before))⟩
  | _, _ => none

def ReadState.step (s : ReadState) (t : Token) : Option ReadState :=
  match s.mode, t with
  | .value, t => startValue s.stack t
  | .arrayStart, .closeBracket => some ⟨s.stack, .after (.array [])⟩
  | .arrayStart, t => startValue (.array [] :: s.stack) t
  | .objectStart, .closeBrace => some ⟨s.stack, .after (.object [])⟩
  | .objectStart, .scalar (.string key) => some ⟨s.stack, .colon [] key⟩
  | .key before, .scalar (.string key) => some ⟨s.stack, .colon before key⟩
  | .colon before key, .colon => some ⟨.object before key :: s.stack, .value⟩
  | .after v, t => afterValue v s.stack t
  | _, _ => none

def ReadState.run (s : ReadState) : List Token → Option ReadState
  | [] => some s
  | t :: rest =>
    match s.step t with
    | some next => next.run rest
    | none => none

def ofTokens? (ts : List Token) : Option Json :=
  match ReadState.run ⟨[], .value⟩ ts with
  | some ⟨[], .after v⟩ => some v
  | _ => none

def parse? (s : String) : Option Json := (tokens? s.toList).bind ofTokens?

end CodeAtlas.Json
