import CodeAtlas.Table

set_option autoImplicit false

namespace CodeAtlas

inductive Json where
  | null
  | bool (b : Bool)
  | number (n : Int)
  | decimal (literal : String)
  | string (s : String)
  | array (items : List Json)
  | object (members : List (String × Json))
  deriving Repr, Inhabited, BEq

namespace Json

def member? (key : String) : Json → Option Json
  | .object members => members.lookup key
  | _ => none

def ofOption {α : Type} (f : α → Json) : Option α → Json
  | none => .null
  | some a => f a

def nat (n : Nat) : Json := .number n

def integers (xs : List Int) : Json := .array (xs.map .number)

end Json

end CodeAtlas
