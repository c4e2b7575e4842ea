import CodeAtlas.Json.Basic
import CodeAtlas.Text.Numeral
import CodeAtlas.Text.Quoted

set_option autoImplicit false

namespace CodeAtlas.Json

structure Layout where
  /-- The blanks by which a level is indented; without it the text has one line. -/
  indent : Option Nat
  ascii : Bool

def Layout.compact : Layout := ⟨none, true⟩

def unitEscape (n : Nat) : List Char := '\\' :: 'u' :: Text.paddedHex 4 n

/-- A code point as one unit, or as two above the basic plane. -/
def charEscape (c : Char) : List Char :=
  if c.toNat < 0x10000 then unitEscape c.toNat
  else
    unitEscape (0xD800 + (c.toNat - 0x10000) / 0x400) ++
      unitEscape (0xDC00 + (c.toNat - 0x10000) % 0x400)

def stringChar (ascii : Bool) (c : Char) : List Char :=
  if c = Text.doubleQuote ∨ c = '\\' then ['\\', c]
  else if c = '\n' then ['\\', 'n']
  else if c = '\r' then ['\\', 'r']
  else if c = '\t' then ['\\', 't']
  else if c = '\x08' then ['\\', 'b']
  else if c = '\x0c' then ['\\', 'f']
  else if c.toNat < 0x20 ∨ (ascii ∧ 0x7F ≤ c.toNat) then charEscape c
  else [c]

def stringText (ascii : Bool) (s : String) : List Char :=
  Text.doubleQuote :: s.toList.flatMap (stringChar ascii) ++ [Text.doubleQuote]

def Layout.newline (layout : Layout) (depth : Nat) : List Char :=
  match layout.indent with
  | none => []
  | some width => '\n' :: List.replicate (width * depth) ' '

def Layout.separator (layout : Layout) (depth : Nat) : List Char :=
  match layout.indent with
  | none => [',', ' ']
  | some _ => ',' :: layout.newline depth

mutual

def valueText (layout : Layout) (depth : Nat) : Json → List Char
  | .null => ['n', 'u', 'l', 'l']
  | .bool true => ['t', 'r', 'u', 'e']
  | .bool false => ['f', 'a', 'l', 's', 'e']
  | .number n => (Text.decimal n).toList
  | .decimal literal => literal.toList
  | .string s => stringText layout.ascii s
  | .array [] => ['[', ']']
  | .array (item :: items) =>
    '[' :: layout.newline (depth + 1) ++ valueText layout (depth + 1) item ++
      itemsText layout (depth + 1) items ++ layout.newline depth ++ [']']
  | .object [] => ['\x7b', '\x7d']
  | .object ((key, value) :: members) =>
    '\x7b' :: layout.newline (depth + 1) ++ stringText layout.ascii key ++ [':', ' '] ++
      valueText layout (depth + 1) value ++ membersText layout (depth + 1) members ++
      layout.newline depth ++ ['\x7d']

def itemsText (layout : Layout) (depth : Nat) : List Json → List Char
  | [] => []
  | item :: items =>
    layout.separator depth ++ valueText layout depth item ++ itemsText layout depth items

def membersText (layout : Layout) (depth : Nat) : List (String × Json) → List Char
  | [] => []
  | (key, value) :: members =>
    layout.separator depth ++ stringText layout.ascii key ++ [':', ' '] ++
      valueText layout depth value ++ membersText layout depth members

end

def render (layout : Layout) (value : Json) : String := String.ofList (valueText layout 0 value)

end CodeAtlas.Json
