import CodeAtlas.Sequence

/-!
# Texts

Classes of characters are lists of closed intervals of code points. Blanks are the white space of
the Unicode character database together with the four information separators U+001C to U+001F.
Decimal digits come in blocks of ten consecutive code points, one block per script, and each block
starts with its zero. A path is shown without empty parts and without the parts that name the
current directory.
-/

set_option autoImplicit false

namespace CodeAtlas.Text

/-! ## Blanks -/

/-- Closed intervals of code points, ascending and disjoint. -/
abbrev CharRanges := List (Nat × Nat)

def CharRanges.covers : CharRanges → Nat → Bool
  | [], _ => false
  | (low, high) :: rest, n => if n < low then false else n ≤ high || covers rest n

def blankRanges : CharRanges :=
  [(0x9, 0xD), (0x1C, 0x20), (0x85, 0x85), (0xA0, 0xA0), (0x1680, 0x1680), (0x2000, 0x200A),
   (0x2028, 0x2029), (0x202F, 0x202F), (0x205F, 0x205F), (0x3000, 0x3000)]

def isBlank (c : Char) : Bool := blankRanges.covers c.toNat

def isAsciiBlank (c : Char) : Bool := c == ' ' || ('\t' ≤ c && c ≤ '\r')

def trimWhile {α : Type} (p : α → Bool) (xs : List α) : List α :=
  ((xs.dropWhile p).reverse.dropWhile p).reverse

def trim (s : String) : String := String.ofList (trimWhile isBlank s.toList)

def words (s : String) : List String :=
  (runs (!isBlank ·) s.toList).map fun run => String.ofList run.items

/-! ## Digits -/

/-- The code points of the digit zero in every script that has decimal digits. -/
def zeroDigits : List Nat :=
  [0x30, 0x660, 0x6F0, 0x7C0, 0x966, 0x9E6, 0xA66, 0xAE6, 0xB66, 0xBE6, 0xC66, 0xCE6, 0xD66, 0xDE6,
   0xE50, 0xED0, 0xF20, 0x1040, 0x1090, 0x17E0, 0x1810, 0x1946, 0x19D0, 0x1A80, 0x1A90, 0x1B50,
   0x1BB0, 0x1C40, 0x1C50, 0xA620, 0xA8D0, 0xA900, 0xA9D0, 0xA9F0, 0xAA50, 0xABF0, 0xFF10, 0x104A0,
   0x10D30, 0x11066, 0x110F0, 0x11136, 0x111D0, 0x112F0, 0x11450, 0x114D0, 0x11650, 0x116C0,
   0x11730, 0x118E0, 0x11950, 0x11C50, 0x11D50, 0x11DA0, 0x16A60, 0x16AC0, 0x16B50, 0x1D7CE,
   0x1D7D8, 0x1D7E2, 0x1D7EC, 0x1D7F6, 0x1E140, 0x1E2F0, 0x1E950, 0x1FBF0]

def decimalValue? (c : Char) : Option Nat :=
  let n := c.toNat
  (zeroDigits.find? fun z => z ≤ n && n < z + 10).map (n - ·)

def hexValue? (c : Char) : Option Nat :=
  if '0' ≤ c ∧ c ≤ '9' then some (c.toNat - '0'.toNat)
  else if 'a' ≤ c ∧ c ≤ 'f' then some (c.toNat - 'a'.toNat + 10)
  else if 'A' ≤ c ∧ c ≤ 'F' then some (c.toNat - 'A'.toNat + 10)
  else none

/-- The value of a character as a digit below the given base, for bases up to sixteen. -/
def digitValue? (base : Nat) (c : Char) : Option Nat :=
  match (decimalValue? c <|> hexValue? c) with
  | some v => if v < base then some v else none
  | none => none

def digitChar (v : Nat) : Char :=
  if v < 10 then Char.ofNat ('0'.toNat + v) else Char.ofNat ('a'.toNat + (v - 10))

def capitalDigitChar (v : Nat) : Char :=
  if v < 10 then Char.ofNat ('0'.toNat + v) else Char.ofNat ('A'.toNat + (v - 10))

/-! ## Paths -/

def pathParts (path : String) : List String :=
  (path.splitOn "/").filter fun part => part ≠ "" ∧ part ≠ "."

/-- The slashes that a path starts with: exactly two are kept, any other number counts as one. -/
def pathRoot (path : String) : String :=
  match path.toList with
  | '/' :: '/' :: '/' :: _ => "/"
  | '/' :: '/' :: _ => "//"
  | '/' :: _ => "/"
  | _ => ""

def showPath (path : String) : String :=
  let shown := pathRoot path ++ "/".intercalate (pathParts path)
  if shown = "" then "." else shown

/-- A path below a directory; a path that starts with a slash stands for itself. -/
def joinPath (directory path : String) : String :=
  if pathRoot path ≠ "" then showPath path else showPath (directory ++ "/" ++ path)

/-- The last part of a path up to its last dot. A dot in the first or last place does not count. -/
def pathStem (path : String) : String :=
  let name := (pathParts path).getLast?.getD ""
  let cs := name.toList
  let ending := cs.reverse.takeWhile (· ≠ '.')
  let cut := cs.length - ending.length - 1
  if ending.length < cs.length ∧ 0 < cut ∧ ending ≠ [] then String.ofList (cs.take cut) else name

end CodeAtlas.Text
