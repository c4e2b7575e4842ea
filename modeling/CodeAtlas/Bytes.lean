import CodeAtlas.Text.Basic

set_option autoImplicit false

namespace CodeAtlas

abbrev Bytes := Array UInt8

namespace Bytes

def littleEndian : List UInt8 → Nat
  | [] => 0
  | b :: rest => b.toNat + 256 * littleEndian rest

def word? (width : Nat) (data : Bytes) (position : Nat) : Option Nat :=
  if position + width ≤ data.size then
    some (littleEndian (data.extract position (position + width)).toList)
  else none

def u16? (data : Bytes) (position : Nat) : Option Nat := word? 2 data position

def u32? (data : Bytes) (position : Nat) : Option Nat := word? 4 data position

def u64? (data : Bytes) (position : Nat) : Option Nat := word? 8 data position

/-- The number of `width` bytes at a signed position; nothing stands before the start. -/
def wordAt? (width : Nat) (data : Bytes) (offset : Int) : Option Nat :=
  if offset < 0 then none else word? width data offset.toNat

/-- The character of a byte; a byte outside ASCII shows as the replacement character. -/
def asciiChar (b : UInt8) : Char :=
  if b < 0x80 then Char.ofNat b.toNat else Char.ofNat 0xFFFD

def asciiText (bs : List UInt8) : String := String.ofList (bs.map asciiChar)

def stringLimit : Nat := 256

def string? (data : Bytes) (position : Nat) (limit : Nat) : Option String :=
  if position < data.size then
    some (asciiText ((data.extract position (position + limit)).toList.takeWhile (· ≠ 0)))
  else none

def stringAt? (data : Bytes) (position : Option Nat) : Option String :=
  position.bind fun p => string? data p stringLimit

/-- The text at a signed position that may be missing. An end before the start of the buffer is
counted from the end of the buffer. -/
def stringWithin? (data : Bytes) (offset : Option Int) (limit : Int) : Option String :=
  match offset with
  | none => none
  | some start =>
    if start < 0 then none
    else
      let stop := start + limit
      let stop := if stop < 0 then (data.size + stop).toNat else stop.toNat
      string? data start.toNat (stop - start.toNat)

def hexPair (b : UInt8) : List Char :=
  [Text.digitChar (b.toNat / 16), Text.digitChar (b.toNat % 16)]

def toHex (data : Bytes) : String := String.ofList (data.toList.flatMap hexPair)

def toSpacedHex (data : Bytes) : String :=
  " ".intercalate (data.toList.map fun b => String.ofList (hexPair b))

/-- Reads pairs of hexadecimal digits from characters whose first one has the given position. A
failure gives the position of the character that is not a digit, or of the end of the text. -/
def readHex (position : Nat) : List Char → Except Nat (List UInt8)
  | [] => .ok []
  | c :: rest =>
    if Text.isAsciiBlank c then readHex (position + 1) rest
    else match Text.hexValue? c, rest with
      | none, _ => .error position
      | some _, [] => .error (position + 1)
      | some high, d :: others =>
        match Text.hexValue? d with
        | none => .error (position + 1)
        | some low =>
          match readHex (position + 2) others with
          | .ok bytes => .ok (UInt8.ofNat (high * 16 + low) :: bytes)
          | .error p => .error p

/-- The bytes that a hexadecimal text denotes. A text outside ASCII fails at its first character
outside ASCII, any other at the first character that is not a digit in its place. -/
def ofHex (s : String) : Except Nat Bytes :=
  match s.toList.findIdx? (·.toNat ≥ 0x80) with
  | some p => .error p
  | none => (readHex 0 s.toList).map List.toArray

end Bytes

end CodeAtlas
