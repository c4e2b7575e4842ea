import CodeAtlas.Sequence
import CodeAtlas.Signature

set_option autoImplicit false

namespace CodeAtlas.Scan

def sledByte : UInt8 := 0x90

def sledMatch (r : Run UInt8) : Match :=
  Match.inBuffer r.start r.items.toArray (some ("nop_sled_" ++ Text.decimal r.length)) none

def sleds (minLength : Int) (data : Bytes) : List Match :=
  ((runs (· == sledByte) data.toList).filter fun r => decide (minLength ≤ r.length)).map sledMatch

def isPrintable (b : UInt8) : Bool := 0x20 ≤ b && b ≤ 0x7E

/-- Whether a byte belongs to a string: printable, a tab or the end of a line. -/
def isText (b : UInt8) : Bool := isPrintable b || b == 0x09 || b == 0x0A || b == 0x0D

def stringMatch (r : Run UInt8) : Match :=
  let text := Bytes.asciiText r.items
  Match.inBuffer r.start r.items.toArray (some ("String: " ++ text)) (some text)

def strings (minLength : Int) (data : Bytes) : List Match :=
  ((runs isText data.toList).filter fun r => decide (minLength ≤ r.length)).map stringMatch

/-- The pairs of bytes at even offsets; a single byte at the end is left out. -/
def pairs : List UInt8 → List (UInt8 × UInt8)
  | low :: high :: rest => (low, high) :: pairs rest
  | _ => []

/-- Whether a pair is a wide character: a printable low byte and a high byte below 0x20. -/
def isWideChar (p : UInt8 × UInt8) : Bool := isPrintable p.1 && p.2 < 0x20

def wideMatch (r : Run (UInt8 × UInt8)) : Match :=
  let text := Bytes.asciiText (r.items.map Prod.fst)
  Match.inBuffer (2 * r.start) (r.items.flatMap fun p => [p.1, p.2]).toArray
    (some ("WideString: " ++ text)) (some text)

/-- The wide strings of at least half the given length in characters. A string that has no end in
the buffer is left out. -/
def wideStrings (minLength : Int) (data : Bytes) : List Match :=
  let ps := pairs data.toList
  ((runs isWideChar ps).filter fun r =>
    decide (Int.fdiv minLength 2 ≤ r.length) && decide (r.stop < ps.length)).map wideMatch

def allStrings (minLength : Int) (wide : Bool) (data : Bytes) : List Match :=
  sortBy (·.offset) (strings minLength data ++ if wide then wideStrings minLength data else [])

end CodeAtlas.Scan
