import CodeAtlas.Image.Header
import CodeAtlas.Listing
import CodeAtlas.Sequence

/-!
# Linear sweep

Code is decoded from front to back. As long as the listing knows an instruction that fits into the
rest of the code, the next one is looked up behind it; where it knows none, one byte is skipped.
-/

set_option autoImplicit false

namespace CodeAtlas

structure Placed where
  position : Nat
  entry : Listing.Entry
  deriving Repr, DecidableEq

namespace Sweep

def addressAt (address : Int) (position : Nat) : Int :=
  (address + position) % Listing.addressSpace

/-- The listed instruction at a position, if it fits into the code. -/
def entryAt? (listing : Listing) (size : Nat) (address : Int) (position : Nat) :
    Option Listing.Entry :=
  (listing.get? (addressAt address position)).filter fun e => position + e.size ≤ size

def streak (listing : Listing) (size : Nat) (address : Int) (position : Nat) : List Placed :=
  if _h : position < size then
    match entryAt? listing size address position with
    | none => []
    | some e => ⟨position, e⟩ :: streak listing size address (position + e.size)
  else []
termination_by size - position
decreasing_by
  have hpos := e.size_pos
  omega

def bytesOf (placed : List Placed) : Nat := placed.foldr (fun p n => p.entry.size + n) 0

end Sweep

structure Sweep where
  placed : List Placed
  skipped : Nat
  deriving Repr, DecidableEq

namespace Sweep

/-- The sweep from a position on: a streak, then, unless the code is at its end, one byte skipped
and the sweep of the rest. -/
def sweepFrom (listing : Listing) (size : Nat) (address : Int) (position : Nat) : Sweep :=
  let found := streak listing size address position
  if _h : position + bytesOf found < size then
    let rest := sweepFrom listing size address (position + bytesOf found + 1)
    ⟨found ++ rest.placed, rest.skipped + 1⟩
  else ⟨found, 0⟩
termination_by size - position
decreasing_by omega

def ofCode (listing : Listing) (code : Bytes) (address : Int) : Sweep :=
  sweepFrom listing code.size address 0

def instructionOf (code : Bytes) (address : Int) (bitness : Bitness) (fileOffset : Int)
    (p : Placed) : Instruction :=
  p.entry.instruction bitness (addressAt address p.position)
    (code.extract p.position (p.position + p.entry.size)) (fileOffset + p.position)

def decode (listing : Listing) (code : Bytes) (address : Int) (bitness : Bitness)
    (fileOffset : Int) : Stream :=
  (ofCode listing code address).placed.map (instructionOf code address bitness fileOffset)

def decodeEvents (listing : Listing) (code : Bytes) (address : Int) : List Event :=
  let skipped := (ofCode listing code address).skipped
  if skipped = 0 then [] else [.bytesSkipped address skipped code.size]

def codeSections (h : Image.Header) : List Image.Section :=
  (sortBy (fun s => (s.virtualAddress : Int)) h.sections).filter fun s =>
    s.isExecutable && s.rawSize ≠ 0

def decodeSection (listing : Listing) (data : Bytes) (h : Image.Header) (s : Image.Section) :
    Stream :=
  decode listing (s.code data) (h.imageBase + s.virtualAddress : Nat) h.bitness s.rawPointer

def decodeSections (listing : Listing) (data : Bytes) (h : Image.Header) : Stream :=
  (codeSections h).flatMap (decodeSection listing data h)

def sectionEvents (listing : Listing) (data : Bytes) (h : Image.Header) : List Event :=
  (codeSections h).flatMap fun s =>
    decodeEvents listing (s.code data) (h.imageBase + s.virtualAddress : Nat) ++
      [.sectionDecoded s.name (decodeSection listing data h s).length]

end Sweep

end CodeAtlas
