import CodeAtlas.Bytes
import CodeAtlas.InputError
import CodeAtlas.Instruction
import CodeAtlas.Table
import CodeAtlas.Text.Basic

set_option autoImplicit false

namespace CodeAtlas

structure Match where
  address : Int
  offset : Int
  bytes : Bytes
  description : Option String
  text : Option String
  deriving Repr, DecidableEq

namespace Match

def length (m : Match) : Nat := m.bytes.size

def line (m : Match) : String :=
  "Match @ " ++ Text.hex m.address ++ "+" ++ Text.decimal m.offset ++ ": " ++
    m.description.getD "None"

def inBuffer (offset : Nat) (bytes : Bytes) (description text : Option String) : Match :=
  ⟨offset, offset, bytes, description, text⟩

def ofInstructions (p : Instruction → Bool) (description : Option String) (stream : Stream) :
    List Match :=
  (stream.filter p).map fun i => ⟨i.address, i.fileOffset, i.bytes, description, none⟩

/-- The matches of a search in a buffer, which has to be given. -/
def search (find : Bytes → List Match) : Option Bytes → Except InputError (List Match)
  | none => .error .missingBuffer
  | some data => .ok (find data)

end Match

abbrev Signature := List (Option UInt8)

namespace Signature

def place? (word : String) : Option (Option UInt8) :=
  match word.toList with
  | [a, b] =>
    if a = '?' ∧ b = '?' then some none
    else
      match Text.hexValue? a, Text.hexValue? b with
      | some high, some low => some (some (UInt8.ofNat (high * 16 + low)))
      | _, _ => none
  | _ => none

/-- The signature that a text stands for. It has at least one place. -/
def parse? (text : String) : Option Signature :=
  match Text.words text with
  | [] => none
  | words => words.mapM place?

/-- The bytes of a signature, with zeros in the open places. -/
def values (s : Signature) : Bytes := (s.map (·.getD 0)).toArray

def allows (place : Option UInt8) (byte : Option UInt8) : Bool :=
  match place with
  | none => true
  | some _ => byte = place

def matchesAt (s : Signature) (data : Bytes) (offset : Nat) : Bool :=
  s.zipIdx.all fun e => allows e.1 data[offset + e.2]?

def occursAt (bytes data : Bytes) (offset : Nat) : Bool :=
  data.extract offset (offset + bytes.size) == bytes

def nextOccurrence? (bytes data : Bytes) (offset : Nat) : Option Nat :=
  if offset + bytes.size ≤ data.size then
    if occursAt bytes data offset then some offset else nextOccurrence? bytes data (offset + 1)
  else none
termination_by data.size + 1 - offset

theorem nextOccurrence?_bounds {bytes data : Bytes} {offset found : Nat}
    (h : nextOccurrence? bytes data offset = some found) :
    offset ≤ found ∧ found ≤ data.size := by
  fun_induction nextOccurrence? bytes data offset with
  | case1 offset hfits _ =>
    cases h
    omega
  | case2 offset hfits _ ih =>
    have := ih h
    omega
  | case3 => simp at h

def occurrences (bytes data : Bytes) (offset : Nat) : List Nat :=
  match _h : nextOccurrence? bytes data offset with
  | none => []
  | some found => found :: occurrences bytes data (found + 1)
termination_by data.size + 1 - offset
decreasing_by
  have := nextOccurrence?_bounds _h
  omega

def scan (s : Signature) (data : Bytes) : List Nat :=
  (List.range (data.size + 1 - s.length)).filter (s.matchesAt data)

def findWhole (s : Signature) (description : Option String) (data : Bytes) : List Match :=
  (occurrences s.values data 0).map fun o => Match.inBuffer o s.values description none

def findByScan (s : Signature) (description : Option String) (data : Bytes) : List Match :=
  (s.scan data).map fun o => Match.inBuffer o (data.extract o (o + s.length)) description none

/-- The matches of a signature; they may overlap. -/
def find (s : Signature) (description : Option String) (data : Bytes) : List Match :=
  if s.all (·.isSome) then s.findWhole description data else s.findByScan description data

/-- The matches of a signature given as text; a text that is no signature matches nowhere. -/
def findText (pattern : String) (description : Option String) (data : Bytes) : List Match :=
  match parse? pattern with
  | none => []
  | some s => s.find description data

/-- The matches of several signatures under their names, which are also the descriptions of the
matches. The buffer is not needed where there are no signatures. -/
def findEach (patterns : Table String String) (data : Option Bytes) :
    Except InputError (Table String (List Match)) :=
  (patterns.entries.mapM fun e =>
    (Match.search (findText e.2 (some e.1)) data).map (e.1, ·)).map Table.ofList

/-- A frame is set up: the frame pointer is saved and takes the value of the stack pointer. -/
def framePrologues (data : Bytes) : List Match :=
  findText "55 48 89 E5" (some "x64_prologue_rbp") data

def stackSetups (data : Bytes) : List Match := findText "48 83 EC ??" (some "stack_setup") data

def returns (data : Bytes) : List Match := findText "C3" (some "ret") data

end Signature

end CodeAtlas
