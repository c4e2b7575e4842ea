import CodeAtlas.Image.Import
import Std.Data.HashMap

set_option autoImplicit false

namespace CodeAtlas.Image

inductive Offered where
  | routine
  | forwarder (text : Option String)
  deriving Repr, DecidableEq

structure Export where
  ordinal : Nat
  rva : Nat
  name : Option String
  offered : Offered
  deriving Repr, DecidableEq

namespace Export

def isForwarder (e : Export) : Bool :=
  match e.offered with
  | .routine => false
  | .forwarder _ => true

def forwarderText? (e : Export) : Option String :=
  match e.offered with
  | .routine => none
  | .forwarder text => text

def displayName (e : Export) : String :=
  match e.name with
  | some s => s
  | none => "ordinal_" ++ Text.decimal e.ordinal

end Export

structure ExportTable where
  ordinalBase : Nat
  routineCount : Nat
  nameCount : Nat
  routinesRva : Nat
  namesRva : Nat
  ordinalsRva : Nat
  deriving Repr, DecidableEq

namespace ExportTable

def read? (data : Bytes) (position : Nat) : Option ExportTable := do
  let ordinalBase ← data.u32? (position + 16)
  let routineCount ← data.u32? (position + 20)
  let nameCount ← data.u32? (position + 24)
  let routinesRva ← data.u32? (position + 28)
  let namesRva ← data.u32? (position + 32)
  let ordinalsRva ← data.u32? (position + 36)
  return ⟨ordinalBase, routineCount, nameCount, routinesRva, namesRva, ordinalsRva⟩

end ExportTable

namespace Header

def maxExports : Nat := 0x10000

/-- Row `i` of the table of names: the index of the routine and the text of the name. -/
def exportName? (h : Header) (data : Bytes) (names ordinals i : Nat) :
    Option (Nat × Option String) := do
  let nameRva ← data.u32? (names + i * 4)
  let index ← data.u16? (ordinals + i * 2)
  return (index, nonEmpty? (data.stringAt? (h.offset? nameRva)))

def exportNames (h : Header) (data : Bytes) (t : ExportTable) : List (Nat × Option String) :=
  match h.offset? t.namesRva, h.offset? t.ordinalsRva with
  | some names, some ordinals =>
    cells (h.exportName? data names ordinals) (min t.nameCount maxExports)
  | _, _ => []

/-- A row names its index unless an earlier row has named it. -/
def addName (names : Std.HashMap Nat String) (row : Nat × Option String) :
    Std.HashMap Nat String :=
  match row.2 with
  | some s => names.insertIfNew row.1 s
  | none => names

def firstNames (rows : List (Nat × Option String)) : Std.HashMap Nat String := rows.foldl addName ∅

/-- The export with index `i`; an address of zero is a gap. -/
def exportAt? (h : Header) (data : Bytes) (t : ExportTable) (names : Std.HashMap Nat String)
    (rva i : Nat) : Option Export :=
  let d := h.directory 0
  if rva = 0 then none
  else some {
    ordinal := t.ordinalBase + i
    rva := rva
    name := names[i]?
    offered :=
      if d.rva ≤ rva ∧ rva < d.rva + d.size then .forwarder (data.stringAt? (h.offset? rva))
      else .routine }

def exportTable? (h : Header) (data : Bytes) : Option ExportTable :=
  if (h.directory 0).isAbsent then none
  else do
    let position ← h.offset? (h.directory 0).rva
    ExportTable.read? data position

def exports (h : Header) (data : Bytes) : List Export :=
  match h.exportTable? data with
  | none => []
  | some t =>
    match h.offset? t.routinesRva with
    | none => []
    | some routines =>
      let names := firstNames (h.exportNames data t)
      let rvas := cells (fun i => data.u32? (routines + i * 4)) (min t.routineCount maxExports)
      rvas.zipIdx.filterMap fun e => h.exportAt? data t names e.1 e.2

end Header

/-- The exports of a buffer. Headers that are known already are not read again. -/
def exports (data : Bytes) (known : Option Header) : List Export :=
  match headerFor? known none data with
  | none => []
  | some h => h.exports data

end CodeAtlas.Image
