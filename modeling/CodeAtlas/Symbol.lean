import CodeAtlas.Routine
import CodeAtlas.Scan
import CodeAtlas.Text.Case

/-!
# Symbols

A symbol gives a name to an address. Imports, exports, routines and strings claim addresses in this
order, and an address keeps the symbol that claimed it first. A reader may add notes and names of
their own.
-/

set_option autoImplicit false

namespace CodeAtlas

inductive SymbolKind where
  | routine
  | data
  | imported
  | exported
  | string
  deriving Repr, DecidableEq

namespace SymbolKind

def name : SymbolKind → String
  | routine => "function"
  | data => "data"
  | imported => "import"
  | exported => "export"
  | string => "string"

def all : List SymbolKind := [routine, data, imported, exported, string]

def ofName? (s : String) : Option SymbolKind := all.find? (·.name = s)

end SymbolKind

structure Symbol where
  address : Int
  name : String
  kind : SymbolKind
  sectionName : Option String
  size : Int
  isImported : Bool
  isExported : Bool
  library : Option String
  note : Option String
  deriving Repr, DecidableEq

namespace Symbol

def bare (address : Int) (name : String) (kind : SymbolKind) : Symbol where
  address := address
  name := name
  kind := kind
  sectionName := none
  size := 0
  isImported := false
  isExported := false
  library := none
  note := none

def line (s : Symbol) : String :=
  "Symbol @ " ++ Text.hex s.address ++ ": " ++ s.name ++ " (" ++ s.kind.name ++ ")"

def ofImport (h : Image.Header) (bitness : Bitness) (i : Image.Import) : Symbol :=
  { bare i.address i.displayName .imported with
    sectionName := h.sectionName? i.rva
    size := bitness.bytes
    isImported := true
    library := some i.library }

def ofExport (h : Image.Header) (e : Image.Export) : Symbol :=
  { bare (h.imageBase + e.rva : Nat) e.displayName .exported with
    sectionName := h.sectionName? e.rva
    isExported := true }

def ofRoutine (stream : Stream) (r : Routine) : Symbol :=
  { bare r.address (r.givenName?.getD ("sub_" ++ Text.capitalHex r.address)) .routine with
    size := Routine.size stream r.address }

def ofString (m : Match) : Symbol :=
  { bare m.offset ("str_" ++ Text.capitalHex m.offset) .string with size := m.length }

end Symbol

abbrev SymbolTable := Table Int Symbol

namespace SymbolTable

structure Search where
  bitness : Bitness
  imports : Bool
  exports : Bool
  strings : Bool
  minLength : Int
  skipBelow : Int
  deriving Repr, DecidableEq

/-- The search for routines that names symbols: no tables, no calls and no flow graphs. -/
def routineSearch (bitness : Bitness) : Routine.Search where
  exports := false
  imports := false
  prologues := true
  callGraph := false
  bitness := bitness
  graphLimit := some 0

def tableClaims (search : Search) (data : Bytes) : List Symbol :=
  match Image.Header.parse? (some search.bitness) data with
  | none => []
  | some h =>
    (if search.imports then
      (Image.imports data search.bitness (some h)).map (Symbol.ofImport h search.bitness)
    else []) ++
    (if search.exports then
      ((Image.exports data (some h)).filter (!·.isForwarder)).map (Symbol.ofExport h)
    else [])

def routineClaims (search : Search) (stream : Stream) : List Symbol :=
  match Routine.discover (routineSearch search.bitness) stream none with
  | .error _ => []
  | .ok rs => rs.map (Symbol.ofRoutine stream)

def stringClaims (search : Search) (data : Bytes) : List Symbol :=
  if search.strings then
    ((Scan.strings search.minLength data).filter fun m =>
      decide (search.skipBelow ≤ m.offset)).map Symbol.ofString
  else []

def claims (search : Search) (stream : Stream) (data : Bytes) : List Symbol :=
  tableClaims search data ++ routineClaims search stream ++ stringClaims search data

def resolve (search : Search) (stream : Stream) (data : Option Bytes) :
    Except InputError SymbolTable :=
  match data with
  | none => .error .missingBuffer
  | some data =>
    if stream.isEmpty then .error .emptyStream
    else .ok (Table.firstClaims ((claims search stream data).map fun s => (s.address, s)))

def nameAt? (t : SymbolTable) (a : Int) : Option String := (t.get? a).map (·.name)

/-- The first symbol with a name, in whatever case the name is written. -/
def find? (t : SymbolTable) (name : String) : Option Symbol :=
  t.values.find? fun s => Text.fold s.name = Text.fold name

def ofKind (t : SymbolTable) (kind : SymbolKind) : List Symbol :=
  sortBy (·.address) (t.values.filter (·.kind = kind))

def countByKind (t : SymbolTable) : List (String × Nat) :=
  SymbolKind.all.map fun kind => (kind.name, (t.values.filter (·.kind = kind)).length)

def givenName? (name : Option String) : Option String := name.filter (· ≠ "")

/-- The table with a note, and perhaps a new name, at an address. An address without a symbol gets
one of kind data. -/
def annotate (t : SymbolTable) (a : Int) (note : Option String) (name : Option String) :
    SymbolTable :=
  match t.get? a with
  | none =>
    t.put a { Symbol.bare a ((givenName? name).getD ("data_" ++ Text.capitalHex a)) .data with
      note := note }
  | some s => t.put a { s with note := note, name := (givenName? name).getD s.name }

def dropNote (t : SymbolTable) (a : Int) : SymbolTable :=
  match t.get? a with
  | none => t
  | some s => if s.note.isSome then t.put a { s with note := none } else t

def resolveEvents (search : Search) (stream : Stream) (data : Option Bytes) : List Event :=
  match data, resolve search stream data with
  | some data, .ok t =>
    let header := Image.Header.parse? (some search.bitness) data
    Image.Header.parseEvents (some search.bitness) data ++
      (match header with
      | none => [.headersUnavailable data.size]
      | some h =>
        if search.imports then Image.importEvents data search.bitness (some h) else []) ++
      Routine.discoverEvents (routineSearch search.bitness) stream none ++
      [.symbolsResolved t.size (countByKind t)]
  | _, _ => []

end SymbolTable

end CodeAtlas
