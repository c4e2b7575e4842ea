import CodeAtlas.Json.Parser
import CodeAtlas.Report.Basic
import CodeAtlas.Text.Quoted

set_option autoImplicit false

namespace CodeAtlas.Report

inductive ReadError where
  | notJson
  | missing (field : String)
  | unknownName (text type : String)
  | notAddress (text : String)
  | notHex (position : Nat)
  | wrongForm (value : Json)
  deriving Repr

namespace ReadError

def message : ReadError → String
  | notJson => "not a JSON text"
  | missing field => Text.quoted field
  | unknownName text type => Text.quoted text ++ " is not a valid " ++ type
  | notAddress text => Text.notNumeral 16 text
  | notHex position =>
    "non-hexadecimal number found in fromhex() arg at position " ++ Text.decimal position
  | wrongForm _ => "unexpected form of a value"

end ReadError

abbrev Read (α : Type) := Except ReadError α

def integer : Json → Read Int
  | .number n => .ok n
  | j => .error (.wrongForm j)

def truth : Json → Read Bool
  | .bool b => .ok b
  | j => .error (.wrongForm j)

def text : Json → Read String
  | .string s => .ok s
  | j => .error (.wrongForm j)

def nullable {α : Type} (f : Json → Read α) : Json → Read (Option α)
  | .null => .ok none
  | j => (f j).map some

def items {α : Type} (f : Json → Read α) : Json → Read (List α)
  | .array js => js.mapM f
  | j => .error (.wrongForm j)

def members : Json → Read (List (String × Json))
  | .object ms => .ok ms
  | j => .error (.wrongForm j)

def required {α : Type} (j : Json) (field : String) (f : Json → Read α) : Read α := do
  let ms ← members j
  match ms.lookup field with
  | none => .error (.missing field)
  | some v => f v

def withDefault {α : Type} (j : Json) (field : String) (default : α) (f : Json → Read α) :
    Read α := do
  let ms ← members j
  match ms.lookup field with
  | none => .ok default
  | some v => f v

def named {α : Type} (type : String) (ofName? : String → Option α) (j : Json) : Read α := do
  let s ← text j
  match ofName? s with
  | some a => .ok a
  | none => .error (.unknownName s type)

def readKey (s : String) : Read Int :=
  match Text.readInteger 16 s with
  | some a => .ok a
  | none => .error (.notAddress s)

/-- A table under addresses. An address that occurs again keeps its place and takes the later
value. -/
def readTable {ν : Type} (f : Json → Read ν) (j : Json) : Read (Table Int ν) := do
  let ms ← members j
  let es ← ms.mapM fun m => do
    let a ← readKey m.1
    let v ← f m.2
    return (a, v)
  return Table.ofList es

def readBlock (j : Json) : Read Block := do
  return {
    startAddress := ← required j "start_address" integer
    endAddress := ← required j "end_address" integer
    startIndex := ← required j "start_instruction_index" integer
    endIndex := ← required j "end_instruction_index" integer
    successors := ← withDefault j "successors" [] (items integer)
    predecessors := ← withDefault j "predecessors" [] (items integer)
    isEntry := ← withDefault j "is_entry" false truth
    isExit := ← withDefault j "is_exit" false truth }

def readGraph (j : Json) : Read FlowGraph := do
  return {
    blocks := ← withDefault j "blocks" Table.empty (readTable readBlock)
    entryPoints := ← withDefault j "entry_points" [] (items integer) }

def readRoutine (j : Json) : Read Routine := do
  return {
    address := ← required j "address" integer
    source := ← required j "source" (named "FunctionSource" RoutineSource.ofName?)
    name := ← withDefault j "name" none (nullable text)
    instructionCount := ← withDefault j "instruction_count" 0 integer
    isImported := ← withDefault j "is_imported" false truth
    isExported := ← withDefault j "is_exported" false truth
    isEntryPoint := ← withDefault j "is_entry_point" false truth
    graph := ← withDefault j "cfg" none (nullable readGraph) }

def readReference (j : Json) : Read Reference := do
  return {
    source := ← required j "source_address" integer
    target := ← required j "target_address" integer
    kind := ← required j "ref_type" (named "RefType" ReferenceKind.ofName?)
    description := ← withDefault j "description" none (nullable text) }

def readReferences : Json → Read References := readTable (items readReference)

def symbolKind (s : String) : Read SymbolKind :=
  named "SymbolType" SymbolKind.ofName? (.string s)

def readSymbol (j : Json) : Read Symbol := do
  return {
    address := ← required j "address" integer
    name := ← required j "name" text
    kind := ← required j "symbol_type" (named "SymbolType" SymbolKind.ofName?)
    sectionName := ← withDefault j "section" none (nullable text)
    size := ← withDefault j "size" 0 integer
    isImported := ← withDefault j "is_imported" false truth
    isExported := ← withDefault j "is_exported" false truth
    library := ← withDefault j "source_dll" none (nullable text)
    note := ← withDefault j "annotation" none (nullable text) }

def readSymbols : Json → Read SymbolTable := readTable readSymbol

def hexBytes (j : Json) : Read Bytes := do
  let s ← text j
  match Bytes.ofHex s with
  | .ok data => .ok data
  | .error position => .error (.notHex position)

def readMatch (j : Json) : Read Match := do
  return {
    address := ← required j "address" integer
    offset := ← required j "offset" integer
    bytes := ← withDefault j "matched_bytes" #[] hexBytes
    description := ← withDefault j "description" none (nullable text)
    text := ← withDefault j "text" none (nullable text) }

def readReasons (j : Json) : Read (Table String String) := do
  let ms ← members j
  let es ← ms.mapM fun m => do
    let reason ← text m.2
    return (m.1, reason)
  return Table.ofList es

def ofJson (j : Json) : Read Report := do
  return {
    digest := ← required j "sha256" text
    bitness := ← (required j "is_64bit" truth).map Bitness.ofWide
    imageBase := ← required j "image_base" integer
    entry := ← required j "entry_address" integer
    routines := ← withDefault j "functions" [] (items readRoutine)
    graph := ← withDefault j "cfg" none (nullable readGraph)
    references := ← withDefault j "xrefs" Table.empty readReferences
    symbols := ← withDefault j "symbols" Table.empty readSymbols
    strings := ← withDefault j "strings" [] (items readMatch)
    completedStages := ← withDefault j "completed_stages" 0 integer
    errors := ← withDefault j "errors" Table.empty readReasons }

def parse (s : String) : Read Report :=
  match Json.parse? s with
  | none => .error .notJson
  | some j => ofJson j

end CodeAtlas.Report
