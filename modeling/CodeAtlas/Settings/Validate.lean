import CodeAtlas.Settings.Basic
import CodeAtlas.Text.Basic
import CodeAtlas.Text.Numeral

/-!
# Checking settings

Data becomes settings if every field that it gives has a fitting value. Fields that it does not
give keep their standard values, and fields that are unknown are ignored. All faults are reported,
in the order of the fields.
-/

set_option autoImplicit false

namespace CodeAtlas.Settings

inductive Fault where
  | notGroup (name : String)
  | badTruth
  | notTruth
  | badInteger
  | notInteger
  | below (least : Int)
  | notText
  deriving Repr, DecidableEq

namespace Fault

def code : Fault → String
  | notGroup _ => "model_type"
  | badTruth => "bool_parsing"
  | notTruth => "bool_type"
  | badInteger => "int_parsing"
  | notInteger => "int_type"
  | below _ => "greater_than_equal"
  | notText => "string_type"

def message : Fault → String
  | notGroup name => "Input should be a valid dictionary or instance of " ++ name
  | badTruth => "Input should be a valid boolean, unable to interpret input"
  | notTruth => "Input should be a valid boolean"
  | badInteger => "Input should be a valid integer, unable to parse string as an integer"
  | notInteger => "Input should be a valid integer"
  | below least => "Input should be greater than or equal to " ++ Text.decimal least
  | notText => "Input should be a valid string"

end Fault

structure Complaint where
  place : List String
  fault : Fault
  deriving Repr, DecidableEq

def lowerAscii (s : String) : String := String.ofList (s.toList.map Char.toLower)

def trueTexts : List String := ["1", "true", "t", "yes", "y", "on"]

def falseTexts : List String := ["0", "false", "f", "no", "n", "off"]

/-- A truth value: a boolean, zero or one, or one of the texts in any case. -/
def readTruth : Json → Except Fault Bool
  | .bool b => .ok b
  | .number n => if n = 0 then .ok false else if n = 1 then .ok true else .error .badTruth
  | .string s =>
    if lowerAscii s ∈ trueTexts then .ok true
    else if lowerAscii s ∈ falseTexts then .ok false
    else .error .badTruth
  | _ => .error .notTruth

def isMargin (c : Char) : Bool := Text.isBlank c && !(0x1C ≤ c.toNat && c.toNat ≤ 0x1F)

/-- The integer part of a decimal text whose fraction is zero. -/
def dropZeroFraction (cs : List Char) : List Char :=
  match cs.dropWhile (· ≠ '.') with
  | '.' :: fraction => if fraction.all (· = '0') then cs.takeWhile (· ≠ '.') else cs
  | _ => cs

def naturalText? (cs : List Char) : Option Nat :=
  if cs.all fun c => c = '_' ∨ ('0' ≤ c ∧ c ≤ '9') then Text.readNatural 10 cs else none

/-- The integer that a text stands for: ASCII digits with single underscores between them, a sign
before them and perhaps a point and zeros behind them. -/
def integerText? (s : String) : Option Int :=
  match Text.trimWhile isMargin s.toList with
  | '-' :: rest => (naturalText? (dropZeroFraction rest)).map fun n => -(n : Int)
  | '+' :: rest => (naturalText? (dropZeroFraction rest)).map Int.ofNat
  | cs => (naturalText? (dropZeroFraction cs)).map Int.ofNat

/-- An integer: a number, a boolean as zero or one, or a text. -/
def readInteger : Json → Except Fault Int
  | .number n => .ok n
  | .bool b => .ok (if b then 1 else 0)
  | .string s =>
    match integerText? s with
    | some n => .ok n
    | none => .error .badInteger
  | _ => .error .notInteger

def readAtLeast (least : Int) (j : Json) : Except Fault Int :=
  match readInteger j with
  | .ok n => if n < least then .error (.below least) else .ok n
  | .error e => .error e

def readLimit (least : Int) : Json → Except Fault (Option Int)
  | .null => .ok none
  | j => (readAtLeast least j).map some

def readText : Json → Except Fault String
  | .string s => .ok s
  | _ => .error .notText

/-- A value and what is wrong with the data that it was read from. A value at fault is the standard
one. -/
structure Checked (α : Type) where
  value : α
  complaints : List Complaint

def field {α : Type} (group : String) (members : List (String × Json)) (key : String)
    (standard : α) (read : Json → Except Fault α) : Checked α :=
  match members.lookup key with
  | none => ⟨standard, []⟩
  | some j =>
    match read j with
    | .ok a => ⟨a, []⟩
    | .error e => ⟨standard, [⟨[group, key], e⟩]⟩

def group {α : Type} (members : List (String × Json)) (key name : String) (standard : α)
    (read : List (String × Json) → Checked α) : Checked α :=
  match members.lookup key with
  | none => ⟨standard, []⟩
  | some (.object inner) => read inner
  | some _ => ⟨standard, [⟨[key], .notGroup name⟩]⟩

def readRoutines (members : List (String × Json)) : Checked RoutineSettings :=
  let d := standard.routines
  let exports := field "functions" members "include_exports" d.exports readTruth
  let imports := field "functions" members "include_imports" d.imports readTruth
  let prologues := field "functions" members "include_prologues" d.prologues readTruth
  let callGraph := field "functions" members "include_call_graph" d.callGraph readTruth
  let limit := field "functions" members "max_cfg_functions" d.graphLimit (readLimit 0)
  ⟨⟨exports.value, imports.value, prologues.value, callGraph.value, limit.value⟩,
    exports.complaints ++ imports.complaints ++ prologues.complaints ++ callGraph.complaints ++
      limit.complaints⟩

def readReferences (members : List (String × Json)) : Checked ReferenceSettings :=
  let d := standard.references
  let base := field "xrefs" members "image_base" d.imageBase readInteger
  let rip := field "xrefs" members "resolve_rip_relative" d.ripRelative readTruth
  ⟨⟨base.value, rip.value⟩, base.complaints ++ rip.complaints⟩

def readSymbols (members : List (String × Json)) : Checked SymbolSettings :=
  let d := standard.symbols
  let imports := field "symbols" members "include_imports" d.imports readTruth
  let exports := field "symbols" members "include_exports" d.exports readTruth
  let strings := field "symbols" members "include_strings" d.strings readTruth
  let least := field "symbols" members "string_min_length" d.minLength (readAtLeast 1)
  let skip := field "symbols" members "string_skip_prefix" d.skipBelow (readAtLeast 0)
  ⟨⟨imports.value, exports.value, strings.value, least.value, skip.value⟩,
    imports.complaints ++ exports.complaints ++ strings.complaints ++ least.complaints ++
      skip.complaints⟩

def readScans (members : List (String × Json)) : Checked ScanSettings :=
  let d := standard.scans
  let sled := field "patterns" members "nop_min_length" d.sledLength (readAtLeast 1)
  let least := field "patterns" members "string_min_length" d.minLength (readAtLeast 1)
  let wide := field "patterns" members "include_wide_strings" d.wide readTruth
  ⟨⟨sled.value, least.value, wide.value⟩, sled.complaints ++ least.complaints ++ wide.complaints⟩

def readJournal (members : List (String × Json)) : Checked JournalSettings :=
  let d := standard.journal
  let level := field "logging" members "level" d.level readText
  let lines := field "logging" members "json_output" d.jsonLines readTruth
  ⟨⟨level.value, lines.value⟩, level.complaints ++ lines.complaints⟩

def check : Json → Checked Settings
  | .object members =>
    let routines := group members "functions" "FunctionsConfig" standard.routines readRoutines
    let references := group members "xrefs" "XRefsConfig" standard.references readReferences
    let symbols := group members "symbols" "SymbolsConfig" standard.symbols readSymbols
    let scans := group members "patterns" "PatternsConfig" standard.scans readScans
    let journal := group members "logging" "LoggingConfig" standard.journal readJournal
    ⟨⟨routines.value, references.value, symbols.value, scans.value, journal.value⟩,
      routines.complaints ++ references.complaints ++ symbols.complaints ++ scans.complaints ++
        journal.complaints⟩
  | _ => ⟨standard, [⟨[], .notGroup "RevCoreConfig"⟩]⟩

def ofJson (j : Json) : Except (List Complaint) Settings :=
  let checked := check j
  if checked.complaints.isEmpty then .ok checked.value else .error checked.complaints

end CodeAtlas.Settings
