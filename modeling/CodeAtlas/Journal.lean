import CodeAtlas.Bitness
import CodeAtlas.Json.Basic
import CodeAtlas.Text.Numeral

set_option autoImplicit false

namespace CodeAtlas

inductive Level where
  | debug
  | info
  | warning
  | error
  | critical
  deriving Repr, DecidableEq

namespace Level

def name : Level → String
  | debug => "debug"
  | info => "info"
  | warning => "warning"
  | error => "error"
  | critical => "critical"

/-- The rank of a level; a journal keeps what ranks at least as high as its threshold. -/
def rank : Level → Nat
  | debug => 10
  | info => 20
  | warning => 30
  | error => 40
  | critical => 50

def ofName? (s : String) : Option Level :=
  [debug, info, warning, error, critical].find? (·.name = s)

end Level

inductive Event where
  | bitnessMismatch (found expected : Bitness)
  | importTableUnmapped (rva : Nat)
  | bytesSkipped (address : Int) (skipped size : Nat)
  | sectionDecoded (name : String) (instructions : Nat)
  | imageLoaded (path digest : String) (bitness : Bitness) (sections instructions : Nat)
  | boundariesSkipped (count : Nat)
  | graphBuilt (entry : Int) (blocks : Nat)
  | referencesBuilt (sources references : Nat)
  | prologuesScanned (found : Nat)
  | graphFailed (address : Int) (reason : String)
  | graphsAttached (built total : Nat)
  | routinesFound (count : Nat)
  | headersUnavailable (size : Nat)
  | symbolsResolved (total : Nat) (counts : List (String × Nat))
  | entryNotDecoded (entry fallback : Int)
  | stageFailed (stage reason : String)
  | stageCompleted (stage : String) (items : Nat)
  deriving Repr, DecidableEq

namespace Event

def name : Event → String
  | bitnessMismatch .. => "pe_bitness_mismatch"
  | importTableUnmapped .. => "import_table_unmapped"
  | bytesSkipped .. => "decode_skipped_bytes"
  | sectionDecoded .. => "section_decoded"
  | imageLoaded .. => "pe_loaded"
  | boundariesSkipped .. => "cfg_boundaries_skipped"
  | graphBuilt .. => "cfg_built"
  | referencesBuilt .. => "xrefs_built"
  | prologuesScanned .. => "prologue_scan_complete"
  | graphFailed .. => "function_cfg_failed"
  | graphsAttached .. => "function_cfgs_built"
  | routinesFound .. => "functions_found"
  | headersUnavailable .. => "pe_headers_unavailable"
  | symbolsResolved .. => "symbols_resolved"
  | entryNotDecoded .. => "entry_not_decoded"
  | stageFailed .. => "analysis_stage_failed"
  | stageCompleted .. => "analysis_stage_complete"

def level : Event → Level
  | imageLoaded .. => .info
  | stageCompleted .. => .info
  | entryNotDecoded .. => .warning
  | stageFailed .. => .error
  | _ => .debug

def fields : Event → List (String × Json)
  | bitnessMismatch found expected =>
    [("magic", .string (Text.hex found.magic)), ("expected_64bit", .bool expected.isWide)]
  | importTableUnmapped rva => [("rva", .string (Text.hex rva))]
  | bytesSkipped address skipped size =>
    [("address", .string (Text.hex address)), ("skipped", .nat skipped), ("size", .nat size)]
  | sectionDecoded name instructions =>
    [("section", .string name), ("instructions", .nat instructions)]
  | imageLoaded path digest bitness sections instructions =>
    [("path", .string path), ("sha256", .string digest), ("bits", .nat bitness.bits),
     ("sections", .nat sections), ("instructions", .nat instructions)]
  | boundariesSkipped count => [("count", .nat count)]
  | graphBuilt entry blocks => [("entry", .string (Text.hex entry)), ("blocks", .nat blocks)]
  | referencesBuilt sources references =>
    [("sources", .nat sources), ("references", .nat references)]
  | prologuesScanned found => [("found", .nat found)]
  | graphFailed address reason =>
    [("address", .string (Text.hex address)), ("error", .string reason)]
  | graphsAttached built total => [("built", .nat built), ("total", .nat total)]
  | routinesFound count => [("count", .nat count)]
  | headersUnavailable size => [("size", .nat size)]
  | symbolsResolved total counts =>
    ("count", .nat total) :: counts.map fun e => (e.1, .nat e.2)
  | entryNotDecoded entry fallback =>
    [("entry", .string (Text.hex entry)), ("fallback", .string (Text.hex fallback))]
  | stageFailed stage reason => [("stage", .string stage), ("error", .string reason)]
  | stageCompleted stage items => [("stage", .string stage), ("items", .nat items)]

end Event

structure JournalEntry where
  event : Event
  binary : Option String
  deriving Repr, DecidableEq

namespace Journal

/-- The capital letter of a character of a level name. Two letters outside ASCII have capitals in
ASCII: the dotless i and the long s. -/
def capital (c : Char) : Char :=
  if c = 'ı' then 'I' else if c = 'ſ' then 'S' else c.toUpper

def thresholds : List (String × Nat) :=
  [("CRITICAL", 50), ("FATAL", 50), ("ERROR", 40), ("WARNING", 30), ("WARN", 30), ("INFO", 20),
   ("DEBUG", 10), ("NOTSET", 0)]

def threshold (name : String) : Nat :=
  (thresholds.lookup (String.ofList (name.toList.map capital))).getD Level.info.rank

structure Record where
  source : String
  level : Level
  event : String
  fields : List (String × Json)
  binary : Option String

namespace Record

/-- The record as data. A field of the event wins over the bound digest, of which sixteen digits
are shown. -/
def toJson (r : Record) : Json :=
  let bound := r.binary.map fun b => ("binary", Json.string (String.ofList (b.toList.take 16)))
  .object (Table.ofList (bound.toList ++ r.fields ++
    [("event", .string r.event), ("logger", .string r.source),
     ("level", .string r.level.name)])).entries

end Record

def kept (rank : Nat) (rs : List Record) : List Record :=
  rs.filter fun r => decide (rank ≤ r.level.rank)

end Journal

end CodeAtlas
