import CodeAtlas.Json.Basic
import CodeAtlas.Reference

set_option autoImplicit false

namespace CodeAtlas

structure RoutineSettings where
  exports : Bool
  imports : Bool
  prologues : Bool
  callGraph : Bool
  /-- To how many routines a flow graph is attached; to all if there is no limit. -/
  graphLimit : Option Int
  deriving Repr, DecidableEq

structure ReferenceSettings where
  imageBase : Int
  ripRelative : Bool
  deriving Repr, DecidableEq

structure SymbolSettings where
  imports : Bool
  exports : Bool
  strings : Bool
  minLength : Int
  skipBelow : Int
  deriving Repr, DecidableEq

structure ScanSettings where
  sledLength : Int
  minLength : Int
  wide : Bool
  deriving Repr, DecidableEq

structure JournalSettings where
  level : String
  jsonLines : Bool
  deriving Repr, DecidableEq

structure Settings where
  routines : RoutineSettings
  references : ReferenceSettings
  symbols : SymbolSettings
  scans : ScanSettings
  journal : JournalSettings
  deriving Repr, DecidableEq

namespace Settings

def standard : Settings where
  routines := ⟨true, true, true, true, none⟩
  references := ⟨defaultImageBase, false⟩
  symbols := ⟨true, true, false, 4, 0x1000⟩
  scans := ⟨4, 4, true⟩
  journal := ⟨"INFO", false⟩

def toJson (s : Settings) : Json :=
  .object [
    ("functions", .object [
      ("include_exports", .bool s.routines.exports),
      ("include_imports", .bool s.routines.imports),
      ("include_prologues", .bool s.routines.prologues),
      ("include_call_graph", .bool s.routines.callGraph),
      ("max_cfg_functions", .ofOption .number s.routines.graphLimit)]),
    ("xrefs", .object [
      ("image_base", .number s.references.imageBase),
      ("resolve_rip_relative", .bool s.references.ripRelative)]),
    ("symbols", .object [
      ("include_imports", .bool s.symbols.imports),
      ("include_exports", .bool s.symbols.exports),
      ("include_strings", .bool s.symbols.strings),
      ("string_min_length", .number s.symbols.minLength),
      ("string_skip_prefix", .number s.symbols.skipBelow)]),
    ("patterns", .object [
      ("nop_min_length", .number s.scans.sledLength),
      ("string_min_length", .number s.scans.minLength),
      ("include_wide_strings", .bool s.scans.wide)]),
    ("logging", .object [
      ("level", .string s.journal.level),
      ("json_output", .bool s.journal.jsonLines)])]

end Settings

end CodeAtlas
