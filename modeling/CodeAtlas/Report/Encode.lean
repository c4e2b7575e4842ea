import CodeAtlas.Json.Printer
import CodeAtlas.Report.Basic

set_option autoImplicit false

namespace CodeAtlas.Report

def key (a : Int) : String := Text.hex a

def tableJson {ν : Type} (f : ν → Json) (t : Table Int ν) : Json :=
  .object (t.entries.map fun e => (key e.1, f e.2))

def textJson (s : Option String) : Json := Json.ofOption .string s

def blockJson (b : Block) : Json :=
  .object [
    ("start_address", .number b.startAddress),
    ("end_address", .number b.endAddress),
    ("start_instruction_index", .number b.startIndex),
    ("end_instruction_index", .number b.endIndex),
    ("successors", .integers b.successors),
    ("predecessors", .integers b.predecessors),
    ("is_entry", .bool b.isEntry),
    ("is_exit", .bool b.isExit)]

def graphJson (g : FlowGraph) : Json :=
  .object [("entry_points", .integers g.entryPoints), ("blocks", tableJson blockJson g.blocks)]

def routineJson (r : Routine) : Json :=
  .object [
    ("address", .number r.address),
    ("name", textJson r.name),
    ("source", .string r.source.name),
    ("instruction_count", .number r.instructionCount),
    ("is_imported", .bool r.isImported),
    ("is_exported", .bool r.isExported),
    ("is_entry_point", .bool r.isEntryPoint),
    ("cfg", .ofOption graphJson r.graph)]

def referenceJson (r : Reference) : Json :=
  .object [
    ("source_address", .number r.source),
    ("target_address", .number r.target),
    ("ref_type", .string r.kind.name),
    ("description", textJson r.description)]

def referencesAtJson (rs : List Reference) : Json := .array (rs.map referenceJson)

def symbolJson (s : Symbol) : Json :=
  .object [
    ("address", .number s.address),
    ("name", .string s.name),
    ("symbol_type", .string s.kind.name),
    ("section", textJson s.sectionName),
    ("size", .number s.size),
    ("is_imported", .bool s.isImported),
    ("is_exported", .bool s.isExported),
    ("source_dll", textJson s.library),
    ("annotation", textJson s.note)]

def matchJson (m : Match) : Json :=
  .object [
    ("address", .number m.address),
    ("offset", .number m.offset),
    ("matched_bytes", .string m.bytes.toHex),
    ("description", textJson m.description),
    ("text", textJson m.text)]

def toJson (r : Report) : Json :=
  .object [
    ("sha256", .string r.digest),
    ("is_64bit", .bool r.bitness.isWide),
    ("image_base", .number r.imageBase),
    ("entry_address", .number r.entry),
    ("functions", .array (r.routines.map routineJson)),
    ("cfg", .ofOption graphJson r.graph),
    ("xrefs", tableJson referencesAtJson r.references),
    ("symbols", tableJson symbolJson r.symbols),
    ("strings", .array (r.strings.map matchJson)),
    ("completed_stages", .number r.completedStages),
    ("errors", .object (r.errors.entries.map fun e => (e.1, .string e.2)))]

def render (indent : Option Nat) (r : Report) : String := (toJson r).render ⟨indent, true⟩

end CodeAtlas.Report
