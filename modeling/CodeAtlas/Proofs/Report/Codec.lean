import CodeAtlas.Proofs.Buffer
import CodeAtlas.Proofs.Json.RoundTrip
import CodeAtlas.Report.Decode
import CodeAtlas.Report.Encode

/-!
# Reports read back

A way of writing and a way of reading form a codec when the written JSON is canonical and is read
as the value that was written. Codecs are put together along the records of a report: numbers,
texts, names and bytes first, then lists and tables of them, then the records.
-/

set_option autoImplicit false

namespace CodeAtlas.Report

@[simp] theorem ok_bind {α β : Type} (a : α) (f : α → Read β) : (Except.ok a >>= f) = f a := rfl

@[simp] theorem pure_eq_ok {α : Type} (a : α) : (pure a : Read α) = .ok a := rfl

@[simp] theorem map_ok {α β : Type} (f : α → β) (a : α) :
    (Except.ok a : Read α).map f = .ok (f a) := rfl

theorem mapM_map_ok {α β : Type} {write : α → β} {read : β → Read α}
    (h : ∀ a, read (write a) = .ok a) (xs : List α) : (xs.map write).mapM read = .ok xs := by
  induction xs with
  | nil => rfl
  | cons x xs ih => rw [List.map_cons, List.mapM_cons, h, ih, ok_bind, ok_bind, pure_eq_ok]

section Field

variable {α : Type} {ms : List (String × Json)} {field : String} {v : Json}

@[simp] theorem required_object (h : ms.lookup field = some v) (f : Json → Read α) :
    required (.object ms) field f = f v := by
  rw [required, members, ok_bind, h]

@[simp] theorem withDefault_object (h : ms.lookup field = some v) (default : α)
    (f : Json → Read α) : withDefault (.object ms) field default f = f v := by
  rw [withDefault, members, ok_bind, h]

end Field

/-- What is written is canonical and is read as the value again. -/
structure Codec {α : Type} (write : α → Json) (read : Json → Read α) : Prop where
  canonical (a : α) : (write a).Canonical
  read_write (a : α) : read (write a) = .ok a

namespace Codec

theorem integer : Codec Json.number integer := ⟨.number, fun _ => rfl⟩

theorem truth : Codec Json.bool truth := ⟨.bool, fun _ => rfl⟩

theorem text : Codec Json.string text := ⟨.string, fun _ => rfl⟩

theorem named {α : Type} (type : String) {name : α → String} {ofName? : String → Option α}
    (hname : ∀ a, ofName? (name a) = some a) :
    Codec (fun a => .string (name a)) (named type ofName?) := by
  refine ⟨fun a => .string (name a), ?_⟩
  intro a
  rw [Report.named, text.read_write, ok_bind, hname]

theorem hexBytes : Codec (fun data : Bytes => .string data.toHex) hexBytes := by
  refine ⟨fun data => .string data.toHex, ?_⟩
  intro data
  rw [Report.hexBytes, text.read_write, ok_bind, Bytes.ofHex_toHex]

section Container

variable {α : Type} {write : α → Json} {read : Json → Read α} (h : Codec write read)

include h

theorem nullable (hnull : ∀ a, write a ≠ .null) :
    Codec (Json.ofOption write) (nullable read) := by
  constructor
  · intro value
    cases value with
    | none => exact .null
    | some a => exact h.canonical a
  · intro value
    cases value with
    | none => rfl
    | some a =>
      rw [Json.ofOption, Report.nullable, h.read_write, map_ok]
      exact hnull a

theorem list : Codec (fun xs => .array (xs.map write)) (items read) := by
  refine ⟨?_, mapM_map_ok h.read_write⟩
  intro xs
  apply Json.Canonical.array
  intro item hitem
  obtain ⟨a, _, rfl⟩ := List.mem_map.mp hitem
  exact h.canonical a

theorem canonical_entries {κ : Type} {name : κ → String} (hname : Function.Injective name)
    (t : Table κ α) :
    Json.Canonical (.object (t.entries.map fun e => (name e.1, write e.2))) := by
  apply Json.Canonical.object
  · have hkeys : (t.entries.map fun e => (name e.1, write e.2)).map Prod.fst =
        (t.entries.map Prod.fst).map name := by
      simp
    rw [hkeys]
    exact t.nodup.map hname
  · intro m hm
    obtain ⟨e, _, rfl⟩ := List.mem_map.mp hm
    exact h.canonical e.2

theorem table : Codec (tableJson write) (readTable read) := by
  refine ⟨h.canonical_entries fun _ _ hkey => Text.hex_injective hkey, ?_⟩
  intro t
  rw [readTable, tableJson, members, ok_bind, mapM_map_ok, ok_bind, Table.ofList_self, pure_eq_ok]
  intro e
  rw [readKey, key, Text.readInteger_hex]
  simp only [ok_bind, h.read_write, pure_eq_ok]

end Container

theorem integers : Codec Json.integers (items Report.integer) := integer.list

theorem optionalText : Codec textJson (Report.nullable Report.text) :=
  text.nullable fun _ => Json.noConfusion

theorem reasons :
    Codec (fun t : Table String String => .object (t.entries.map fun e => (e.1, .string e.2)))
      readReasons := by
  refine ⟨text.canonical_entries Function.injective_id, ?_⟩
  intro t
  rw [readReasons, members, ok_bind, mapM_map_ok, ok_bind, Table.ofList_self, pure_eq_ok]
  intro e
  rw [text.read_write, ok_bind, pure_eq_ok]

theorem block : Codec blockJson readBlock := by
  constructor
  · intro b
    apply Json.Canonical.object
    · simp
    · simp [integer.canonical, truth.canonical, integers.canonical]
  · intro b
    simp [readBlock, blockJson, List.lookup_cons, integer.read_write, truth.read_write, integers.read_write]

theorem graph : Codec graphJson readGraph := by
  constructor
  · intro g
    apply Json.Canonical.object
    · simp
    · simp [integers.canonical, block.table.canonical]
  · intro g
    simp [readGraph, graphJson, List.lookup_cons, integers.read_write, block.table.read_write]

theorem optionalGraph : Codec (Json.ofOption graphJson) (Report.nullable readGraph) :=
  graph.nullable fun _ => Json.noConfusion

theorem source : Codec (fun source => .string (RoutineSource.name source))
    (Report.named "FunctionSource" RoutineSource.ofName?) := by
  apply named
  intro source
  cases source <;> rfl

theorem routine : Codec routineJson readRoutine := by
  constructor
  · intro r
    apply Json.Canonical.object
    · simp
    · simp [integer.canonical, truth.canonical, text.canonical, optionalText.canonical,
        optionalGraph.canonical]
  · intro r
    simp [readRoutine, routineJson, List.lookup_cons, integer.read_write, truth.read_write,
      source.read_write, optionalText.read_write, optionalGraph.read_write]

theorem referenceKind : Codec (fun kind => .string (ReferenceKind.name kind))
    (Report.named "RefType" ReferenceKind.ofName?) := by
  apply named
  intro kind
  cases kind <;> rfl

theorem reference : Codec referenceJson readReference := by
  constructor
  · intro r
    apply Json.Canonical.object
    · simp
    · simp [integer.canonical, text.canonical, optionalText.canonical]
  · intro r
    simp [readReference, referenceJson, List.lookup_cons, integer.read_write, referenceKind.read_write,
      optionalText.read_write]

theorem references : Codec (tableJson referencesAtJson) readReferences := reference.list.table

theorem symbolKind : Codec (fun kind => .string (SymbolKind.name kind))
    (Report.named "SymbolType" SymbolKind.ofName?) := by
  apply named
  intro kind
  cases kind <;> rfl

theorem symbol : Codec symbolJson readSymbol := by
  constructor
  · intro s
    apply Json.Canonical.object
    · simp
    · simp [integer.canonical, truth.canonical, text.canonical, optionalText.canonical]
  · intro s
    simp [readSymbol, symbolJson, List.lookup_cons, integer.read_write, truth.read_write,
      text.read_write, symbolKind.read_write, optionalText.read_write]

theorem symbols : Codec (tableJson symbolJson) readSymbols := symbol.table

theorem matched : Codec matchJson readMatch := by
  constructor
  · intro m
    apply Json.Canonical.object
    · simp
    · simp [integer.canonical, text.canonical, optionalText.canonical]
  · intro m
    simp [readMatch, matchJson, List.lookup_cons, integer.read_write, hexBytes.read_write,
      optionalText.read_write]

theorem report : Codec toJson ofJson := by
  constructor
  · intro r
    apply Json.Canonical.object
    · simp
    · simp [integer.canonical, truth.canonical, text.canonical, routine.list.canonical,
        optionalGraph.canonical, references.canonical, symbols.canonical, matched.list.canonical,
        reasons.canonical]
  · intro r
    have hbitness : Bitness.ofWide r.bitness.isWide = r.bitness := by
      cases r.bitness <;> rfl
    simp [ofJson, toJson, List.lookup_cons, integer.read_write, truth.read_write, text.read_write,
      routine.list.read_write, optionalGraph.read_write, references.read_write, symbols.read_write,
      matched.list.read_write, reasons.read_write, hbitness]

end Codec

/-- Whatever the indentation, the text of a report is read as the report, with the entries of every
table in their order. -/
theorem parse_render (indent : Option Nat) (r : Report) : parse (render indent r) = .ok r := by
  rw [parse, render, Json.parse?_of_canonical (Codec.report.canonical r)]
  exact Codec.report.read_write r

end CodeAtlas.Report
