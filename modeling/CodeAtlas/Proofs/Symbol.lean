import CodeAtlas.Proofs.Precedence
import CodeAtlas.Proofs.Routine.Discovery
import CodeAtlas.Symbol

/-!
# Claims of symbols

`Claims` says which source claims an address with which symbol, and at which place. The sources are
imports, exports, routines and strings, in this order. The routines are those that are found without
the tables of the image: the first instruction, and then the prologues. An address holds the symbol
of the first claim in this order.
-/

set_option autoImplicit false

namespace CodeAtlas.SymbolTable

def sources : List SymbolKind := [.imported, .exported, .routine, .string]

def routineSymbol (stream : Stream) (a : Int) (name : String) : Symbol :=
  { Symbol.bare a name .routine with size := Routine.size stream a }

/-- `Claims search stream data source place s`: the source is used and claims the address of the
symbol with it. The first instruction is the first of the routines. -/
inductive Claims (search : Search) (stream : Stream) (data : Bytes) :
    SymbolKind → Nat → Symbol → Prop where
  | imported {h : Image.Header} {k : Nat} {i : Image.Import} : search.imports = true →
      Image.Header.parse? (some search.bitness) data = some h →
      (Image.imports data search.bitness (some h))[k]? = some i →
      Claims search stream data .imported k (Symbol.ofImport h search.bitness i)
  | exported {h : Image.Header} {k : Nat} {e : Image.Export} : search.exports = true →
      Image.Header.parse? (some search.bitness) data = some h →
      (Image.exports data (some h))[k]? = some e → e.isForwarder = false →
      Claims search stream data .exported k (Symbol.ofExport h e)
  | entry {i : Instruction} : stream[0]? = some i →
      Claims search stream data .routine 0 (routineSymbol stream i.address "_entry")
  | prologue {k : Nat} {i : Instruction} : stream[k]? = some i →
      Routine.matchesPrologue stream k = true →
      Claims search stream data .routine (k + 1)
        (routineSymbol stream i.address ("sub_" ++ Text.capitalHex i.address))
  | string {k : Nat} {m : Match} : search.strings = true →
      (Scan.strings search.minLength data)[k]? = some m → search.skipBelow ≤ m.offset →
      Claims search stream data .string k (Symbol.ofString m)

def claimsBy (search : Search) (stream : Stream) (data : Bytes) : SymbolKind → List Symbol
  | .imported =>
    match Image.Header.parse? (some search.bitness) data with
    | none => []
    | some h =>
      if search.imports then
        (Image.imports data search.bitness (some h)).map (Symbol.ofImport h search.bitness)
      else []
  | .exported =>
    match Image.Header.parse? (some search.bitness) data with
    | none => []
    | some h =>
      if search.exports then
        ((Image.exports data (some h)).filter (!·.isForwarder)).map (Symbol.ofExport h)
      else []
  | .routine => routineClaims search stream
  | .string => stringClaims search data
  | .data => []

theorem claims_eq (search : Search) (stream : Stream) (data : Bytes) :
    claims search stream data = sources.flatMap (claimsBy search stream data) := by
  simp only [claims, tableClaims, sources, List.flatMap_cons, List.flatMap_nil, claimsBy]
  cases hparse : Image.Header.parse? (some search.bitness) data <;> simp

/-! ## Routines -/

theorem attachGraphs_zero (stream : Stream) (rs : List Routine) :
    Routine.attachGraphs stream (some 0) rs = rs := by
  apply List.ext_getElem?
  intro n
  have hlimit : Routine.withinLimit (some 0) n = false := by simp [Routine.withinLimit]
  simp [Routine.attachGraphs_getElem?, hlimit]

theorem ofRoutine_atStart (stream : Stream) (a : Int) :
    Symbol.ofRoutine stream (Routine.atStart a) = routineSymbol stream a "_entry" := by
  have hname : (Routine.atStart a).givenName? = some "_entry" :=
    Option.filter_some_pos (by decide)
  rw [Symbol.ofRoutine, hname]
  rfl

theorem ofRoutine_prologue (stream : Stream) (a : Int) :
    Symbol.ofRoutine stream (Routine.bare a .prologue) =
      routineSymbol stream a ("sub_" ++ Text.capitalHex a) := rfl

section Sources

variable {search : Search} {stream : Stream} {data : Bytes}

theorem routineClaims_eq (hne : stream ≠ []) : routineClaims search stream =
    (Routine.elected (routineSearch search.bitness) stream none).map
      (Symbol.ofRoutine stream) := by
  rw [routineClaims, Routine.discover_ok none hne]
  simp only [routineSearch, attachGraphs_zero]

theorem routineClaims_listed (hne : stream ≠ []) {source : RoutineSource} {place : Nat} {r : Routine}
    (h : Routine.Nominates (routineSearch search.bitness) stream none source place r) :
    ∃ s ∈ routineClaims search stream, s.address = r.address := by
  have hmem := Routine.mem_elected_addresses.mpr ⟨source, place, r, h, rfl⟩
  obtain ⟨t, ht, haddress⟩ := List.mem_map.mp hmem
  rw [routineClaims_eq hne]
  exact ⟨_, List.mem_map_of_mem ht, haddress⟩

theorem first_routine {source : RoutineSource} {place : Nat} {r : Routine}
    (h : Routine.First (routineSearch search.bitness) stream none source place r) :
    ∃ place, FirstPlace (Claims search stream data .routine) Symbol.address place
      (Symbol.ofRoutine stream r) := by
  obtain ⟨hr, hfirst⟩ := h
  cases hr with
  | entry hi =>
    rw [ofRoutine_atStart]
    exact ⟨0, Claims.entry hi, fun _ _ _ _ => Nat.zero_le _⟩
  | prologue _ hi hmatches =>
    rw [ofRoutine_prologue]
    refine ⟨place + 1, Claims.prologue hi hmatches, ?_⟩
    intro other s hs hsame
    cases hs with
    | entry hj =>
      rcases hfirst _ _ _ (Routine.Nominates.entry hj) hsame with hbefore | ⟨hsource, _⟩
      · exact absurd hbefore (by decide)
      · cases hsource
    | prologue hj hmatches' =>
      rcases hfirst _ _ _ (Routine.Nominates.prologue rfl hj hmatches') hsame with
        hbefore | ⟨_, hle⟩
      · exact absurd hbefore (Nat.lt_irrefl _)
      · exact Nat.succ_le_succ hle
  | exported hused => cases hused
  | imported hused => cases hused
  | callTarget hused => cases hused

/-! ## All sources -/

theorem Claims.kind_eq {source : SymbolKind} {place : Nat} {s : Symbol}
    (h : Claims search stream data source place s) : s.kind = source := by
  cases h <;> rfl

section Tables

variable {header : Image.Header}
  (hparse : Image.Header.parse? (some search.bitness) data = some header)

include hparse

theorem imported_rows (hused : search.imports = true) :
    OffersRows (Claims search stream data .imported)
      (Image.imports data search.bitness (some header)) (fun _ => true)
      (Symbol.ofImport header search.bitness) := by
  intro place s
  constructor
  · intro hs
    cases hs with
    | imported _ hparse' hi =>
      rw [hparse] at hparse'
      cases hparse'
      exact ⟨_, hi, rfl, rfl⟩
  · rintro ⟨i, hi, _, rfl⟩
    exact Claims.imported hused hparse hi

theorem exported_rows (hused : search.exports = true) :
    OffersRows (Claims search stream data .exported) (Image.exports data (some header))
      (!·.isForwarder) (Symbol.ofExport header) := by
  intro place s
  constructor
  · intro hs
    cases hs with
    | exported _ hparse' he hroutine =>
      rw [hparse] at hparse'
      cases hparse'
      exact ⟨_, he, by simp [hroutine], rfl⟩
  · rintro ⟨e, he, hroutine, rfl⟩
    exact Claims.exported hused hparse he (by simpa using hroutine)

end Tables

theorem string_rows (hused : search.strings = true) :
    OffersRows (Claims search stream data .string) (Scan.strings search.minLength data)
      (fun m => decide (search.skipBelow ≤ m.offset)) Symbol.ofString := by
  intro place s
  constructor
  · intro hs
    cases hs with
    | string _ hm hskip => exact ⟨_, hm, by simpa using hskip, rfl⟩
  · rintro ⟨m, hm, hskip, rfl⟩
    exact Claims.string hused hm (by simpa using hskip)

theorem Claims.listed (hne : stream ≠ []) (source : SymbolKind) (place : Nat) (s : Symbol)
    (h : Claims search stream data source place s) :
    source ∈ sources ∧ ∃ t ∈ claimsBy search stream data source, t.address = s.address := by
  cases h with
  | imported hused hparse hi =>
    refine ⟨by decide, _, ?_, rfl⟩
    simp only [claimsBy, hparse, if_pos hused]
    exact List.mem_map_of_mem (List.mem_of_getElem? hi)
  | exported hused hparse he hroutine =>
    refine ⟨by decide, _, ?_, rfl⟩
    simp only [claimsBy, hparse, if_pos hused]
    exact List.mem_map_of_mem (List.mem_filter.mpr ⟨List.mem_of_getElem? he, by simp [hroutine]⟩)
  | entry hi => exact ⟨by decide, routineClaims_listed hne (Routine.Nominates.entry hi)⟩
  | prologue hi hmatches =>
    exact ⟨by decide, routineClaims_listed hne (Routine.Nominates.prologue rfl hi hmatches)⟩
  | string hused hm hskip =>
    refine ⟨by decide, _, ?_, rfl⟩
    simp only [claimsBy, stringClaims, if_pos hused]
    exact List.mem_map_of_mem (List.mem_filter.mpr ⟨List.mem_of_getElem? hm, by simpa using hskip⟩)

theorem firstPlace_of_find? (hne : stream ≠ []) {a : Int} {s : Symbol} (source : SymbolKind)
    (h : (claimsBy search stream data source).find? (·.address = a) = some s) :
    ∃ place, FirstPlace (Claims search stream data source) Symbol.address place s := by
  cases source with
  | imported =>
    rw [claimsBy] at h
    split at h
    · cases h
    · next header hparse =>
      split at h
      · next hused =>
        rw [← List.filter_true (Image.imports data search.bitness (some header))] at h
        exact (imported_rows hparse hused).first h
      · cases h
  | exported =>
    rw [claimsBy] at h
    split at h
    · cases h
    · next header hparse =>
      split at h
      · next hused => exact (exported_rows hparse hused).first h
      · cases h
  | routine =>
    rw [claimsBy, routineClaims_eq hne] at h
    obtain ⟨r, hr, rfl⟩ := List.mem_map.mp (List.mem_of_find?_eq_some h)
    obtain ⟨source, place, hfirst⟩ := Routine.first_of_find? (Routine.mem_elected_iff.mp hr)
    exact first_routine hfirst
  | string =>
    rw [claimsBy, stringClaims] at h
    split at h
    · next hused => exact (string_rows hused).first h
    · cases h
  | data => cases h

end Sources

/-! ## The table -/

theorem resolve_ok {search : Search} {stream : Stream} (data : Bytes) (hne : stream ≠ []) :
    resolve search stream (some data) =
      .ok (Table.firstClaims ((claims search stream data).map fun s => (s.address, s))) := by
  rw [resolve, List.isEmpty_eq_false_iff.mpr hne]
  rfl

structure Resolved (search : Search) (stream : Stream) (data : Bytes) (t : SymbolTable) : Prop where
  keyed : ∀ e ∈ t.entries, e.2.address = e.1
  addresses : ∀ a, a ∈ t.keys ↔
    ∃ source place s, Claims search stream data source place s ∧ s.address = a
  first : ∀ e ∈ t.entries, ∃ place,
    FirstOffer sources (Claims search stream data) Symbol.address e.2.kind place e.2

section Table

variable {search : Search} {stream : Stream} {data : Bytes} {t : SymbolTable}
  (ht : resolve search stream (some data) = .ok t)

include ht

theorem get?_resolve (hne : stream ≠ []) (a : Int) :
    t.get? a = (sources.flatMap (claimsBy search stream data)).find? (·.address = a) := by
  rw [resolve_ok data hne] at ht
  cases ht
  rw [Table.get?_firstClaims_by Symbol.address, claims_eq]

theorem first_of_get? (hne : stream ≠ []) {a : Int} {s : Symbol} (hs : t.get? a = some s) :
    ∃ place, FirstOffer sources (Claims search stream data) Symbol.address s.kind place s := by
  rw [get?_resolve ht hne] at hs
  obtain ⟨source, place, hfirst⟩ := firstOffer_of_find? (Claims.listed hne)
    (fun source hfind => firstPlace_of_find? hne source hfind) hs
  rw [← hfirst.1.kind_eq] at hfirst
  exact ⟨place, hfirst⟩

theorem mem_keys_resolve (hne : stream ≠ []) (a : Int) : a ∈ t.keys ↔
    ∃ source place s, Claims search stream data source place s ∧ s.address = a := by
  rw [Table.mem_keys_iff]
  constructor
  · rintro ⟨s, hs⟩
    obtain ⟨place, hfirst⟩ := first_of_get? ht hne hs
    rw [get?_resolve ht hne] at hs
    exact ⟨s.kind, place, s, hfirst.1, by simpa using List.find?_some hs⟩
  · rintro ⟨source, place, s, hs, rfl⟩
    rw [get?_resolve ht hne]
    exact find?_of_offer (Claims.listed hne) hs

end Table

/-- Every claimed address has the symbol of the first claim, and no other address has one. -/
theorem resolve_claimed (search : Search) (stream : Stream) (data : Bytes) (hne : stream ≠ []) :
    ∃ t, resolve search stream (some data) = .ok t ∧ Resolved search stream data t := by
  obtain ⟨t, ht⟩ : ∃ t, resolve search stream (some data) = .ok t := ⟨_, resolve_ok data hne⟩
  refine ⟨t, ht, ?_⟩
  constructor
  case keyed =>
    intro e he
    have hget := (t.get?_eq_some_iff e.1 e.2).mpr he
    rw [get?_resolve ht hne] at hget
    simpa using List.find?_some hget
  case addresses => exact mem_keys_resolve ht hne
  case first =>
    intro e he
    exact first_of_get? ht hne ((t.get?_eq_some_iff e.1 e.2).mpr he)

/-- A string that lies where a prologue starts, behind one that is left out. -/
theorem resolve_claimed_strings : Routine.callingStream ≠ [] ∧
    ∃ t, resolve ⟨.bits64, true, true, true, 2, 16⟩ Routine.callingStream
        (some #[0x6D, 0x61, 0x70, 0, 0, 0, 0, 0, 0, 0, 0, 0, 0, 0, 0, 0, 0x6F, 0x6B]) = .ok t ∧
      Resolved ⟨.bits64, true, true, true, 2, 16⟩ Routine.callingStream
        #[0x6D, 0x61, 0x70, 0, 0, 0, 0, 0, 0, 0, 0, 0, 0, 0, 0, 0, 0x6F, 0x6B] t :=
  ⟨by decide, resolve_claimed ⟨.bits64, true, true, true, 2, 16⟩ Routine.callingStream
    #[0x6D, 0x61, 0x70, 0, 0, 0, 0, 0, 0, 0, 0, 0, 0, 0, 0, 0, 0x6F, 0x6B] (by decide)⟩

end CodeAtlas.SymbolTable
