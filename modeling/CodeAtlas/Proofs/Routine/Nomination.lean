import CodeAtlas.Proofs.Precedence
import CodeAtlas.Proofs.Sequence
import CodeAtlas.Proofs.Table
import CodeAtlas.Routine

/-!
# Nominations

`Nominates` says which heuristic nominates which routine, and at which place: the number of the
entry in a table of the image, or the index of an instruction. Heuristics are tried in the order of
`RoutineSource.all`, and one that reads a table from its first entry to its last. An address is
elected with the first nomination in this order.
-/

set_option autoImplicit false

namespace CodeAtlas

theorem RoutineSource.mem_all (x : RoutineSource) : x ∈ all := by
  cases x <;> decide

namespace Routine

/-- `Nominates search stream data source place r`: the heuristic of the source is used and
nominates the routine at the place. -/
inductive Nominates (search : Search) (stream : Stream) (data : Option Bytes) :
    RoutineSource → Nat → Routine → Prop where
  | entry {i : Instruction} : stream[0]? = some i →
      Nominates search stream data .entry 0 (atStart i.address)
  | exported {bytes : Bytes} {h : Image.Header} {k : Nat} {e : Image.Export} :
      search.exports = true → data = some bytes → Image.Header.parse? none bytes = some h →
      (Image.exports bytes (some h))[k]? = some e → e.isForwarder = false →
      Nominates search stream data .exported k (ofExport h.imageBase e)
  | imported {bytes : Bytes} {h : Image.Header} {k : Nat} {i : Image.Import} :
      search.imports = true → data = some bytes → Image.Header.parse? none bytes = some h →
      (Image.imports bytes search.bitness (some h))[k]? = some i →
      Nominates search stream data .imported k (ofImport i)
  | prologue {k : Nat} {i : Instruction} : search.prologues = true → stream[k]? = some i →
      matchesPrologue stream k = true →
      Nominates search stream data .prologue k (bare i.address .prologue)
  | callTarget {k : Nat} {i : Instruction} {a : Int} : search.callGraph = true →
      stream[k]? = some i → i.isCall = true → i.branchTarget? = some a →
      Nominates search stream data .callTarget k (bare a .callTarget)

def imageNominations (data : Option Bytes) (read : Bytes → Image.Header → List Routine) :
    List Routine :=
  match data with
  | none => []
  | some bytes =>
    match Image.Header.parse? none bytes with
    | none => []
    | some h => read bytes h

def nominationsBy (search : Search) (stream : Stream) (data : Option Bytes) :
    RoutineSource → List Routine
  | .entry => (stream.head?.map fun i => atStart i.address).toList
  | .exported => imageNominations data fun bytes h =>
      if search.exports then
        ((Image.exports bytes (some h)).filter (!·.isForwarder)).map (ofExport h.imageBase)
      else []
  | .imported => imageNominations data fun bytes h =>
      if search.imports then (Image.imports bytes search.bitness (some h)).map ofImport else []
  | .prologue => prologueNominations search stream
  | .callTarget => callNominations search stream

theorem nominations_eq (search : Search) (stream : Stream) (data : Option Bytes) :
    nominations search stream data =
      RoutineSource.all.flatMap (nominationsBy search stream data) := by
  simp only [nominations, tableNominations, RoutineSource.all, List.flatMap_cons,
    List.flatMap_nil, nominationsBy, imageNominations]
  cases data with
  | none => simp
  | some bytes => cases hparse : Image.Header.parse? none bytes <;> simp [hparse]

/-! ## What each heuristic nominates -/

theorem find?_imageNominations {data : Option Bytes} {read : Bytes → Image.Header → List Routine}
    {p : Routine → Bool} {r : Routine} (h : (imageNominations data read).find? p = some r) :
    ∃ bytes header, data = some bytes ∧ Image.Header.parse? none bytes = some header ∧
      (read bytes header).find? p = some r := by
  cases data with
  | none => cases h
  | some bytes =>
    rw [imageNominations] at h
    split at h
    · cases h
    · next header hparse => exact ⟨bytes, header, rfl, hparse, h⟩

theorem matchesPrologue_succ (i : Instruction) (rest : Stream) (k : Nat) :
    matchesPrologue (i :: rest) (k + 1 : Nat) = matchesPrologue rest k := by
  have hpos : ¬ ((k + 1 : Nat) : Int) < 0 := by omega
  have hnonneg : ¬ (k : Int) < 0 := by omega
  rw [matchesPrologue, matchesPrologue, if_neg hpos, if_neg hnonneg, Int.toNat_natCast,
    Int.toNat_natCast, List.drop_succ_cons]

theorem mem_prologueAddresses {stream : Stream} {a : Int} :
    a ∈ prologueAddresses stream ↔ ∃ (k : Nat) (i : Instruction), stream[k]? = some i ∧
      matchesPrologue stream k = true ∧ i.address = a := by
  induction stream with
  | nil => simp [prologueAddresses]
  | cons i rest ih =>
    have hhead : matchesPrologue (i :: rest) (0 : Nat) = startsPrologue (i :: rest) := rfl
    have hsplit : a ∈ prologueAddresses (i :: rest) ↔
        (startsPrologue (i :: rest) = true ∧ i.address = a) ∨ a ∈ prologueAddresses rest := by
      rw [prologueAddresses]
      cases startsPrologue (i :: rest) <;> simp [eq_comm]
    rw [hsplit, ih]
    constructor
    · rintro (⟨hstarts, ha⟩ | ⟨k, j, hj, hmatches, ha⟩)
      · exact ⟨0, i, rfl, hstarts, ha⟩
      · exact ⟨k + 1, j, hj, by rwa [matchesPrologue_succ], ha⟩
    · rintro ⟨k, j, hj, hmatches, ha⟩
      cases k with
      | zero =>
        cases hj
        exact Or.inl ⟨hmatches, ha⟩
      | succ k =>
        rw [matchesPrologue_succ] at hmatches
        exact Or.inr ⟨k, j, hj, hmatches, ha⟩

theorem mem_callTargets {stream : Stream} {a : Int} :
    a ∈ callTargets stream ↔ ∃ (k : Nat) (i : Instruction), stream[k]? = some i ∧
      i.isCall = true ∧ i.branchTarget? = some a := by
  rw [callTargets, mem_ascending, List.mem_filterMap]
  have htarget : ∀ i : Instruction, callTarget? i = some a ↔
      i.isCall = true ∧ i.branchTarget? = some a := by
    intro i
    cases hcall : i.isCall <;> simp [callTarget?, hcall]
  simp only [htarget, List.mem_iff_getElem?]
  constructor
  · rintro ⟨i, ⟨k, hk⟩, hcall⟩
    exact ⟨k, i, hk, hcall⟩
  · rintro ⟨k, i, hk, hcall⟩
    exact ⟨i, ⟨k, hk⟩, hcall⟩

section Heuristics

variable {search : Search} {stream : Stream} {data : Option Bytes} {source : RoutineSource}
  {r : Routine}

section Tables

variable {bytes : Bytes} {header : Image.Header} (hdata : data = some bytes)
  (hparse : Image.Header.parse? none bytes = some header)

include hdata hparse

theorem exported_rows (hused : search.exports = true) :
    OffersRows (Nominates search stream data .exported) (Image.exports bytes (some header))
      (!·.isForwarder) (ofExport header.imageBase) := by
  intro place r
  constructor
  · intro hr
    cases hr with
    | exported _ hdata' hparse' he hroutine =>
      rw [hdata] at hdata'
      cases hdata'
      rw [hparse] at hparse'
      cases hparse'
      exact ⟨_, he, by simp [hroutine], rfl⟩
  · rintro ⟨e, he, hroutine, rfl⟩
    exact Nominates.exported hused hdata hparse he (by simpa using hroutine)

theorem imported_rows (hused : search.imports = true) :
    OffersRows (Nominates search stream data .imported)
      (Image.imports bytes search.bitness (some header)) (fun _ => true) ofImport := by
  intro place r
  constructor
  · intro hr
    cases hr with
    | imported _ hdata' hparse' hi =>
      rw [hdata] at hdata'
      cases hdata'
      rw [hparse] at hparse'
      cases hparse'
      exact ⟨_, hi, rfl, rfl⟩
  · rintro ⟨i, hi, _, rfl⟩
    exact Nominates.imported hused hdata hparse hi

end Tables

theorem Nominates.mem {place : Nat} (h : Nominates search stream data source place r) :
    r ∈ nominationsBy search stream data source := by
  cases h with
  | entry hi => simp [nominationsBy, List.head?_eq_getElem?, hi]
  | exported hused hdata hparse he hroutine =>
    simp only [nominationsBy, imageNominations, hdata, hparse, if_pos hused]
    exact List.mem_map_of_mem (List.mem_filter.mpr ⟨List.mem_of_getElem? he, by simp [hroutine]⟩)
  | imported hused hdata hparse hi =>
    simp only [nominationsBy, imageNominations, hdata, hparse, if_pos hused]
    exact List.mem_map_of_mem (List.mem_of_getElem? hi)
  | prologue hused hi hmatches =>
    rw [nominationsBy, prologueNominations, if_pos hused]
    exact List.mem_map_of_mem (mem_prologueAddresses.mpr ⟨_, _, hi, hmatches, rfl⟩)
  | callTarget hused hi hcall htarget =>
    rw [nominationsBy, callNominations, if_pos hused]
    exact List.mem_map_of_mem (mem_callTargets.mpr ⟨_, _, hi, hcall, htarget⟩)

theorem firstPlace_exported {a : Int}
    (h : (nominationsBy search stream data .exported).find? (·.address = a) = some r) :
    ∃ place, FirstPlace (Nominates search stream data .exported) address place r := by
  obtain ⟨bytes, header, hdata, hparse, hfind⟩ := find?_imageNominations h
  split at hfind
  · next hused => exact (exported_rows hdata hparse hused).first hfind
  · cases hfind

theorem firstPlace_imported {a : Int}
    (h : (nominationsBy search stream data .imported).find? (·.address = a) = some r) :
    ∃ place, FirstPlace (Nominates search stream data .imported) address place r := by
  obtain ⟨bytes, header, hdata, hparse, hfind⟩ := find?_imageNominations h
  split at hfind
  · next hused =>
    rw [← List.filter_true (Image.imports bytes search.bitness (some header))] at hfind
    exact (imported_rows hdata hparse hused).first hfind
  · cases hfind

theorem firstPlace_of_find? {a : Int}
    (h : (nominationsBy search stream data source).find? (·.address = a) = some r) :
    ∃ place, FirstPlace (Nominates search stream data source) address place r := by
  have hmem := List.mem_of_find?_eq_some h
  cases source with
  | entry =>
    obtain ⟨i, hi, rfl⟩ := Option.map_eq_some_iff.mp (Option.mem_toList.mp hmem)
    rw [List.head?_eq_getElem?] at hi
    exact ⟨0, Nominates.entry hi, fun _ _ _ _ => Nat.zero_le _⟩
  | exported => exact firstPlace_exported h
  | imported => exact firstPlace_imported h
  | prologue =>
    rw [nominationsBy, prologueNominations] at hmem
    split at hmem
    · next hused =>
      obtain ⟨_, ha, rfl⟩ := List.mem_map.mp hmem
      obtain ⟨k, i, hi, hmatches, rfl⟩ := mem_prologueAddresses.mp ha
      refine firstPlace_of_unique (Nominates.prologue hused hi hmatches) ?_
      rintro other s ⟨⟩ hsame
      exact congrArg (bare · .prologue) hsame
    · cases hmem
  | callTarget =>
    rw [nominationsBy, callNominations] at hmem
    split at hmem
    · next hused =>
      obtain ⟨_, ha, rfl⟩ := List.mem_map.mp hmem
      obtain ⟨k, i, hi, hcall, htarget⟩ := mem_callTargets.mp ha
      refine firstPlace_of_unique (Nominates.callTarget hused hi hcall htarget) ?_
      rintro other s ⟨⟩ hsame
      exact congrArg (bare · .callTarget) hsame
    · cases hmem

/-- No heuristic nominates the address of the routine before this nomination of it. -/
def First (search : Search) (stream : Stream) (data : Option Bytes) (source : RoutineSource)
    (place : Nat) (r : Routine) : Prop :=
  FirstOffer RoutineSource.all (Nominates search stream data) address source place r

theorem Nominates.listed (source : RoutineSource) (place : Nat) (r : Routine)
    (h : Nominates search stream data source place r) : source ∈ RoutineSource.all ∧
      ∃ s ∈ nominationsBy search stream data source, s.address = r.address :=
  ⟨source.mem_all, r, h.mem, rfl⟩

theorem first_of_find? {a : Int}
    (h : (nominations search stream data).find? (·.address = a) = some r) :
    ∃ source place, First search stream data source place r := by
  rw [nominations_eq] at h
  exact firstOffer_of_find? Nominates.listed (fun _ hfind => firstPlace_of_find? hfind) h

theorem find?_of_nominates {place : Nat} (h : Nominates search stream data source place r) :
    ∃ s, (nominations search stream data).find? (·.address = r.address) = some s := by
  rw [nominations_eq]
  exact find?_of_offer Nominates.listed h

theorem Nominates.plain {place : Nat} (h : Nominates search stream data source place r) :
    r.graph = none ∧ r.instructionCount = 0 := by
  cases h <;> exact ⟨rfl, rfl⟩

theorem Nominates.source_eq {place : Nat} (h : Nominates search stream data source place r) :
    r.source = source := by
  cases h <;> rfl

end Heuristics

/-! ## Election -/

theorem elect_get? (rs : List Routine) (a : Int) :
    (elect rs).get? a = rs.find? (·.address = a) :=
  Table.get?_firstClaims_by Routine.address rs a

theorem mem_elected_iff {search : Search} {stream : Stream} {data : Option Bytes} {r : Routine} :
    r ∈ elected search stream data ↔
      (nominations search stream data).find? (·.address = r.address) = some r := by
  rw [elected, sortBy, List.mem_mergeSort, Table.mem_values_iff]
  simp only [elect_get?]
  constructor
  · rintro ⟨a, ha⟩
    have haddress : r.address = a := by simpa using List.find?_some ha
    rwa [haddress]
  · intro hr
    exact ⟨r.address, hr⟩

end Routine

end CodeAtlas
