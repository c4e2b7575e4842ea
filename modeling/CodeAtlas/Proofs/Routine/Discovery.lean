import CodeAtlas.Proofs.Routine

set_option autoImplicit false

namespace CodeAtlas.Routine

theorem elect_addresses (rs : List Routine) :
    (elect rs).values.map (·.address) = (elect rs).keys := by
  rw [Table.values, Table.keys, List.map_map]
  apply List.map_congr_left
  intro e he
  have hget := ((elect rs).get?_eq_some_iff e.1 e.2).mpr he
  rw [elect_get?] at hget
  simpa using List.find?_some hget

theorem elected_pairwise (search : Search) (stream : Stream) (data : Option Bytes) :
    (elected search stream data).Pairwise fun r s => r.address < s.address := by
  have hnodup : ((elected search stream data).map (·.address)).Nodup := by
    have hperm := (List.mergeSort_perm (elect (nominations search stream data)).values
      fun r s => decide (r.address ≤ s.address)).map (·.address)
    rw [elect_addresses] at hperm
    exact hperm.nodup_iff.mpr (elect (nominations search stream data)).nodup
  refine ((List.pairwise_map.mp hnodup).and (sortBy_pairwise _ _)).imp ?_
  intro r s hrs
  omega

/-! ## Graphs by position -/

theorem attachGraphs_getElem? (stream : Stream) (limit : Option Int) (rs : List Routine) (n : Nat) :
    (attachGraphs stream limit rs)[n]? = rs[n]?.map fun r =>
      if withinLimit limit n then r.withGraph stream else r := by
  rw [attachGraphs, List.getElem?_map, List.getElem?_zipIdx, Option.map_map]
  simp [Function.comp_def]

theorem withinLimit_iff {limit : Option Int} {n : Nat} :
    withinLimit limit n = true ↔ ∀ bound, limit = some bound → (n : Int) < bound := by
  cases limit with
  | none => simp [withinLimit]
  | some bound => simp [withinLimit]

theorem withGraph_eq_self {stream : Stream} {r : Routine}
    (h : stream.hasAddress r.address = false) : r.withGraph stream = r := by
  rcases withGraph_cases stream r with hsame | ⟨g, hbuild, _⟩
  · exact hsame
  · rw [(FlowGraph.build_ok hbuild).1] at h
    cases h

def GetsGraph (search : Search) (stream : Stream) (position : Nat) (a : Int) : Prop :=
  (∀ bound, search.graphLimit = some bound → (position : Int) < bound) ∧
    stream.hasAddress a = true

/-- A routine is what was nominated, with a flow graph from its address or without one. -/
inductive Attached (search : Search) (stream : Stream) (position : Nat) (s : Routine) :
    Routine → Prop where
  | graphed {g : FlowGraph} : GetsGraph search stream position s.address →
      FlowGraph.build stream s.address = .ok g →
      Attached search stream position s { s with
        graph := some g
        instructionCount := Block.totalCount (g.depthFirst s.address) }
  | plain : ¬ GetsGraph search stream position s.address → Attached search stream position s s

theorem attached_of_getElem? {search : Search} {stream : Stream} {rs : List Routine} {n : Nat}
    {r : Routine} (hr : (attachGraphs stream search.graphLimit rs)[n]? = some r) :
    ∃ s, rs[n]? = some s ∧ Attached search stream n s r := by
  rw [attachGraphs_getElem?, Option.map_eq_some_iff] at hr
  obtain ⟨s, hs, rfl⟩ := hr
  refine ⟨s, hs, ?_⟩
  cases hlimit : withinLimit search.graphLimit n with
  | false =>
    refine Attached.plain ?_
    rintro ⟨hwithin, _⟩
    rw [withinLimit_iff.mpr hwithin] at hlimit
    cases hlimit
  | true =>
    cases haddress : stream.hasAddress s.address with
    | false =>
      rw [if_pos rfl, withGraph_eq_self haddress]
      refine Attached.plain ?_
      rintro ⟨_, hstarts⟩
      rw [haddress] at hstarts
      cases hstarts
    | true =>
      have hbuild := FlowGraph.build_of_hasAddress haddress
      rw [if_pos rfl, withGraph, hbuild]
      exact Attached.graphed ⟨withinLimit_iff.mp hlimit, haddress⟩ hbuild

/-! ## The result -/

structure Discovered (search : Search) (stream : Stream) (data : Option Bytes)
    (rs : List Routine) : Prop where
  ascending : rs.Pairwise fun r s => r.address < s.address
  addresses : ∀ a, (∃ r ∈ rs, r.address = a) ↔
    ∃ source place s, Nominates search stream data source place s ∧ s.address = a
  first : ∀ r ∈ rs, ∃ place s, First search stream data r.source place s ∧
    r = { s with graph := r.graph, instructionCount := r.instructionCount }
  graph_iff : ∀ n r, rs[n]? = some r →
    ((∃ g, FlowGraph.build stream r.address = .ok g ∧ r.graph = some g) ↔
      GetsGraph search stream n r.address)
  graph_none : ∀ n r, rs[n]? = some r → ¬ GetsGraph search stream n r.address →
    r.graph = none ∧ r.instructionCount = 0

section Attached

variable {search : Search} {stream : Stream} {n : Nat} {s r : Routine}

theorem Attached.same (h : Attached search stream n s r) :
    r = { s with graph := r.graph, instructionCount := r.instructionCount } := by
  cases h <;> rfl

theorem Attached.graph_iff (h : Attached search stream n s r) (hplain : s.graph = none) :
    (∃ g, FlowGraph.build stream r.address = .ok g ∧ r.graph = some g) ↔
      GetsGraph search stream n r.address := by
  cases h with
  | graphed hgets hbuild => exact ⟨fun _ => hgets, fun _ => ⟨_, hbuild, rfl⟩⟩
  | plain hnot =>
    refine ⟨?_, fun hgets => absurd hgets hnot⟩
    rintro ⟨g, _, hgraph⟩
    rw [hplain] at hgraph
    cases hgraph

theorem Attached.eq_of_not (h : Attached search stream n s r)
    (hnot : ¬ GetsGraph search stream n r.address) : r = s := by
  cases h with
  | graphed hgets _ => exact absurd hgets hnot
  | plain _ => rfl

end Attached

theorem elected_first {search : Search} {stream : Stream} {data : Option Bytes} {s : Routine}
    (hs : s ∈ elected search stream data) : ∃ place, First search stream data s.source place s := by
  obtain ⟨source, place, hfirst⟩ := first_of_find? (mem_elected_iff.mp hs)
  rw [← hfirst.1.source_eq] at hfirst
  exact ⟨place, hfirst⟩

theorem mem_elected_addresses {search : Search} {stream : Stream} {data : Option Bytes} {a : Int} :
    a ∈ (elected search stream data).map (·.address) ↔
      ∃ source place s, Nominates search stream data source place s ∧ s.address = a := by
  rw [List.mem_map]
  constructor
  · rintro ⟨s, hs, rfl⟩
    obtain ⟨place, hfirst⟩ := elected_first hs
    exact ⟨_, place, s, hfirst.1, rfl⟩
  · rintro ⟨source, place, s, hs, rfl⟩
    obtain ⟨t, ht⟩ := find?_of_nominates hs
    have haddress : t.address = s.address := by simpa using List.find?_some ht
    rw [← haddress] at ht
    exact ⟨t, mem_elected_iff.mpr ht, haddress⟩

theorem attached_of_mem {search : Search} {stream : Stream} {rs : List Routine} {r : Routine}
    (hr : r ∈ attachGraphs stream search.graphLimit rs) :
    ∃ n, ∃ s ∈ rs, Attached search stream n s r := by
  obtain ⟨n, hn⟩ := List.mem_iff_getElem?.mp hr
  obtain ⟨s, hs, hattached⟩ := attached_of_getElem? hn
  exact ⟨n, s, List.mem_of_getElem? hs, hattached⟩

theorem withGraph_address (stream : Stream) (r : Routine) :
    (r.withGraph stream).address = r.address := by
  rcases withGraph_cases stream r with hsame | ⟨g, _, hwith⟩
  · rw [hsame]
  · rw [hwith]

theorem attachGraphs_addresses (stream : Stream) (limit : Option Int) (rs : List Routine) :
    (attachGraphs stream limit rs).map (·.address) = rs.map (·.address) := by
  apply List.ext_getElem?
  intro n
  simp only [List.getElem?_map, attachGraphs_getElem?, Option.map_map]
  congr 1
  funext r
  simp only [Function.comp_apply]
  split
  · exact withGraph_address stream r
  · rfl

theorem discover_callTarget {search : Search} {stream : Stream} (data : Option Bytes)
    (hused : search.callGraph = true) {a : Int} (ha : a ∈ callTargets stream) :
    ∃ rs, discover search stream data = .ok rs ∧ ∃ r ∈ rs, r.address = a := by
  obtain ⟨k, i, hi, hcall, htarget⟩ := mem_callTargets.mp ha
  have hne : stream ≠ [] := List.ne_nil_of_mem (List.mem_of_getElem? hi)
  refine ⟨_, discover_ok data hne, ?_⟩
  rw [← List.mem_map, attachGraphs_addresses, mem_elected_addresses]
  exact ⟨_, k, _, Nominates.callTarget hused hi hcall htarget, rfl⟩

/-- Discovery finds every nominated address with its first nomination. -/
theorem discover_nominated (search : Search) (stream : Stream) (data : Option Bytes)
    (hne : stream ≠ []) :
    ∃ rs, discover search stream data = .ok rs ∧ Discovered search stream data rs := by
  refine ⟨_, discover_ok data hne, ?_⟩
  constructor
  case ascending =>
    rw [← List.pairwise_map (f := Routine.address), attachGraphs_addresses, List.pairwise_map]
    exact elected_pairwise search stream data
  case addresses =>
    intro a
    rw [← List.mem_map, attachGraphs_addresses]
    exact mem_elected_addresses
  case first =>
    intro r hr
    obtain ⟨n, s, hs, hattached⟩ := attached_of_mem hr
    obtain ⟨place, hfirst⟩ := elected_first hs
    have hsource : r.source = s.source := by rw [hattached.same]
    rw [hsource]
    exact ⟨place, s, hfirst, hattached.same⟩
  case graph_iff =>
    intro n r hr
    obtain ⟨s, hs, hattached⟩ := attached_of_getElem? hr
    exact hattached.graph_iff (elected_graph (List.mem_of_getElem? hs))
  case graph_none =>
    intro n r hr hnot
    obtain ⟨s, hs, hattached⟩ := attached_of_getElem? hr
    obtain ⟨place, hfirst⟩ := elected_first (List.mem_of_getElem? hs)
    rw [hattached.eq_of_not hnot]
    exact hfirst.1.plain

/-- A prologue at the first instruction, a call back to it and a call out of the stream. -/
def callingStream : Stream :=
  [{ plainInstruction 16 "mov" none with
      kinds := [.register, .register], registers := [some "rbp", some "rsp"] },
   plainInstruction 19 "call" (some 16), plainInstruction 24 "call" (some 64),
   plainInstruction 29 "ret" none]

theorem discover_nominated_calls : callingStream ≠ [] ∧
    ∃ rs, discover ⟨true, true, true, true, .bits64, some 1⟩ callingStream (some #[0x4D, 0x5A]) =
        .ok rs ∧
      Discovered ⟨true, true, true, true, .bits64, some 1⟩ callingStream (some #[0x4D, 0x5A]) rs :=
  ⟨by decide, discover_nominated ⟨true, true, true, true, .bits64, some 1⟩ callingStream
    (some #[0x4D, 0x5A]) (by decide)⟩

end CodeAtlas.Routine
