import CodeAtlas.Proofs.FlowGraph.Reach
import CodeAtlas.Proofs.Routine.Nomination

set_option autoImplicit false

namespace CodeAtlas.Routine

theorem elected_graph {search : Search} {stream : Stream} {data : Option Bytes} {r : Routine}
    (hr : r ∈ elected search stream data) : r.graph = none := by
  obtain ⟨source, place, hfirst⟩ := first_of_find? (mem_elected_iff.mp hr)
  exact hfirst.1.plain.1

theorem atStart_mem_elected (search : Search) (i : Instruction) (rest : Stream)
    (data : Option Bytes) : atStart i.address ∈ elected search (i :: rest) data := by
  obtain ⟨later, hfirst⟩ : ∃ later, nominations search (i :: rest) data =
      atStart i.address :: later := ⟨_, rfl⟩
  rw [mem_elected_iff, hfirst]
  simp

theorem mem_attachGraphs {stream : Stream} {limit : Option Int} {rs : List Routine} {r : Routine}
    (hr : r ∈ attachGraphs stream limit rs) : ∃ s ∈ rs, r = s ∨ r = s.withGraph stream := by
  obtain ⟨⟨s, position⟩, hs, rfl⟩ := List.mem_map.mp hr
  have hmem : s ∈ rs := List.mem_of_getElem? (List.mk_mem_zipIdx_iff_getElem?.mp hs)
  refine ⟨s, hmem, ?_⟩
  split
  · exact Or.inr rfl
  · exact Or.inl rfl

theorem withGraph_mem_attachGraphs (stream : Stream) {rs : List Routine} {s : Routine}
    (hs : s ∈ rs) : s.withGraph stream ∈ attachGraphs stream none rs := by
  obtain ⟨position, hposition⟩ := List.mem_iff_getElem?.mp hs
  exact List.mem_map.mpr ⟨(s, position), List.mk_mem_zipIdx_iff_getElem?.mpr hposition, rfl⟩

theorem withGraph_cases (stream : Stream) (r : Routine) :
    (r.withGraph stream = r) ∨ ∃ g, FlowGraph.build stream r.address = .ok g ∧
      r.withGraph stream = { r with
        graph := some g
        instructionCount := Block.totalCount (g.depthFirst r.address) } := by
  cases hbuild : FlowGraph.build stream r.address with
  | error e => exact Or.inl (by rw [withGraph, hbuild])
  | ok g => exact Or.inr ⟨g, rfl, by rw [withGraph, hbuild]⟩

theorem withGraph_isSome {stream : Stream} {r : Routine}
    (h : stream.hasAddress r.address = true) :
    (r.withGraph stream).address = r.address ∧ (r.withGraph stream).graph.isSome = true := by
  rw [withGraph, FlowGraph.build_of_hasAddress h]
  exact ⟨rfl, rfl⟩

theorem attachGraphs_start (search : Search) {stream : Stream} (data : Option Bytes)
    (hne : stream ≠ []) : ∃ r ∈ attachGraphs stream none (elected search stream data),
      stream.addressAt? 0 = some r.address ∧ r.graph.isSome = true := by
  obtain ⟨i, rest, rfl⟩ := List.exists_cons_of_ne_nil hne
  have haddress : Stream.addressAt? (i :: rest) 0 = some (atStart i.address).address := rfl
  obtain ⟨hsame, hgraph⟩ := withGraph_isSome (Stream.hasAddress_iff.mpr ⟨0, haddress⟩)
  refine ⟨_, withGraph_mem_attachGraphs _ (atStart_mem_elected search i rest data), ?_, hgraph⟩
  rw [hsame]
  exact haddress

theorem discover_ok {search : Search} {stream : Stream} (data : Option Bytes)
    (hne : stream ≠ []) : discover search stream data =
      .ok (attachGraphs stream search.graphLimit (elected search stream data)) := by
  rw [discover, List.isEmpty_eq_false_iff.mpr hne]
  rfl

def CountsReachable (stream : Stream) (r : Routine) : Prop :=
  ∃ (start : Nat) (reached : Finset Nat), stream.addressAt? start = some r.address ∧
    (∀ k, k ∈ reached ↔ Relation.ReflTransGen stream.Step start k) ∧
    r.instructionCount = reached.card

theorem countsReachable_of_mem {search : Search} {stream : Stream} {limit : Option Int}
    {data : Option Bytes} (hasc : stream.Ascending) {r : Routine}
    (hr : r ∈ attachGraphs stream limit (elected search stream data))
    (hgraph : r.graph.isSome = true) : CountsReachable stream r := by
  obtain ⟨s, hs, hattached⟩ := mem_attachGraphs hr
  have hbare := elected_graph hs
  have hnotBare : r ≠ s := by
    rintro rfl
    rw [hbare] at hgraph
    cases hgraph
  rcases withGraph_cases stream s with hsame | ⟨g, hbuild, hwith⟩
  · rw [hsame, or_self] at hattached
    exact absurd hattached hnotBare
  · obtain rfl := (hattached.resolve_left hnotBare).trans hwith
    obtain ⟨start, hstart⟩ := Stream.hasAddress_iff.mp (FlowGraph.build_ok hbuild).1
    obtain ⟨reached, hmem, hcount⟩ := FlowGraph.depthFirst_count hbuild hasc hstart
    exact ⟨start, reached, hstart, hmem, hcount⟩

/-- Every routine with a flow graph is counted with the instructions that it can reach. Unless
graphs are limited, the routine at the first instruction is one of them. -/
theorem discover_countsReachable (search : Search) (stream : Stream) (data : Option Bytes)
    (hne : stream ≠ []) (hasc : stream.Ascending) :
    ∃ rs, discover search stream data = .ok rs ∧
      (∀ r ∈ rs, r.graph.isSome = true → CountsReachable stream r) ∧
      (search.graphLimit = none →
        ∃ r ∈ rs, stream.addressAt? 0 = some r.address ∧ r.graph.isSome = true) := by
  refine ⟨_, discover_ok data hne, ?_, ?_⟩
  · intro r hr hgraph
    exact countsReachable_of_mem hasc hr hgraph
  · intro hlimit
    rw [hlimit]
    exact attachGraphs_start search data hne

theorem discover_countsReachable_loop :
    loopStream ≠ [] ∧ loopStream.Ascending ∧
      ∃ rs, discover ⟨true, true, true, true, .bits64, none⟩ loopStream none = .ok rs ∧
        (∀ r ∈ rs, r.graph.isSome = true → CountsReachable loopStream r) ∧
        ∃ r ∈ rs, loopStream.addressAt? 0 = some r.address ∧ r.graph.isSome = true := by
  refine ⟨by decide, by decide, ?_⟩
  obtain ⟨rs, hdiscover, hcounts, hstart⟩ :=
    discover_countsReachable ⟨true, true, true, true, .bits64, none⟩ loopStream none (by decide)
      (by decide)
  exact ⟨rs, hdiscover, hcounts, hstart rfl⟩

end CodeAtlas.Routine
