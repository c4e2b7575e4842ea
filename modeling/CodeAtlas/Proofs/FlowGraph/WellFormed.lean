import CodeAtlas.Proofs.FlowGraph.Edge

/-!
# Flow graphs of arbitrary streams

Nothing is assumed here of the order of a stream: addresses may fall and may come again, so that
blocks may overlap and one instruction may lie in several of them. A key then stands for the last
instruction at its address. What a graph says of itself holds all the same: its edges are listed at
both ends and lead to keys, and every block lies in the stream.
-/

set_option autoImplicit false

namespace CodeAtlas.FlowGraph

/-! ## Spans -/

theorem lastIndex?_of_mem_starts {stream : Stream} {entry a : Int}
    (ha : a ∈ starts stream entry) : ∃ first, stream.lastIndex? a = some first :=
  Option.isSome_iff_exists.mp (Stream.lastIndex?_isSome_iff.mpr (mem_starts_iff.mp ha).2)

structure Span.Placed (stream : Stream) (key : Int) (span : Span) : Prop where
  address : stream.addressAt? span.first = some key
  ordered : span.first ≤ span.last
  inside : span.last < stream.length

theorem spans_placed {stream : Stream} {entry : Int} {keys : List Int}
    (hsuffix : keys <:+ starts stream entry) :
    ∀ e ∈ spans stream keys, e.2.Placed stream e.1 := by
  induction keys with
  | nil => simp [spans]
  | cons a rest ih =>
    obtain ⟨first, hfirst⟩ := lastIndex?_of_mem_starts (hsuffix.subset (List.mem_cons_self ..))
    have haddress := Stream.lastIndex?_address hfirst
    rw [spans, hfirst, Option.getD_some]
    intro e he
    rcases List.mem_cons.mp he with rfl | hmem
    · obtain ⟨head, hhead, rfl⟩ := Stream.addressAt?_eq_some_iff.mp haddress
      have hopen := reaches_next_key (starts_pairwise stream entry) hsuffix
      exact ⟨haddress, Nat.le_add_right _ _, spanFrom_last_lt hhead hopen⟩
    · exact ih ((List.suffix_cons a rest).trans hsuffix) e hmem

theorem spans_first (stream : Stream) (keys : List Int) :
    ∀ e ∈ spans stream keys, e.2.first = (stream.lastIndex? e.1).getD 0 := by
  induction keys with
  | nil => simp [spans]
  | cons a rest ih =>
    rw [spans]
    intro e he
    rcases List.mem_cons.mp he with rfl | hmem
    · rfl
    · exact ih e hmem

theorem spans_key_unique {stream : Stream} {entry : Int} {e f : Int × Span}
    (he : e ∈ spans stream (starts stream entry)) (hf : f ∈ spans stream (starts stream entry))
    (hkey : e.1 = f.1) : e = f := by
  have hnodup : ((spans stream (starts stream entry)).map Prod.fst).Nodup := by
    rw [spans_keys]
    exact (starts_pairwise stream entry).imp Int.ne_of_lt
  exact List.inj_on_of_nodup_map hnodup he hf hkey

/-! ## Edges -/

theorem edgesOf_keys (stream : Stream) (entry : Int) :
    (edgesOf stream entry).map Prod.fst = starts stream entry := by
  rw [edgesOf, List.map_map]
  exact spans_keys stream (starts stream entry)

theorem mem_predecessors_iff {stream : Stream} {entry a key : Int} :
    a ∈ predecessors (edgesOf stream entry) key ↔
      ∃ e ∈ spans stream (starts stream entry), e.1 = a ∧
        key ∈ successors stream (starts stream entry) e.2 := by
  simp only [predecessors, edgesOf, List.mem_map, List.mem_filter, decide_eq_true_eq]
  constructor
  · rintro ⟨_, ⟨⟨e, he, rfl⟩, hkey⟩, rfl⟩
    exact ⟨e, he, rfl, hkey⟩
  · rintro ⟨e, he, rfl, hkey⟩
    exact ⟨_, ⟨⟨e, he, rfl⟩, hkey⟩, rfl⟩

theorem predecessors_pairwise (stream : Stream) (entry key : Int) :
    (predecessors (edgesOf stream entry) key).Pairwise (· < ·) := by
  have hsub : (predecessors (edgesOf stream entry) key).Sublist (starts stream entry) := by
    rw [← edgesOf_keys, predecessors]
    exact List.filter_sublist.map Prod.fst
  exact List.Pairwise.sublist hsub (starts_pairwise stream entry)

theorem mem_successors_iff_step {stream : Stream} {entry a : Int} {span : Span}
    (ha : a ∈ starts stream entry) :
    a ∈ successors stream (starts stream entry) span ↔
      ∃ j, stream.Step span.last j ∧ stream.addressAt? j = some a := by
  rw [mem_successors_iff, mem_exits_iff]
  constructor
  · rintro ⟨⟨i, hi, ⟨hreturn, hjump, hnext⟩ | ⟨hjump, hbranch⟩⟩, _⟩
    · exact ⟨_, Stream.Step.fall hi hreturn hjump (Stream.addressAt?_lt hnext), hnext⟩
    · obtain ⟨_, j, hj⟩ := mem_starts_iff.mp ha
      exact ⟨j, Stream.Step.jump hi hjump hbranch hj, hj⟩
  · rintro ⟨j, hstep, hj⟩
    refine ⟨?_, ha⟩
    cases hstep with
    | fall hi hreturn hjump _ => exact ⟨_, hi, Or.inl ⟨hreturn, hjump, hj⟩⟩
    | jump hi hjump hbranch haddress =>
      rw [hj] at haddress
      cases haddress
      exact ⟨_, hi, Or.inr ⟨hjump, hbranch⟩⟩

/-! ## Graphs -/

structure WellFormed (stream : Stream) (entry : Int) (g : FlowGraph) : Prop where
  keys : ∀ a, a ∈ g.blocks.keys ↔ Leads stream entry a
  stored : ∀ key b, g.block? key = some b → b.startAddress = key
  indices : ∀ b ∈ g.blocks.values,
    0 ≤ b.startIndex ∧ b.startIndex ≤ b.endIndex ∧ b.endIndex < stream.length
  starts_at : ∀ b ∈ g.blocks.values,
    stream.addressAt? b.startIndex.toNat = some b.startAddress
  successors_present : ∀ b ∈ g.blocks.values, ∀ a ∈ b.successors, a ∈ g.blocks.keys
  predecessors_present : ∀ b ∈ g.blocks.values, ∀ a ∈ b.predecessors, a ∈ g.blocks.keys
  edge_symm : ∀ b ∈ g.blocks.values, ∀ c ∈ g.blocks.values,
    c.startAddress ∈ b.successors ↔ b.startAddress ∈ c.predecessors
  edge_iff_step : ∀ b ∈ g.blocks.values, ∀ c ∈ g.blocks.values, c.startAddress ∈ b.successors ↔
    ∃ j, stream.Step b.endIndex.toNat j ∧ stream.addressAt? j = some c.startAddress
  successors_nodup : ∀ b ∈ g.blocks.values, b.successors.Nodup
  predecessors_nodup : ∀ b ∈ g.blocks.values, b.predecessors.Nodup
  predecessors_ascending : ∀ b ∈ g.blocks.values, b.predecessors.Pairwise (· < ·)
  exit_iff : ∀ b ∈ g.blocks.values, b.isExit = true ↔ b.successors = []
  entry_iff : ∀ b ∈ g.blocks.values, b.isEntry = true ↔ b.startAddress = entry
  entered : ∃ b, g.block? entry = some b ∧ b.isEntry = true

section Built

variable {stream : Stream} {entry : Int} {g : FlowGraph} (hbuild : build stream entry = .ok g)

include hbuild

theorem values_blockAt {b : Block} (hb : b ∈ g.blocks.values) :
    ∃ e ∈ spans stream (starts stream entry), b = blockAt stream entry e := by
  rw [build_values hbuild] at hb
  obtain ⟨e, he, heq⟩ := List.mem_map.mp hb
  exact ⟨e, he, heq.symm⟩

theorem values_endAddress {b : Block} (hb : b ∈ g.blocks.values) :
    stream.addressAt? b.endIndex.toNat = some b.endAddress := by
  obtain ⟨e, he, rfl⟩ := values_blockAt hbuild hb
  obtain ⟨a, ha⟩ := Stream.exists_addressAt? (spans_placed (List.suffix_refl _) e he).inside
  change stream.addressAt? e.2.last = some ((stream.addressAt? e.2.last).getD e.1)
  rw [ha, Option.getD_some]

theorem successors_present {b : Block} (hb : b ∈ g.blocks.values) {a : Int}
    (ha : a ∈ b.successors) : a ∈ g.blocks.keys := by
  obtain ⟨e, _, rfl⟩ := values_blockAt hbuild hb
  rw [build_keys hbuild]
  exact (mem_successors_iff.mp ha).2

theorem predecessors_present {b : Block} (hb : b ∈ g.blocks.values) {a : Int}
    (ha : a ∈ b.predecessors) : a ∈ g.blocks.keys := by
  obtain ⟨e, _, rfl⟩ := values_blockAt hbuild hb
  obtain ⟨f, hf, rfl, _⟩ := mem_predecessors_iff.mp ha
  rw [build_keys hbuild]
  exact mem_starts_of_mem_spans hf

theorem edge_symm {b c : Block} (hb : b ∈ g.blocks.values) (hc : c ∈ g.blocks.values) :
    c.startAddress ∈ b.successors ↔ b.startAddress ∈ c.predecessors := by
  obtain ⟨e, he, rfl⟩ := values_blockAt hbuild hb
  obtain ⟨f, hf, rfl⟩ := values_blockAt hbuild hc
  change f.1 ∈ successors stream (starts stream entry) e.2 ↔
    e.1 ∈ predecessors (edgesOf stream entry) f.1
  rw [mem_predecessors_iff]
  constructor
  · intro hedge
    exact ⟨e, he, rfl, hedge⟩
  · rintro ⟨e', he', hkey, hedge⟩
    rwa [spans_key_unique he' he hkey] at hedge

theorem entered : ∃ b, g.block? entry = some b ∧ b.isEntry = true := by
  have hkey := (mem_starts_iff_leads (build_ok hbuild).1).mpr Leads.entry
  obtain ⟨b, hb⟩ := block?_of_mem_starts hbuild hkey
  obtain ⟨e, _, rfl, rfl⟩ := block?_blockAt hbuild hb
  exact ⟨_, hb, by simp [blockAt, blockOf]⟩

theorem build_ok_wellFormed : WellFormed stream entry g := by
  have hplaced : ∀ e ∈ spans stream (starts stream entry), e.2.Placed stream e.1 :=
    spans_placed (List.suffix_refl _)
  constructor
  case keys =>
    intro a
    rw [build_keys hbuild]
    exact mem_starts_iff_leads (build_ok hbuild).1
  case stored =>
    intro key b hb
    obtain ⟨e, _, rfl, rfl⟩ := block?_blockAt hbuild hb
    rfl
  case indices =>
    intro b hb
    obtain ⟨e, he, rfl⟩ := values_blockAt hbuild hb
    have hspan := hplaced e he
    exact ⟨Int.natCast_nonneg _, Int.ofNat_le.mpr hspan.ordered, Int.ofNat_lt.mpr hspan.inside⟩
  case starts_at =>
    intro b hb
    obtain ⟨e, he, rfl⟩ := values_blockAt hbuild hb
    exact (hplaced e he).address
  case successors_present => exact fun b hb a ha => successors_present hbuild hb ha
  case predecessors_present => exact fun b hb a ha => predecessors_present hbuild hb ha
  case edge_symm => exact fun b hb c hc => edge_symm hbuild hb hc
  case edge_iff_step =>
    intro b hb c hc
    obtain ⟨e, he, rfl⟩ := values_blockAt hbuild hb
    obtain ⟨f, hf, rfl⟩ := values_blockAt hbuild hc
    exact mem_successors_iff_step (mem_starts_of_mem_spans hf)
  case successors_nodup =>
    intro b hb
    obtain ⟨e, _, rfl⟩ := values_blockAt hbuild hb
    exact nodup_eraseDups _
  case predecessors_nodup =>
    intro b hb
    obtain ⟨e, _, rfl⟩ := values_blockAt hbuild hb
    exact (predecessors_pairwise stream entry e.1).imp Int.ne_of_lt
  case predecessors_ascending =>
    intro b hb
    obtain ⟨e, _, rfl⟩ := values_blockAt hbuild hb
    exact predecessors_pairwise stream entry e.1
  case exit_iff =>
    intro b hb
    obtain ⟨e, _, rfl⟩ := values_blockAt hbuild hb
    exact List.isEmpty_iff
  case entry_iff =>
    intro b hb
    obtain ⟨e, _, rfl⟩ := values_blockAt hbuild hb
    exact decide_eq_true_iff
  case entered => exact entered hbuild

end Built

/-- The block at which a graph is entered starts with the last instruction at its address. -/
theorem build_startIndex {stream : Stream} {a : Int} {last : Nat}
    (hlast : stream.lastIndex? a = some last) :
    ∃ g b, build stream a = .ok g ∧ g.block? a = some b ∧ b.startIndex = last := by
  have haddress : stream.hasAddress a = true :=
    Stream.hasAddress_iff.mpr ⟨last, Stream.lastIndex?_address hlast⟩
  have hbuild := build_of_hasAddress haddress
  obtain ⟨b, hb, _⟩ := entered hbuild
  refine ⟨_, b, hbuild, hb, ?_⟩
  obtain ⟨e, he, rfl, rfl⟩ := block?_blockAt hbuild hb
  have hfirst := spans_first stream _ e he
  rw [hlast, Option.getD_some] at hfirst
  exact congrArg Int.ofNat hfirst

/-- A graph can be built from every address of a stream, and it is well-formed. -/
theorem build_wellFormed (stream : Stream) (entry : Int)
    (hentry : stream.hasAddress entry = true) :
    ∃ g, build stream entry = .ok g ∧ WellFormed stream entry g := by
  have hbuild := build_of_hasAddress hentry
  exact ⟨_, hbuild, build_ok_wellFormed hbuild⟩

/-- Addresses that fall and come again, a jump to itself and a conditional jump to what follows. -/
def tangledStream : Stream :=
  [plainInstruction 32 "jne" (some 16), plainInstruction 16 "nop" none,
   plainInstruction 32 "je" (some 24), plainInstruction 24 "jmp" (some 24),
   plainInstruction 16 "push" none, plainInstruction 8 "ret" none]

theorem build_wellFormed_tangled : tangledStream.hasAddress 32 = true ∧
    ∃ g, build tangledStream 32 = .ok g ∧ WellFormed tangledStream 32 g :=
  ⟨by decide, build_wellFormed tangledStream 32 (by decide)⟩

end CodeAtlas.FlowGraph
