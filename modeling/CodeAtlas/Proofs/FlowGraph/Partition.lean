import CodeAtlas.Proofs.FlowGraph.Span
import CodeAtlas.Proofs.Table

set_option autoImplicit false

namespace CodeAtlas.FlowGraph

def edgesOf (stream : Stream) (entry : Int) : List (Int × List Int) :=
  (spans stream (starts stream entry)).map fun e =>
    (e.1, successors stream (starts stream entry) e.2)

def blockAt (stream : Stream) (entry : Int) (e : Int × Span) : Block :=
  blockOf stream entry (edgesOf stream entry) e.1 e.2 (successors stream (starts stream entry) e.2)

theorem blocksOf_eq (stream : Stream) (entry : Int) : blocksOf stream entry =
    (spans stream (starts stream entry)).map fun e => (e.1, blockAt stream entry e) :=
  rfl

theorem blocksOf_keys (stream : Stream) (entry : Int) :
    (blocksOf stream entry).map Prod.fst = starts stream entry := by
  rw [blocksOf_eq, List.map_map]
  exact spans_keys stream (starts stream entry)

theorem blocksOf_nodup (stream : Stream) (entry : Int) :
    ((blocksOf stream entry).map Prod.fst).Nodup := by
  rw [blocksOf_keys]
  exact (starts_pairwise stream entry).imp Int.ne_of_lt

theorem build_of_hasAddress {stream : Stream} {entry : Int}
    (h : stream.hasAddress entry = true) :
    build stream entry = .ok ⟨Table.ofList (blocksOf stream entry), [entry]⟩ := by
  have hsome := Stream.lastIndex?_isSome_iff.mpr (Stream.hasAddress_iff.mp h)
  have hempty : stream.isEmpty = false := by
    cases stream with
    | nil => simp [Stream.hasAddress] at h
    | cons i rest => rfl
  rw [build, hempty]
  simp [Option.isNone_iff_eq_none, Option.ne_none_iff_isSome.mpr hsome]

theorem build_ok {stream : Stream} {entry : Int} {g : FlowGraph} (h : build stream entry = .ok g) :
    stream.hasAddress entry = true ∧ g.blocks.entries = blocksOf stream entry ∧
      g.entryPoints = [entry] := by
  have haddress : stream.hasAddress entry = true := by
    rw [Stream.hasAddress_iff, ← Stream.lastIndex?_isSome_iff]
    rw [build] at h
    split at h
    · cases h
    · split at h
      · cases h
      · next hsome => simpa [Option.isNone_iff_eq_none, Option.isSome_iff_ne_none] using hsome
  rw [build_of_hasAddress haddress] at h
  cases h
  exact ⟨haddress, Table.ofList_entries (blocksOf_nodup stream entry), rfl⟩

structure IsBlock (stream : Stream) (entry : Int) (b : Block) (span : Span) : Prop where
  startIndex : b.startIndex = span.first
  endIndex : b.endIndex = span.last
  key : b.startAddress ∈ starts stream entry
  address : stream.addressAt? span.first = some b.startAddress
  whole : span.Whole stream (starts stream entry)
  successors : b.successors = FlowGraph.successors stream (starts stream entry) span

theorem mem_starts_of_mem_spans {stream : Stream} {entry : Int} {e : Int × Span}
    (he : e ∈ spans stream (starts stream entry)) : e.1 ∈ starts stream entry := by
  have hmem := List.mem_map_of_mem (f := Prod.fst) he
  rwa [spans_keys] at hmem

theorem blockAt_isBlock {stream : Stream} (hasc : stream.Ascending) {entry : Int}
    {e : Int × Span} (he : e ∈ spans stream (starts stream entry)) :
    IsBlock stream entry (blockAt stream entry e) e.2 := by
  obtain ⟨haddr, hwhole⟩ := spans_whole hasc (List.suffix_refl _) e he
  exact ⟨rfl, rfl, mem_starts_of_mem_spans he, haddr, hwhole, rfl⟩

theorem IsBlock.before {stream : Stream} (hasc : stream.Ascending) {entry : Int} {b c : Block}
    {span target : Span} (hb : IsBlock stream entry b span) (hc : IsBlock stream entry c target)
    (hlt : b.startAddress < c.startAddress) : span.last < target.first :=
  hb.whole.last_lt hasc hb.address hc.key hc.address hlt

section Built

variable {stream : Stream} {entry : Int} {g : FlowGraph} (hbuild : build stream entry = .ok g)

include hbuild

theorem build_keys : g.blocks.keys = starts stream entry := by
  rw [Table.keys, (build_ok hbuild).2.1, blocksOf_keys]

theorem build_values :
    g.blocks.values = (spans stream (starts stream entry)).map (blockAt stream entry) := by
  rw [Table.values, (build_ok hbuild).2.1, blocksOf_eq, List.map_map]
  rfl

theorem block?_of_mem_starts {a : Int} (ha : a ∈ starts stream entry) :
    ∃ b, g.block? a = some b := by
  rw [← build_keys hbuild, Table.mem_keys_iff] at ha
  exact ha

theorem block?_blockAt {key : Int} {b : Block} (hb : g.block? key = some b) :
    ∃ e ∈ spans stream (starts stream entry), e.1 = key ∧ b = blockAt stream entry e := by
  have hentry := (g.blocks.get?_eq_some_iff key b).mp hb
  rw [(build_ok hbuild).2.1, blocksOf_eq, List.mem_map] at hentry
  obtain ⟨e, he, heq⟩ := hentry
  cases heq
  exact ⟨e, he, rfl, rfl⟩

theorem block?_isBlock (hasc : stream.Ascending) {key : Int} {b : Block}
    (hb : g.block? key = some b) :
    b.startAddress = key ∧ ∃ span, IsBlock stream entry b span := by
  obtain ⟨e, he, rfl, rfl⟩ := block?_blockAt hbuild hb
  exact ⟨rfl, e.2, blockAt_isBlock hasc he⟩

theorem values_isBlock (hasc : stream.Ascending) {b : Block} (hb : b ∈ g.blocks.values) :
    g.block? b.startAddress = some b ∧ ∃ span, IsBlock stream entry b span := by
  obtain ⟨key, hkey⟩ := (g.blocks.mem_values_iff b).mp hb
  obtain ⟨rfl, hspan⟩ := block?_isBlock hbuild hasc hkey
  exact ⟨hkey, hspan⟩

end Built

/-- The blocks of a graph, in ascending order of their keys, cut the instructions from an index to
the end of a stream into consecutive stretches. -/
structure Partition (stream : Stream) (entry : Int) (g : FlowGraph) (first : Nat) : Prop where
  keys : ∀ a, a ∈ g.blocks.keys ↔ Leads stream entry a
  ascending : g.blocks.keys.Pairwise (· < ·)
  smallest : ∃ key, g.blocks.keys.head? = some key ∧ stream.addressAt? first = some key
  nonempty : ∀ b ∈ g.blocks.values, b.startIndex ≤ b.endIndex
  consecutive : g.blocks.values.IsChain fun b c => c.startIndex = b.endIndex + 1
  disjoint : g.blocks.values.Pairwise fun b c => b.endIndex < c.startIndex
  covers : ∀ k : Nat, (first ≤ k ∧ k < stream.length) ↔
    ∃ b ∈ g.blocks.values, b.startIndex ≤ k ∧ (k : Int) ≤ b.endIndex
  terminator_last : ∀ b ∈ g.blocks.values, ∀ (k : Nat) (i : Instruction), stream[k]? = some i →
    b.startIndex ≤ k → (k : Int) ≤ b.endIndex → i.isTerminator = true → (k : Int) = b.endIndex
  key_first : ∀ b ∈ g.blocks.values, ∀ (k : Nat) (i : Instruction), stream[k]? = some i →
    b.startIndex ≤ k → (k : Int) ≤ b.endIndex → i.address ∈ g.blocks.keys →
      (k : Int) = b.startIndex

theorem head_starts_le {stream : Stream} {entry key a : Int}
    (hkey : (starts stream entry).head? = some key) (ha : a ∈ starts stream entry) : key ≤ a := by
  have hpairwise := starts_pairwise stream entry
  cases hstarts : starts stream entry with
  | nil =>
    rw [hstarts] at hkey
    cases hkey
  | cons b rest =>
    rw [hstarts] at hkey ha hpairwise
    cases hkey
    rcases List.mem_cons.mp ha with heq | hlater
    · omega
    · exact Int.le_of_lt ((List.pairwise_cons.mp hpairwise).1 a hlater)

section Tiling

variable {stream : Stream} {entry : Int} {g : FlowGraph} (hbuild : build stream entry = .ok g)
  (hasc : stream.Ascending)

include hbuild hasc

theorem values_consecutive :
    g.blocks.values.IsChain fun b c => c.startIndex = b.endIndex + 1 := by
  rw [build_values hbuild, List.isChain_map]
  refine (spans_isChain hasc (List.suffix_refl (starts stream entry))).imp ?_
  intro x y hxy
  change (y.2.first : Int) = x.2.last + 1
  omega

theorem values_disjoint : g.blocks.values.Pairwise fun b c => b.endIndex < c.startIndex := by
  have hkeys : (spans stream (starts stream entry)).Pairwise fun x y => x.1 < y.1 := by
    rw [← List.pairwise_map (f := Prod.fst), spans_keys]
    exact starts_pairwise stream entry
  rw [build_values hbuild, List.pairwise_map]
  refine hkeys.imp_of_mem ?_
  intro x y hx hy hxy
  exact Int.ofNat_lt.mpr ((blockAt_isBlock hasc hx).before hasc (blockAt_isBlock hasc hy) hxy)

theorem values_cover {smallest : Int} {first : Nat}
    (hsmallest : (starts stream entry).head? = some smallest)
    (hfirst : stream.addressAt? first = some smallest) (k : Nat) :
    (first ≤ k ∧ k < stream.length) ↔
      ∃ b ∈ g.blocks.values, b.startIndex ≤ k ∧ (k : Int) ≤ b.endIndex := by
  constructor
  · rintro ⟨hk, hlt⟩
    obtain ⟨rest, hstarts⟩ := List.head?_eq_some_iff.mp hsmallest
    have hsuffix : (smallest :: rest) <:+ starts stream entry := hstarts ▸ List.suffix_refl _
    obtain ⟨e, he, hstart, hend⟩ := spans_cover hasc hsuffix hfirst hk hlt
    refine ⟨blockAt stream entry e, ?_, Int.ofNat_le.mpr hstart, Int.ofNat_le.mpr hend⟩
    rw [build_values hbuild, hstarts]
    exact List.mem_map_of_mem he
  · rintro ⟨b, hb, hstart, hend⟩
    obtain ⟨_, span, hblock⟩ := values_isBlock hbuild hasc hb
    have hinside := hblock.whole.inside
    have hle := head_starts_le hsmallest hblock.key
    have hindex := hasc.address_lt_iff hblock.address hfirst
    rw [hblock.startIndex] at hstart
    rw [hblock.endIndex] at hend
    omega

theorem terminator_last {b : Block} (hb : b ∈ g.blocks.values) {k : Nat} {i : Instruction}
    (hi : stream[k]? = some i) (hstart : b.startIndex ≤ k) (hend : (k : Int) ≤ b.endIndex)
    (hterm : i.isTerminator = true) : (k : Int) = b.endIndex := by
  obtain ⟨_, span, hblock⟩ := values_isBlock hbuild hasc hb
  rw [hblock.startIndex] at hstart
  rw [hblock.endIndex] at hend ⊢
  have hlast : ¬ k < span.last := by
    intro hlt
    have hflows := hblock.whole.flows k i (by omega) hlt hi
    rw [hterm] at hflows
    cases hflows
  omega

theorem key_first {b : Block} (hb : b ∈ g.blocks.values) {k : Nat} {i : Instruction}
    (hi : stream[k]? = some i) (hstart : b.startIndex ≤ k) (hend : (k : Int) ≤ b.endIndex)
    (hkey : i.address ∈ g.blocks.keys) : (k : Int) = b.startIndex := by
  obtain ⟨_, span, hblock⟩ := values_isBlock hbuild hasc hb
  have haddr : stream.addressAt? k = some i.address := by
    rw [Stream.addressAt?, hi, Option.map_some]
  rw [build_keys hbuild] at hkey
  rw [hblock.startIndex] at hstart ⊢
  rw [hblock.endIndex] at hend
  have hfirst : ¬ span.first < k := by
    intro hlt
    exact hblock.whole.uncut k i.address hlt (by omega) haddr hkey
  omega

end Tiling

/-- Building a graph at an address of the stream gives blocks that partition the stream from the
smallest key on, and from its start when the entry is the first instruction. -/
theorem build_partition (stream : Stream) (entry : Int) (hasc : stream.Ascending)
    (hentry : stream.hasAddress entry = true) :
    ∃ g first, build stream entry = .ok g ∧ Partition stream entry g first ∧
      (stream.addressAt? 0 = some entry → first = 0) := by
  have hbuild := build_of_hasAddress hentry
  have hkeys := build_keys hbuild
  have hmem : entry ∈ starts stream entry := (mem_starts_iff_leads hentry).mpr Leads.entry
  obtain ⟨smallest, rest, hstarts⟩ := List.exists_cons_of_ne_nil (List.ne_nil_of_mem hmem)
  have hsmallest : (starts stream entry).head? = some smallest := by rw [hstarts, List.head?_cons]
  obtain ⟨_, first, hfirst⟩ := mem_starts_iff.mp (List.mem_of_head? hsmallest)
  refine ⟨_, first, hbuild, ⟨?_, ?_, ?_, ?_, ?_, ?_, ?_, ?_, ?_⟩, ?_⟩
  · intro a
    rw [hkeys]
    exact mem_starts_iff_leads hentry
  · rw [hkeys]
    exact starts_pairwise stream entry
  · exact ⟨smallest, by rw [hkeys, hsmallest], hfirst⟩
  · intro b hb
    obtain ⟨_, span, hblock⟩ := values_isBlock hbuild hasc hb
    rw [hblock.startIndex, hblock.endIndex]
    exact Int.ofNat_le.mpr hblock.whole.ordered
  · exact values_consecutive hbuild hasc
  · exact values_disjoint hbuild hasc
  · exact values_cover hbuild hasc hsmallest hfirst
  · intro b hb k i hi
    exact terminator_last hbuild hasc hb hi
  · intro b hb k i hi
    exact key_first hbuild hasc hb hi
  · intro hzero
    have hle := head_starts_le hsmallest hmem
    have hindex := hasc.address_lt_iff hzero hfirst
    omega

theorem build_partition_loop : loopStream.Ascending ∧ loopStream.hasAddress 16 = true ∧
    ∃ g first, build loopStream 16 = .ok g ∧ Partition loopStream 16 g first ∧
      (loopStream.addressAt? 0 = some 16 → first = 0) :=
  ⟨by decide, by decide, build_partition loopStream 16 (by decide) (by decide)⟩

end CodeAtlas.FlowGraph
