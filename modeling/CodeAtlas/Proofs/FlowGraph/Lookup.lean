import CodeAtlas.Proofs.FlowGraph.WellFormed

/-!
# Looking up addresses

A block is told by two pairs of bounds: the indices of its first and last instruction, and their
addresses. In a stream with ascending addresses the two pairs say the same. The stretches of
addresses are apart because the stretches of indices are, so the order in which a graph tries its
blocks does not matter: an address has at most one block that holds it. An address between two
instructions belongs to the block that has both, and to none where one block ends and another
starts.
-/

set_option autoImplicit false

namespace CodeAtlas

def Block.Holds (b : Block) (x : Int) : Prop := b.startAddress ≤ x ∧ x ≤ b.endAddress

theorem Block.covers_iff (b : Block) (x : Int) : b.covers x = true ↔ b.Holds x := by
  rw [Block.covers, Bool.and_eq_true, decide_eq_true_eq, decide_eq_true_eq, Block.Holds]

/-- Where no two items pass a test, searching for one that does finds each that does. -/
theorem find?_eq_some_iff_of_apart {α : Type} {p : α → Bool} {xs : List α}
    (hapart : xs.Pairwise fun x y => ¬ (p x = true ∧ p y = true)) {x : α} :
    xs.find? p = some x ↔ x ∈ xs ∧ p x = true := by
  induction xs with
  | nil => simp
  | cons y ys ih =>
    obtain ⟨hy, hys⟩ := List.pairwise_cons.mp hapart
    rw [List.find?_cons, List.mem_cons]
    cases hpy : p y with
    | true =>
      constructor
      · intro h
        cases h
        exact ⟨Or.inl rfl, hpy⟩
      · rintro ⟨rfl | hmem, hx⟩
        · rfl
        · exact absurd ⟨hpy, hx⟩ (hy x hmem)
    | false =>
      rw [ih hys]
      constructor
      · rintro ⟨hmem, hx⟩
        exact ⟨Or.inr hmem, hx⟩
      · rintro ⟨rfl | hmem, hx⟩
        · rw [hpy] at hx
          cases hx
        · exact ⟨hmem, hx⟩

namespace FlowGraph

structure Locates (stream : Stream) (g : FlowGraph) : Prop where
  disjoint : g.blocks.values.Pairwise fun b c => ∀ x, ¬ (b.Holds x ∧ c.Holds x)
  unique : ∀ x, ∀ b ∈ g.blocks.values, ∀ c ∈ g.blocks.values, b.Holds x → c.Holds x → b = c
  found_iff : ∀ x b, g.blockCovering? x = some b ↔ b ∈ g.blocks.values ∧ b.Holds x
  absent_iff : ∀ x, g.blockCovering? x = none ↔ ∀ b ∈ g.blocks.values, ¬ b.Holds x
  owned_iff : ∀ (k : Nat) (i : Instruction) (b : Block), stream[k]? = some i →
    (g.blockCovering? i.address = some b ↔
      b ∈ g.blocks.values ∧ b.startIndex ≤ k ∧ (k : Int) ≤ b.endIndex)
  before_first : ∀ (k : Nat) (i : Instruction) (b : Block), stream[k]? = some i →
    g.blocks.values.head? = some b → (k : Int) < b.startIndex → g.blockCovering? i.address = none

theorem blockCovering?_eq_none_iff (g : FlowGraph) (x : Int) :
    g.blockCovering? x = none ↔ ∀ b ∈ g.blocks.values, ¬ b.Holds x := by
  rw [blockCovering?, List.find?_eq_none]
  simp only [Block.covers_iff]

section Built

variable {stream : Stream} {entry : Int} {g : FlowGraph} (hbuild : build stream entry = .ok g)
  (hasc : stream.Ascending)

include hbuild hasc

theorem values_bounds {b : Block} (hb : b ∈ g.blocks.values) :
    ∃ first last : Nat, b.startIndex = first ∧ b.endIndex = last ∧ first ≤ last ∧
      stream.addressAt? first = some b.startAddress ∧
      stream.addressAt? last = some b.endAddress := by
  obtain ⟨_, span, hblock⟩ := values_isBlock hbuild hasc hb
  have hend := values_endAddress hbuild hb
  rw [hblock.endIndex, Int.toNat_natCast] at hend
  exact ⟨span.first, span.last, hblock.startIndex, hblock.endIndex, hblock.whole.ordered,
    hblock.address, hend⟩

/-- A block holds the address of an instruction exactly if it has the instruction. -/
theorem holds_iff_index {b : Block} (hb : b ∈ g.blocks.values) {k : Nat} {i : Instruction}
    (hi : stream[k]? = some i) :
    b.Holds i.address ↔ b.startIndex ≤ k ∧ (k : Int) ≤ b.endIndex := by
  obtain ⟨first, last, hstart, hend, _, hfirst, hlast⟩ := values_bounds hbuild hasc hb
  have hk := Stream.addressAt?_eq_some_iff.mpr ⟨i, hi, rfl⟩
  have hbelow := hasc.address_lt_iff hk hfirst
  have habove := hasc.address_lt_iff hlast hk
  rw [Block.Holds, hstart, hend]
  omega

theorem values_apart : g.blocks.values.Pairwise fun b c => b.endAddress < c.startAddress := by
  refine (values_disjoint hbuild hasc).imp_of_mem ?_
  intro b c hb hc hindices
  obtain ⟨_, last, _, hend, _, _, hlast⟩ := values_bounds hbuild hasc hb
  obtain ⟨first, _, hstart, _, _, hfirst, _⟩ := values_bounds hbuild hasc hc
  rw [hend, hstart] at hindices
  exact hasc.address_lt hlast hfirst (Int.ofNat_lt.mp hindices)

theorem holds_apart : g.blocks.values.Pairwise fun b c => ∀ x, ¬ (b.Holds x ∧ c.Holds x) := by
  refine (values_apart hbuild hasc).imp ?_
  rintro b c hlt x ⟨⟨_, hb⟩, hc, _⟩
  omega

theorem blockCovering?_eq_some_iff (x : Int) (b : Block) :
    g.blockCovering? x = some b ↔ b ∈ g.blocks.values ∧ b.Holds x := by
  rw [← b.covers_iff, blockCovering?]
  apply find?_eq_some_iff_of_apart
  refine (holds_apart hbuild hasc).imp ?_
  intro b c hapart
  rw [b.covers_iff, c.covers_iff]
  exact hapart x

theorem startIndex_head_le {b c : Block} (hb : g.blocks.values.head? = some b)
    (hc : c ∈ g.blocks.values) : b.startIndex ≤ c.startIndex := by
  obtain ⟨rest, hvalues⟩ := List.head?_eq_some_iff.mp hb
  have hdisjoint := values_disjoint hbuild hasc
  obtain ⟨first, last, hstart, hend, hordered, _, _⟩ :=
    values_bounds hbuild hasc (List.mem_of_head? hb)
  rw [hvalues] at hc hdisjoint
  rcases List.mem_cons.mp hc with rfl | hlater
  · exact Int.le_refl _
  · have hafter := (List.pairwise_cons.mp hdisjoint).1 c hlater
    omega

end Built

/-- Building a graph at an address of the stream gives blocks whose addresses are apart and among
which looking up agrees with the indices. -/
theorem build_locates (stream : Stream) (entry : Int) (hasc : stream.Ascending)
    (hentry : stream.hasAddress entry = true) :
    ∃ g, build stream entry = .ok g ∧ Locates stream g := by
  have hbuild := build_of_hasAddress hentry
  have hfound := blockCovering?_eq_some_iff hbuild hasc
  refine ⟨_, hbuild, ?_⟩
  constructor
  case disjoint => exact holds_apart hbuild hasc
  case unique =>
    intro x b hb c hc hbx hcx
    have hsame := (hfound x b).mpr ⟨hb, hbx⟩
    rw [(hfound x c).mpr ⟨hc, hcx⟩] at hsame
    exact (Option.some.inj hsame).symm
  case found_iff => exact hfound
  case absent_iff => exact blockCovering?_eq_none_iff _
  case owned_iff =>
    intro k i b hi
    rw [hfound]
    exact and_congr_right fun hb => holds_iff_index hbuild hasc hb hi
  case before_first =>
    intro k i b hi hb hk
    rw [blockCovering?_eq_none_iff]
    intro c hc hholds
    have hindex := (holds_iff_index hbuild hasc hc hi).mp hholds
    have hle := startIndex_head_le hbuild hasc hb hc
    omega

/-- A stream with unused addresses between its instructions and a loop back to the second. -/
def gappedStream : Stream :=
  [plainInstruction 16 "push" none, plainInstruction 20 "dec" none,
   plainInstruction 24 "jne" (some 20), plainInstruction 40 "ret" none]

theorem build_locates_gapped : gappedStream.Ascending ∧ gappedStream.hasAddress 20 = true ∧
    ∃ g, build gappedStream 20 = .ok g ∧ Locates gappedStream g :=
  ⟨by decide, by decide, build_locates gappedStream 20 (by decide) (by decide)⟩

end FlowGraph

end CodeAtlas
