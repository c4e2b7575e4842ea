import CodeAtlas.Proofs.FlowGraph.Edge
import CodeAtlas.Proofs.FlowGraph.Traversal
import Mathlib.Data.Finset.Card
import Mathlib.Order.Interval.Finset.Nat

set_option autoImplicit false

namespace CodeAtlas.FlowGraph

open Relation

theorem IsBlock.reaches_inside {stream : Stream} {entry : Int} {b : Block} {span : Span}
    (hb : IsBlock stream entry b span) {k : Nat}
    (hfirst : span.first ≤ k) (hlast : k ≤ span.last) :
    ReflTransGen stream.Step span.first k := by
  induction k, hfirst using Nat.le_induction with
  | base => exact ReflTransGen.refl
  | succ k hk ih => exact (ih (by omega)).tail (hb.inner_flows hk (by omega))

/-- Blocks of which each two lie apart hold as many indices as their lengths add up to. -/
theorem card_covered (bs : List Block)
    (hspan : ∀ b ∈ bs, ∃ span : Span, b.startIndex = span.first ∧ b.endIndex = span.last ∧
      span.first ≤ span.last)
    (hdisjoint : bs.Pairwise fun b c => b.endIndex < c.startIndex ∨ c.endIndex < b.startIndex) :
    ∃ indices : Finset Nat,
      (∀ k, k ∈ indices ↔ ∃ b ∈ bs, b.startIndex ≤ k ∧ (k : Int) ≤ b.endIndex) ∧
        Block.totalCount bs = indices.card := by
  induction bs with
  | nil => exact ⟨∅, by simp, rfl⟩
  | cons b rest ih =>
    obtain ⟨hhead, htail⟩ := List.pairwise_cons.mp hdisjoint
    obtain ⟨indices, hmem, hcard⟩ := ih (fun c hc => hspan c (List.mem_cons_of_mem b hc)) htail
    obtain ⟨span, hstart, hend, hordered⟩ := hspan b (List.mem_cons_self ..)
    have hapart : Disjoint (Finset.Icc span.first span.last) indices := by
      rw [Finset.disjoint_left]
      intro k hk hrest
      obtain ⟨c, hc, hcstart, hcend⟩ := (hmem k).mp hrest
      have hbc := hhead c hc
      rw [Finset.mem_Icc] at hk
      omega
    refine ⟨Finset.Icc span.first span.last ∪ indices, ?_, ?_⟩
    · intro k
      rw [Finset.mem_union, Finset.mem_Icc, hmem]
      simp only [List.mem_cons, exists_eq_or_imp, hstart, hend, Int.ofNat_le]
    · rw [Finset.card_union_of_disjoint hapart, Nat.card_Icc, Block.totalCount, List.foldr_cons,
        ← Block.totalCount, hcard, Block.instructionCount, hstart, hend]
      omega

section Built

variable {stream : Stream} {entry : Int} {g : FlowGraph} (hbuild : build stream entry = .ok g)
  (hasc : stream.Ascending) {start : Nat} (hstart : stream.addressAt? start = some entry)

include hbuild hasc

theorem block?_span {key : Int} {b : Block} (hb : g.block? key = some b) :
    ∃ span : Span, b.startIndex = span.first ∧ b.endIndex = span.last ∧
      span.first ≤ span.last := by
  obtain ⟨_, span, hblock⟩ := block?_isBlock hbuild hasc hb
  exact ⟨span, hblock.startIndex, hblock.endIndex, hblock.whole.ordered⟩

theorem block?_disjoint {a c : Int} (hne : a ≠ c) {x y : Block} (hx : g.block? a = some x)
    (hy : g.block? c = some y) : x.endIndex < y.startIndex ∨ y.endIndex < x.startIndex := by
  obtain ⟨rfl, span, hblock⟩ := block?_isBlock hbuild hasc hx
  obtain ⟨rfl, target, hother⟩ := block?_isBlock hbuild hasc hy
  rw [hblock.startIndex, hblock.endIndex, hother.startIndex, hother.endIndex]
  rcases Int.lt_or_gt_of_ne hne with hlt | hgt
  · exact Or.inl (Int.ofNat_lt.mpr (hblock.before hasc hother hlt))
  · exact Or.inr (Int.ofNat_lt.mpr (hother.before hasc hblock hgt))

include hstart

theorem step_of_reaches {key : Int} (hreach : g.Reaches entry key) {b : Block} {span : Span}
    (hb : g.block? key = some b) (hblock : IsBlock stream entry b span) :
    ReflTransGen stream.Step start span.first := by
  induction hreach generalizing b span with
  | refl =>
    obtain ⟨hkey, _⟩ := block?_isBlock hbuild hasc hb
    have haddress := hblock.address
    rw [hkey] at haddress
    rw [hasc.index_unique haddress hstart]
  | tail _ hedge ih =>
    obtain ⟨c, hc, hsucc⟩ := hedge
    obtain ⟨_, source, hsource⟩ := block?_isBlock hbuild hasc hc
    obtain ⟨hkey, _⟩ := block?_isBlock hbuild hasc hb
    have hlast := (ih hc hsource).trans (hsource.reaches_inside hsource.whole.ordered (Nat.le_refl _))
    rw [← hkey] at hsucc
    exact hlast.tail ((hsource.edge_iff hasc hblock).mp hsucc)

theorem block_of_steps {k : Nat} (hreach : ReflTransGen stream.Step start k) :
    ∃ key b, g.Reaches entry key ∧ g.block? key = some b ∧ b.startIndex ≤ k ∧
      (k : Int) ≤ b.endIndex := by
  induction hreach with
  | refl =>
    have hmem : entry ∈ starts stream entry :=
      (mem_starts_iff_leads (build_ok hbuild).1).mpr Leads.entry
    obtain ⟨b, hb⟩ := block?_of_mem_starts hbuild hmem
    obtain ⟨hkey, span, hblock⟩ := block?_isBlock hbuild hasc hb
    have haddress := hblock.address
    rw [hkey] at haddress
    have hindex := hasc.index_unique haddress hstart
    have hordered := hblock.whole.ordered
    refine ⟨entry, b, ReflTransGen.refl, hb, ?_, ?_⟩
    · rw [hblock.startIndex, hindex]
    · rw [hblock.endIndex]
      omega
  | tail _ hstep ih =>
    obtain ⟨key, b, hkey, hb, hfirst, hlast⟩ := ih
    have hvalue := (g.blocks.mem_values_iff b).mpr ⟨key, hb⟩
    rcases step_stays_or_leaves hbuild hasc hvalue hfirst hlast hstep with
      ⟨hnext, hinside⟩ | ⟨_, c, hc, hsucc, hindex⟩
    · exact ⟨key, b, hkey, hb, by omega, hinside⟩
    · obtain ⟨hget, span, hblock⟩ := values_isBlock hbuild hasc hc
      have hordered := hblock.whole.ordered
      refine ⟨c.startAddress, c, hkey.tail ⟨b, hb, hsucc⟩, hget, by omega, ?_⟩
      rw [hblock.endIndex, ← hindex, hblock.startIndex]
      omega

theorem steps_iff_block (k : Nat) : ReflTransGen stream.Step start k ↔
    ∃ key b, g.Reaches entry key ∧ g.block? key = some b ∧ b.startIndex ≤ k ∧
      (k : Int) ≤ b.endIndex := by
  constructor
  · exact block_of_steps hbuild hasc hstart
  · rintro ⟨key, b, hkey, hb, hfirst, hlast⟩
    obtain ⟨_, span, hblock⟩ := block?_isBlock hbuild hasc hb
    rw [hblock.startIndex] at hfirst
    rw [hblock.endIndex] at hlast
    have hentered := step_of_reaches hbuild hasc hstart hkey hb hblock
    exact hentered.trans (hblock.reaches_inside (by omega) (by omega))

/-- The blocks that the depth-first walk visits hold the instructions that can be reached. -/
theorem depthFirst_count : ∃ indices : Finset Nat,
    (∀ k, k ∈ indices ↔ ReflTransGen stream.Step start k) ∧
      Block.totalCount (g.depthFirst entry) = indices.card := by
  obtain ⟨keys, hwalk, hnodup, hkeys⟩ := (ends_depthFirst g entry).keys
  have hmem : ∀ b ∈ g.depthFirst entry, ∃ key ∈ keys, g.block? key = some b := by
    intro b hb
    rw [hwalk] at hb
    exact List.mem_filterMap.mp hb
  have hdisjoint : (g.depthFirst entry).Pairwise fun b c =>
      b.endIndex < c.startIndex ∨ c.endIndex < b.startIndex := by
    rw [hwalk, List.pairwise_filterMap]
    refine hnodup.imp ?_
    intro a c hne x hx y hy
    exact block?_disjoint hbuild hasc hne hx hy
  obtain ⟨indices, hindices, hcard⟩ := card_covered (g.depthFirst entry)
    (fun b hb => by obtain ⟨key, _, hget⟩ := hmem b hb; exact block?_span hbuild hasc hget)
    hdisjoint
  refine ⟨indices, ?_, hcard⟩
  intro k
  rw [hindices, steps_iff_block hbuild hasc hstart]
  constructor
  · rintro ⟨b, hb, hbounds⟩
    obtain ⟨key, hkey, hget⟩ := hmem b hb
    exact ⟨key, b, ((hkeys key).mp hkey).1, hget, hbounds⟩
  · rintro ⟨key, b, hreach, hget, hbounds⟩
    refine ⟨b, ?_, hbounds⟩
    rw [hwalk]
    exact List.mem_filterMap.mpr ⟨key, (hkeys key).mpr ⟨hreach, b, hget⟩, hget⟩

end Built

end CodeAtlas.FlowGraph
