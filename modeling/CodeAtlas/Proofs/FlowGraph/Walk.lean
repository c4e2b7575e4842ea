import CodeAtlas.FlowGraph.Walk
import Mathlib.Data.List.Nodup
import Mathlib.Logic.Relation

/-!
# What a walk visits

A walk over a flow graph keeps a list of keys to visit and a list of keys it has visited. The
depth-first and the breadth-first walk differ only in the `Order` in which the successors of a block
join the first list. `Walk` leaves that order open, so that its theory holds for both: a walk visits
the keys that can be reached and have a block, each of them once.
-/

set_option autoImplicit false

namespace CodeAtlas.FlowGraph

def Edge (g : FlowGraph) (a c : Int) : Prop := ∃ b, g.block? a = some b ∧ c ∈ b.successors

def Reaches (g : FlowGraph) : Int → Int → Prop := Relation.ReflTransGen g.Edge

/-- `Walk g work visited keys`: with the keys of `work` to visit and those of `visited` behind it,
a walk goes on to visit `keys`. -/
inductive Walk (g : FlowGraph) : List Int → List Int → List Int → Prop where
  | done {visited : List Int} : Walk g [] visited []
  | seen {key : Int} {rest visited keys : List Int} : key ∈ visited → Walk g rest visited keys →
      Walk g (key :: rest) visited keys
  | absent {key : Int} {rest visited keys : List Int} : key ∉ visited → g.block? key = none →
      Walk g rest (key :: visited) keys → Walk g (key :: rest) visited keys
  | visit {key : Int} {rest visited work keys : List Int} {b : Block} : key ∉ visited →
      g.block? key = some b →
      (∀ k, k ∈ work ↔ (k ∈ b.successors ∧ k ∉ key :: visited) ∨ k ∈ rest) →
      Walk g work (key :: visited) keys → Walk g (key :: rest) visited (key :: keys)

theorem mem_fresh {visited keys : List Int} {k : Int} :
    k ∈ fresh visited keys ↔ k ∈ keys ∧ k ∉ visited := by
  rw [fresh, List.mem_filter, decide_eq_true_eq]

/-! ## Depth first and breadth first -/

/-- Where the successors of a block join the keys to visit. Those that are visited are left out. -/
structure Order where
  join : List Int → Block → List Int → List Int
  mem_join : ∀ visited b rest k,
    k ∈ join visited b rest ↔ (k ∈ b.successors ∧ k ∉ visited) ∨ k ∈ rest
  length_join : ∀ visited b rest,
    (join visited b rest).length ≤ b.successors.length + rest.length

theorem length_fresh_le (visited keys : List Int) : (fresh visited keys).length ≤ keys.length :=
  List.length_filter_le _ keys

def Order.depth : Order where
  join visited b rest := fresh visited (b.successors.mergeSort fun x y => decide (x ≤ y)) ++ rest
  mem_join visited b rest k := by rw [List.mem_append, mem_fresh, List.mem_mergeSort]
  length_join visited b rest := by
    have hfresh := length_fresh_le visited (b.successors.mergeSort fun x y => decide (x ≤ y))
    rw [List.length_mergeSort] at hfresh
    rw [List.length_append]
    omega

def Order.breadth : Order where
  join visited b rest := rest ++ fresh visited b.successors
  mem_join visited b rest k := by rw [List.mem_append, mem_fresh, or_comm]
  length_join visited b rest := by
    have hfresh := length_fresh_le visited b.successors
    rw [List.length_append]
    omega

/-- The blocks that come when a walk takes one key after the other: an equation for each thing that
can happen to the first key. -/
structure Follows (g : FlowGraph) (o : Order) (coming : List Int → List Int → List Block) :
    Prop where
  nil : ∀ visited, coming [] visited = []
  seen : ∀ {key rest visited}, key ∈ visited → coming (key :: rest) visited = coming rest visited
  absent : ∀ {key rest visited}, key ∉ visited → g.block? key = none →
    coming (key :: rest) visited = coming rest (key :: visited)
  present : ∀ {key rest visited b}, key ∉ visited → g.block? key = some b →
    coming (key :: rest) visited = b :: coming (o.join (key :: visited) b rest) (key :: visited)

theorem depthFirstFrom_follows (g : FlowGraph) : Follows g .depth g.depthFirstFrom where
  nil visited := by rw [depthFirstFrom]
  seen hseen := by rw [depthFirstFrom, dif_pos hseen]
  absent hnew hblock := by
    rw [depthFirstFrom, dif_neg hnew]
    split
    · rfl
    · next hsome => rw [hblock] at hsome; cases hsome
  present hnew hblock := by
    rw [depthFirstFrom, dif_neg hnew]
    split
    · next hnone => rw [hblock] at hnone; cases hnone
    · next hsome =>
      rw [hblock] at hsome
      cases hsome
      rfl

theorem breadthFirstFrom_follows (g : FlowGraph) : Follows g .breadth g.breadthFirstFrom where
  nil visited := by rw [breadthFirstFrom]
  seen hseen := by rw [breadthFirstFrom, dif_pos hseen]
  absent hnew hblock := by
    rw [breadthFirstFrom, dif_neg hnew]
    split
    · rfl
    · next hsome => rw [hblock] at hsome; cases hsome
  present hnew hblock := by
    rw [breadthFirstFrom, dif_neg hnew]
    split
    · next hnone => rw [hblock] at hnone; cases hnone
    · next hsome =>
      rw [hblock] at hsome
      cases hsome
      rfl

/-! ## What is visited -/

section Walk

variable {g : FlowGraph} {work visited keys : List Int}

theorem Walk.present (h : Walk g work visited keys) : ∀ k ∈ keys, ∃ b, g.block? k = some b := by
  induction h with
  | done => simp
  | seen _ _ ih => exact ih
  | absent _ _ _ ih => exact ih
  | visit _ hblock _ _ ih =>
    intro k hk
    rcases List.mem_cons.mp hk with rfl | hlater
    · exact ⟨_, hblock⟩
    · exact ih k hlater

theorem Walk.notMem_visited (h : Walk g work visited keys) : ∀ k ∈ keys, k ∉ visited := by
  induction h with
  | done => simp
  | seen _ _ ih => exact ih
  | absent _ _ _ ih => exact fun k hk hmem => ih k hk (List.mem_cons_of_mem _ hmem)
  | visit hnew _ _ _ ih =>
    intro k hk hmem
    rcases List.mem_cons.mp hk with rfl | hlater
    · exact hnew hmem
    · exact ih k hlater (List.mem_cons_of_mem _ hmem)

theorem Walk.nodup (h : Walk g work visited keys) : keys.Nodup := by
  induction h with
  | done => exact List.nodup_nil
  | seen _ _ ih => exact ih
  | absent _ _ _ ih => exact ih
  | visit _ _ _ hwalk ih =>
    refine List.nodup_cons.mpr ⟨?_, ih⟩
    intro hmem
    exact hwalk.notMem_visited _ hmem (List.mem_cons_self ..)

theorem Walk.sound (h : Walk g work visited keys) :
    ∀ k ∈ keys, ∃ start ∈ work, g.Reaches start k := by
  induction h with
  | done => simp
  | seen _ _ ih =>
    intro k hk
    obtain ⟨start, hstart, hreach⟩ := ih k hk
    exact ⟨start, List.mem_cons_of_mem _ hstart, hreach⟩
  | absent _ _ _ ih =>
    intro k hk
    obtain ⟨start, hstart, hreach⟩ := ih k hk
    exact ⟨start, List.mem_cons_of_mem _ hstart, hreach⟩
  | @visit key rest visited work keys b _ hblock hwork _ ih =>
    intro k hk
    rcases List.mem_cons.mp hk with rfl | hlater
    · exact ⟨k, List.mem_cons_self .., Relation.ReflTransGen.refl⟩
    · obtain ⟨start, hstart, hreach⟩ := ih k hlater
      rcases (hwork start).mp hstart with ⟨hsucc, _⟩ | hrest
      · exact ⟨key, List.mem_cons_self .., Relation.ReflTransGen.head ⟨b, hblock, hsucc⟩ hreach⟩
      · exact ⟨start, List.mem_cons_of_mem _ hrest, hreach⟩

/-- The keys that a walk settles: those it has visited before, those it visits, and those without
a block. -/
def Settled (g : FlowGraph) (visited keys : List Int) (k : Int) : Prop :=
  k ∈ visited ∨ k ∈ keys ∨ g.block? k = none

theorem Settled.of_cons {key k : Int} (h : Settled g (key :: visited) keys k) :
    k = key ∨ Settled g visited keys k := by
  rcases h with hvisited | hlater
  · rcases List.mem_cons.mp hvisited with heq | hbefore
    · exact Or.inl heq
    · exact Or.inr (Or.inl hbefore)
  · exact Or.inr (Or.inr hlater)

theorem Settled.visit {key k : Int} (h : Settled g (key :: visited) keys k) :
    Settled g visited (key :: keys) k := by
  rcases h.of_cons with rfl | hvisited | hkeys | habsent
  · exact Or.inr (Or.inl (List.mem_cons_self ..))
  · exact Or.inl hvisited
  · exact Or.inr (Or.inl (List.mem_cons_of_mem _ hkeys))
  · exact Or.inr (Or.inr habsent)

theorem Settled.absent {key k : Int} (habsent : g.block? key = none)
    (h : Settled g (key :: visited) keys k) : Settled g visited keys k := by
  rcases h.of_cons with rfl | hsettled
  · exact Or.inr (Or.inr habsent)
  · exact hsettled

theorem Walk.work_settled (h : Walk g work visited keys) :
    ∀ k ∈ work, Settled g visited keys k := by
  induction h with
  | done => simp
  | seen hseen _ ih =>
    intro k hk
    rcases List.mem_cons.mp hk with rfl | hrest
    · exact Or.inl hseen
    · exact ih k hrest
  | absent _ habsent _ ih =>
    intro k hk
    rcases List.mem_cons.mp hk with rfl | hrest
    · exact Or.inr (Or.inr habsent)
    · exact (ih k hrest).absent habsent
  | visit _ _ hwork _ ih =>
    intro k hk
    rcases List.mem_cons.mp hk with rfl | hrest
    · exact Or.inr (Or.inl (List.mem_cons_self ..))
    · exact (ih k ((hwork k).mpr (Or.inr hrest))).visit

theorem Walk.edge_settled (h : Walk g work visited keys) :
    ∀ a ∈ keys, ∀ c, g.Edge a c → Settled g visited keys c := by
  induction h with
  | done => simp
  | seen _ _ ih => exact ih
  | absent _ habsent _ ih =>
    intro a ha c hedge
    exact (ih a ha c hedge).absent habsent
  | @visit key rest visited work keys b _ hblock hwork hwalk ih =>
    intro a ha c hedge
    apply Settled.visit
    rcases List.mem_cons.mp ha with rfl | hlater
    · obtain ⟨b', hblock', hsucc⟩ := hedge
      rw [hblock] at hblock'
      cases hblock'
      by_cases hvisited : c ∈ a :: visited
      · exact Or.inl hvisited
      · exact hwalk.work_settled c ((hwork c).mpr (Or.inl ⟨hsucc, hvisited⟩))
    · exact ih a hlater c hedge

end Walk

theorem Walk.mem_iff {g : FlowGraph} {start : Int} {keys : List Int} (h : Walk g [start] [] keys)
    (k : Int) : k ∈ keys ↔ g.Reaches start k ∧ ∃ b, g.block? k = some b := by
  constructor
  · intro hk
    obtain ⟨key, hkey, hreach⟩ := h.sound k hk
    rw [List.mem_singleton.mp hkey] at hreach
    exact ⟨hreach, h.present k hk⟩
  · rintro ⟨hreach, b, hb⟩
    -- A key on the way is left through its block, so it is settled by having been visited.
    have hsettled : ∀ a, g.Reaches start a → Settled g [] keys a := by
      intro a ha
      induction ha with
      | refl => exact h.work_settled start (List.mem_singleton_self start)
      | tail _ hedge ih =>
        rcases ih with hnil | hkeys | habsent
        · cases hnil
        · exact h.edge_settled _ hkeys _ hedge
        · obtain ⟨c, hc, _⟩ := hedge
          rw [hc] at habsent
          cases habsent
    rcases hsettled k hreach with hnil | hkeys | habsent
    · cases hnil
    · exact hkeys
    · rw [hb] at habsent
      cases habsent

end CodeAtlas.FlowGraph
