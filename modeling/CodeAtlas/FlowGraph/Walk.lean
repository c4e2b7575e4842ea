import CodeAtlas.FlowGraph.Basic

/-!
# Walking flow graphs

Depth-first and breadth-first walks over the blocks that can be reached from a key. A key is
visited once. The depth-first walk takes successors in ascending order, the breadth-first walk in
the order in which they are listed.
-/

set_option autoImplicit false

namespace CodeAtlas.FlowGraph

def unvisited (g : FlowGraph) (visited : List Int) : Nat :=
  (g.blocks.keys.filter fun k => decide (k ∉ visited)).length

theorem unvisited_le_of_subset (g : FlowGraph) {visited after : List Int} (h : visited ⊆ after) :
    g.unvisited after ≤ g.unvisited visited := by
  unfold unvisited
  rw [← List.countP_eq_length_filter, ← List.countP_eq_length_filter]
  apply List.countP_mono_left
  intro k _ hk
  simp only [decide_eq_true_eq] at hk ⊢
  exact fun hmem => hk (h hmem)

theorem unvisited_cons_le (g : FlowGraph) (key : Int) (visited : List Int) :
    g.unvisited (key :: visited) ≤ g.unvisited visited :=
  g.unvisited_le_of_subset (List.subset_cons_self key visited)

theorem unvisited_cons_lt {g : FlowGraph} {key : Int} {visited : List Int} {b : Block}
    (hb : g.block? key = some b) (hnew : key ∉ visited) :
    g.unvisited (key :: visited) < g.unvisited visited := by
  have hmem : key ∈ g.blocks.keys := by
    obtain ⟨e, he, _⟩ := Option.map_eq_some_iff.mp hb
    have hkey : e.1 = key := by simpa using List.find?_some he
    exact List.mem_map.mpr ⟨e, List.mem_of_find?_eq_some he, hkey⟩
  unfold unvisited
  have hsub : g.blocks.keys.filter (fun k => decide (k ∉ key :: visited)) =
      (g.blocks.keys.filter fun k => decide (k ∉ visited)).filter fun k => decide (k ≠ key) := by
    rw [List.filter_filter]
    exact List.filter_congr fun k _ => by simp [not_or, Bool.decide_and]
  rw [hsub]
  apply List.length_filter_lt_length_iff_exists.mpr
  exact ⟨key, List.mem_filter.mpr ⟨hmem, by simpa using hnew⟩, by simp⟩

def fresh (visited keys : List Int) : List Int := keys.filter fun k => decide (k ∉ visited)

def depthFirstFrom (g : FlowGraph) (stack visited : List Int) : List Block :=
  match stack with
  | [] => []
  | key :: rest =>
    if _hseen : key ∈ visited then depthFirstFrom g rest visited
    else
      match _hblock : g.block? key with
      | none => depthFirstFrom g rest (key :: visited)
      | some b =>
        let next := b.successors.mergeSort fun x y => decide (x ≤ y)
        b :: depthFirstFrom g (fresh (key :: visited) next ++ rest) (key :: visited)
termination_by (g.unvisited visited, stack.length)
decreasing_by
  · exact Prod.Lex.right _ (by simp)
  · rcases Nat.lt_or_eq_of_le (unvisited_cons_le g key visited) with hlt | heq
    · exact Prod.Lex.left _ _ hlt
    · rw [heq]; exact Prod.Lex.right _ (by simp)
  · exact Prod.Lex.left _ _ (unvisited_cons_lt _hblock _hseen)

def depthFirst (g : FlowGraph) (start : Int) : List Block := depthFirstFrom g [start] []

def breadthFirstFrom (g : FlowGraph) (queue visited : List Int) : List Block :=
  match queue with
  | [] => []
  | key :: rest =>
    if _hseen : key ∈ visited then breadthFirstFrom g rest visited
    else
      match _hblock : g.block? key with
      | none => breadthFirstFrom g rest (key :: visited)
      | some b =>
        b :: breadthFirstFrom g (rest ++ fresh (key :: visited) b.successors) (key :: visited)
termination_by (g.unvisited visited, queue.length)
decreasing_by
  · exact Prod.Lex.right _ (by simp)
  · rcases Nat.lt_or_eq_of_le (unvisited_cons_le g key visited) with hlt | heq
    · exact Prod.Lex.left _ _ hlt
    · rw [heq]; exact Prod.Lex.right _ (by simp)
  · exact Prod.Lex.left _ _ (unvisited_cons_lt _hblock _hseen)

def breadthFirst (g : FlowGraph) (start : Int) : List Block := breadthFirstFrom g [start] []

end CodeAtlas.FlowGraph
