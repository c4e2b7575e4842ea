import CodeAtlas.Proofs.FlowGraph.Walk

/-!
# The depth-first walk as a recursion

`preorder` walks from a key by recursion: it gives the block under the key and then walks from each
successor in ascending order, and every part of the walk starts with the keys that the part before
it has visited. The depth-first walk, which keeps a stack instead, gives the same blocks in the
same order. Its stack may hold keys that are visited before their turn comes; these are passed over
in both walks.
-/

set_option autoImplicit false

namespace CodeAtlas.FlowGraph

/-- A part of a walk: the blocks that it gives, and the keys that are visited when it ends. Those
visited before it stay visited. -/
structure Part (visited : List Int) where
  blocks : List Block
  after : List Int
  grown : visited ⊆ after

namespace Part

variable {visited : List Int}

def idle (visited : List Int) : Part visited := ⟨[], visited, List.Subset.refl visited⟩

def absent (key : Int) : Part visited := ⟨[], key :: visited, List.subset_cons_self key visited⟩

def enter {key : Int} (b : Block) (next : Part (key :: visited)) : Part visited :=
  ⟨b :: next.blocks, next.after, fun _ hk => next.grown (List.mem_cons_of_mem key hk)⟩

def andThen (first : Part visited) (later : Part first.after) : Part visited :=
  ⟨first.blocks ++ later.blocks, later.after, fun _ hk => later.grown (first.grown hk)⟩

end Part

mutual

/-- The walk from a key: the block under it and the walks from its successors in ascending order. -/
def preorder (g : FlowGraph) (visited : List Int) (key : Int) : Part visited :=
  if _hseen : key ∈ visited then Part.idle visited
  else
    match _hblock : g.block? key with
    | none => Part.absent key
    | some b =>
      Part.enter b (preorderAll g (key :: visited) (b.successors.mergeSort fun x y => decide (x ≤ y)))
termination_by (g.unvisited visited, 0)
decreasing_by exact Prod.Lex.left _ _ (unvisited_cons_lt _hblock _hseen)

def preorderAll (g : FlowGraph) (visited : List Int) (keys : List Int) : Part visited :=
  match keys with
  | [] => Part.idle visited
  | key :: rest =>
    let first := preorder g visited key
    first.andThen (preorderAll g first.after rest)
termination_by (g.unvisited visited, keys.length)
decreasing_by
  · exact Prod.Lex.right _ (by simp)
  · rcases Nat.lt_or_eq_of_le (unvisited_le_of_subset g first.grown) with hlt | heq
    · exact Prod.Lex.left _ _ hlt
    · rw [heq]
      exact Prod.Lex.right _ (by simp)

end

section Equations

variable (g : FlowGraph) {visited : List Int} {key : Int}

theorem preorder_seen (hseen : key ∈ visited) : g.preorder visited key = Part.idle visited := by
  rw [preorder, dif_pos hseen]

theorem preorder_absent (hnew : key ∉ visited) (hblock : g.block? key = none) :
    g.preorder visited key = Part.absent key := by
  rw [preorder, dif_neg hnew]
  split
  · rfl
  · next hsome => rw [hblock] at hsome; cases hsome

theorem preorder_present {b : Block} (hnew : key ∉ visited) (hblock : g.block? key = some b) :
    g.preorder visited key = Part.enter b (g.preorderAll (key :: visited)
      (b.successors.mergeSort fun x y => decide (x ≤ y))) := by
  rw [preorder, dif_neg hnew]
  split
  · next hnone => rw [hblock] at hnone; cases hnone
  · next hsome =>
    rw [hblock] at hsome
    cases hsome
    rfl

theorem preorderAll_nil : g.preorderAll visited [] = Part.idle visited := by
  rw [preorderAll]

theorem preorderAll_cons (rest : List Int) : g.preorderAll visited (key :: rest) =
    (g.preorder visited key).andThen (g.preorderAll (g.preorder visited key).after rest) := by
  rw [preorderAll]

end Equations

theorem preorderAll_append (g : FlowGraph) (visited xs ys : List Int) :
    g.preorderAll visited (xs ++ ys) =
      (g.preorderAll visited xs).andThen (g.preorderAll (g.preorderAll visited xs).after ys) := by
  induction xs generalizing visited with
  | nil =>
    rw [List.nil_append, preorderAll_nil]
    rfl
  | cons key rest ih =>
    rw [List.cons_append, preorderAll_cons, preorderAll_cons, ih]
    simp [Part.andThen]

/-- Keys that are visited already need not be kept for later. -/
theorem preorderAll_fresh (g : FlowGraph) {seen visited : List Int} (h : seen ⊆ visited)
    (keys : List Int) : g.preorderAll visited (fresh seen keys) = g.preorderAll visited keys := by
  induction keys generalizing visited with
  | nil => rfl
  | cons key rest ih =>
    by_cases hseen : key ∈ seen
    · have hdrop : fresh seen (key :: rest) = fresh seen rest := by simp [fresh, hseen]
      rw [hdrop, ih h, preorderAll_cons, preorder_seen g (h hseen)]
      rfl
    · have hkeep : fresh seen (key :: rest) = key :: fresh seen rest := by simp [fresh, hseen]
      rw [hkeep, preorderAll_cons, preorderAll_cons, ih]
      exact fun k hk => (g.preorder visited key).grown (h hk)

/-- The stack holds the keys from which the recursion has still to walk. -/
theorem depthFirstFrom_eq_preorderAll (g : FlowGraph) (stack visited : List Int) :
    depthFirstFrom g stack visited = (g.preorderAll visited stack).blocks := by
  have hstep := g.depthFirstFrom_follows
  induction stack, visited using depthFirstFrom.induct g with
  | case1 visited =>
    rw [hstep.nil, preorderAll_nil]
    rfl
  | case2 visited key rest hseen ih =>
    rw [hstep.seen hseen, ih, preorderAll_cons, preorder_seen g hseen]
    rfl
  | case3 visited key rest hnew hblock ih =>
    rw [hstep.absent hnew hblock, ih, preorderAll_cons, preorder_absent g hnew hblock]
    rfl
  | case4 visited key rest hnew b hblock next ih =>
    -- The successors lie on top of the stack, less those that the recursion would pass over.
    rw [preorderAll_append, preorderAll_fresh g (List.Subset.refl (key :: visited))] at ih
    rw [hstep.present hnew hblock, preorderAll_cons, preorder_present g hnew hblock]
    exact congrArg (b :: ·) ih

/-- The walk with a stack gives the blocks of the recursive walk in their order. -/
theorem depthFirst_eq_preorder (g : FlowGraph) (start : Int) :
    g.depthFirst start = (g.preorder [] start).blocks := by
  rw [depthFirst, depthFirstFrom_eq_preorderAll, preorderAll_cons, preorderAll_nil]
  exact List.append_nil _

end CodeAtlas.FlowGraph
