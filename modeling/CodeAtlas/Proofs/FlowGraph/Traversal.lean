import CodeAtlas.Proofs.FlowGraph.Walk
import CodeAtlas.Proofs.Table

/-!
# Both walks cover what can be reached

The depth-first and the breadth-first walk are one loop over a `Tour`. A key may wait in it several
times, and a key without a block is visited but gives nothing. Every turn takes one key away, and a
block brings in at most its successors and does so once, so the loop ends after one turn for the
start and one for each edge. What it has given by then are the blocks that can be reached.
-/

set_option autoImplicit false

namespace CodeAtlas.FlowGraph

structure Tour where
  work : List Int
  visited : List Int
  given : List Block

namespace Tour

/-- One turn of the loop. When no key is left nothing changes any more. -/
def turn (g : FlowGraph) (o : Order) : Tour → Tour
  | ⟨[], visited, given⟩ => ⟨[], visited, given⟩
  | ⟨key :: rest, visited, given⟩ =>
    if key ∈ visited then ⟨rest, visited, given⟩
    else
      match g.block? key with
      | none => ⟨rest, key :: visited, given⟩
      | some b => ⟨o.join (key :: visited) b rest, key :: visited, given ++ [b]⟩

def run (g : FlowGraph) (o : Order) : Nat → Tour → Tour
  | 0, t => t
  | n + 1, t => run g o n (turn g o t)

section Turn

variable (g : FlowGraph) (o : Order) {key : Int} {rest visited : List Int} {given : List Block}

theorem turn_seen (hseen : key ∈ visited) :
    turn g o ⟨key :: rest, visited, given⟩ = ⟨rest, visited, given⟩ := by
  simp [turn, hseen]

theorem turn_absent (hnew : key ∉ visited) (hblock : g.block? key = none) :
    turn g o ⟨key :: rest, visited, given⟩ = ⟨rest, key :: visited, given⟩ := by
  simp [turn, hnew, hblock]

theorem turn_present {b : Block} (hnew : key ∉ visited) (hblock : g.block? key = some b) :
    turn g o ⟨key :: rest, visited, given⟩ =
      ⟨o.join (key :: visited) b rest, key :: visited, given ++ [b]⟩ := by
  simp [turn, hnew, hblock]

theorem run_done (n : Nat) : run g o n ⟨[], visited, given⟩ = ⟨[], visited, given⟩ := by
  induction n with
  | zero => rfl
  | succ n ih => exact ih

end Turn

/-! ## The loop ends -/

def outgoing (visited : List Int) (e : Int × Block) : Nat :=
  if e.1 ∈ visited then 0 else e.2.successors.length

def leaving (visited : List Int) (es : List (Int × Block)) : Nat :=
  es.foldr (fun e n => outgoing visited e + n) 0

theorem outgoing_cons_le (key : Int) (visited : List Int) (e : Int × Block) :
    outgoing (key :: visited) e ≤ outgoing visited e := by
  unfold outgoing
  by_cases hseen : e.1 ∈ visited
  · simp [hseen]
  · rw [if_neg hseen]
    split <;> omega

theorem leaving_nil (g : FlowGraph) : leaving [] g.blocks.entries = g.edgeCount := by
  unfold leaving edgeCount Table.values
  rw [List.foldr_map]
  rfl

theorem leaving_cons_le (key : Int) (visited : List Int) (es : List (Int × Block)) :
    leaving (key :: visited) es ≤ leaving visited es := by
  induction es with
  | nil => exact Nat.le_refl 0
  | cons e rest ih => exact Nat.add_le_add (outgoing_cons_le key visited e) ih

theorem leaving_cons_present {key : Int} {visited : List Int} {es : List (Int × Block)} {b : Block}
    (hnew : key ∉ visited) (hmem : (key, b) ∈ es) :
    leaving (key :: visited) es + b.successors.length ≤ leaving visited es := by
  induction es with
  | nil => cases hmem
  | cons e rest ih =>
    change outgoing (key :: visited) e + leaving (key :: visited) rest + b.successors.length ≤
      outgoing visited e + leaving visited rest
    rcases List.mem_cons.mp hmem with rfl | hrest
    · have hspent : outgoing (key :: visited) (key, b) = 0 := by simp [outgoing]
      have hunspent : outgoing visited (key, b) = b.successors.length := by simp [outgoing, hnew]
      have hle := leaving_cons_le key visited rest
      omega
    · have hle := outgoing_cons_le key visited e
      have hlater := ih hrest
      omega

/-- A bound on the turns to come: one for each key that waits and for each edge that may bring in
another one. -/
def pending (g : FlowGraph) (t : Tour) : Nat := t.work.length + leaving t.visited g.blocks.entries

theorem turn_pending (g : FlowGraph) (o : Order) (key : Int) (rest visited : List Int)
    (given : List Block) : (turn g o ⟨key :: rest, visited, given⟩).pending g <
      pending g ⟨key :: rest, visited, given⟩ := by
  by_cases hseen : key ∈ visited
  · rw [turn_seen g o hseen]
    simp [pending]
  · have hle := leaving_cons_le key visited g.blocks.entries
    cases hblock : g.block? key with
    | none =>
      rw [turn_absent g o hseen hblock]
      simp only [pending, List.length_cons]
      omega
    | some b =>
      -- The key that is taken pays for the turn: what joins was counted as an edge before.
      have hspent := leaving_cons_present hseen ((g.blocks.get?_eq_some_iff key b).mp hblock)
      have hjoin := o.length_join (key :: visited) b rest
      rw [turn_present g o hseen hblock]
      simp only [pending, List.length_cons]
      omega

theorem run_work (g : FlowGraph) (o : Order) {n : Nat} {t : Tour} (h : t.pending g ≤ n) :
    (run g o n t).work = [] := by
  induction n generalizing t with
  | zero =>
    have hlength : t.work.length = 0 := by
      unfold pending at h
      omega
    exact List.eq_nil_of_length_eq_zero hlength
  | succ n ih =>
    obtain ⟨work, visited, given⟩ := t
    cases work with
    | nil => rw [run_done]
    | cons key rest =>
      have hlt := turn_pending g o key rest visited given
      exact ih (by omega)

/-! ## What the loop computes -/

section Follows

variable {g : FlowGraph} {o : Order} {coming : List Int → List Int → List Block}
  (h : Follows g o coming)

include h

/-- The blocks given and the blocks that are still to come make up the same list after a turn. -/
theorem coming_turn (t : Tour) :
    (turn g o t).given ++ coming (turn g o t).work (turn g o t).visited =
      t.given ++ coming t.work t.visited := by
  obtain ⟨work, visited, given⟩ := t
  cases work with
  | nil => rfl
  | cons key rest =>
    by_cases hseen : key ∈ visited
    · rw [turn_seen g o hseen, h.seen hseen]
    · cases hblock : g.block? key with
      | none => rw [turn_absent g o hseen hblock, h.absent hseen hblock]
      | some b =>
        rw [turn_present g o hseen hblock, h.present hseen hblock, List.append_assoc,
          List.singleton_append]

theorem coming_run (n : Nat) (t : Tour) :
    (run g o n t).given ++ coming (run g o n t).work (run g o n t).visited =
      t.given ++ coming t.work t.visited := by
  induction n generalizing t with
  | zero => rfl
  | succ n ih => rw [run, ih, coming_turn h]

end Follows

theorem walk_of_run (g : FlowGraph) (o : Order) {n : Nat} {t : Tour}
    (hdone : (run g o n t).work = []) :
    ∃ keys, Walk g t.work t.visited keys ∧
      (run g o n t).given = t.given ++ keys.filterMap g.block? := by
  induction n generalizing t with
  | zero =>
    have hwork : t.work = [] := hdone
    refine ⟨[], ?_, ?_⟩
    · rw [hwork]
      exact Walk.done
    · simp [run]
  | succ n ih =>
    -- The rest of the run is a walk from where the first turn leads.
    obtain ⟨keys, hwalk, hgiven⟩ := ih hdone
    rw [run, hgiven]
    obtain ⟨work, visited, given⟩ := t
    cases work with
    | nil => exact ⟨keys, hwalk, rfl⟩
    | cons key rest =>
      by_cases hseen : key ∈ visited
      · rw [turn_seen g o hseen] at hwalk ⊢
        exact ⟨keys, Walk.seen hseen hwalk, rfl⟩
      · cases hblock : g.block? key with
        | none =>
          rw [turn_absent g o hseen hblock] at hwalk ⊢
          exact ⟨keys, Walk.absent hseen hblock hwalk, rfl⟩
        | some b =>
          rw [turn_present g o hseen hblock] at hwalk ⊢
          refine ⟨key :: keys, Walk.visit hseen hblock (o.mem_join _ b rest) hwalk, ?_⟩
          rw [List.filterMap_cons_some hblock, List.append_assoc, List.singleton_append]

end Tour

/-! ## Reachable blocks -/

/-- The loop from a key has ended after one turn for the key and one for each edge of the graph, and
has given these blocks. -/
def Ends (g : FlowGraph) (o : Order) (start : Int) (blocks : List Block) : Prop :=
  (Tour.run g o (g.edgeCount + 1) ⟨[start], [], []⟩).work = [] ∧
    (Tour.run g o (g.edgeCount + 1) ⟨[start], [], []⟩).given = blocks

def CoversReachable (g : FlowGraph) (start : Int) (blocks : List Block) : Prop :=
  ∃ keys : List Int, keys.Nodup ∧ (∀ k, k ∈ keys ↔ g.Reaches start k ∧ k ∈ g.blocks.keys) ∧
    keys.map g.block? = blocks.map some

section Start

variable {g : FlowGraph} {o : Order} {start : Int} {blocks : List Block}

theorem Follows.ends {coming : List Int → List Int → List Block} (h : Follows g o coming)
    (start : Int) : g.Ends o start (coming [start] []) := by
  have hpending : Tour.pending g ⟨[start], [], []⟩ = g.edgeCount + 1 := by
    unfold Tour.pending
    rw [Tour.leaving_nil, List.length_singleton, Nat.add_comm]
  have hwork := Tour.run_work g o (Nat.le_of_eq hpending)
  have hgiven := Tour.coming_run h (g.edgeCount + 1) ⟨[start], [], []⟩
  rw [hwork, h.nil, List.append_nil] at hgiven
  exact ⟨hwork, hgiven⟩

theorem ends_depthFirst (g : FlowGraph) (start : Int) :
    g.Ends .depth start (g.depthFirst start) :=
  g.depthFirstFrom_follows.ends start

theorem ends_breadthFirst (g : FlowGraph) (start : Int) :
    g.Ends .breadth start (g.breadthFirst start) :=
  g.breadthFirstFrom_follows.ends start

theorem Ends.keys (h : g.Ends o start blocks) :
    ∃ keys : List Int, blocks = keys.filterMap g.block? ∧ keys.Nodup ∧
      ∀ k, k ∈ keys ↔ g.Reaches start k ∧ ∃ b, g.block? k = some b := by
  obtain ⟨keys, hwalk, hgiven⟩ := Tour.walk_of_run g o h.1
  rw [h.2, List.nil_append] at hgiven
  exact ⟨keys, hgiven, hwalk.nodup, hwalk.mem_iff⟩

theorem map_block?_of_present {keys : List Int} (h : ∀ k ∈ keys, ∃ b, g.block? k = some b) :
    keys.map g.block? = (keys.filterMap g.block?).map some := by
  induction keys with
  | nil => rfl
  | cons k rest ih =>
    obtain ⟨b, hb⟩ := h k (List.mem_cons_self ..)
    rw [List.map_cons, hb, List.filterMap_cons_some hb, List.map_cons,
      ih fun j hj => h j (List.mem_cons_of_mem k hj)]

theorem Ends.coversReachable (h : g.Ends o start blocks) : g.CoversReachable start blocks := by
  obtain ⟨keys, hblocks, hnodup, hmem⟩ := h.keys
  refine ⟨keys, hnodup, ?_, ?_⟩
  · intro k
    rw [hmem, Table.mem_keys_iff]
    rfl
  · rw [hblocks]
    exact map_block?_of_present fun k hk => ((hmem k).mp hk).2

theorem CoversReachable.perm {others : List Block} (h : g.CoversReachable start blocks)
    (hothers : g.CoversReachable start others) : blocks.Perm others := by
  obtain ⟨keys, hnodup, hmem, hblocks⟩ := h
  obtain ⟨otherKeys, hotherNodup, hotherMem, hotherBlocks⟩ := hothers
  have hkeys : keys.Perm otherKeys :=
    (List.perm_ext_iff_of_nodup hnodup hotherNodup).mpr fun k => by rw [hmem, hotherMem]
  have hsome : (blocks.map some).Perm (others.map some) := by
    rw [← hblocks, ← hotherBlocks]
    exact hkeys.map g.block?
  simpa [List.filterMap_map] using hsome.filterMap id

theorem Reaches.start_present {k : Int} (hreach : g.Reaches start k) (hk : k ∈ g.blocks.keys) :
    start ∈ g.blocks.keys := by
  rcases Relation.ReflTransGen.cases_head hreach with rfl | ⟨c, ⟨b, hb, _⟩, _⟩
  · exact hk
  · exact (g.blocks.mem_keys_iff start).mpr ⟨b, hb⟩

theorem CoversReachable.eq_nil_iff (h : g.CoversReachable start blocks) :
    blocks = [] ↔ start ∉ g.blocks.keys := by
  obtain ⟨keys, _, hmem, hblocks⟩ := h
  have hlength : keys.length = blocks.length := by
    simpa using congrArg List.length hblocks
  rw [← List.length_eq_zero_iff, ← hlength, List.length_eq_zero_iff]
  constructor
  · rintro rfl hstart
    exact absurd ((hmem start).mpr ⟨Relation.ReflTransGen.refl, hstart⟩) List.not_mem_nil
  · intro hmissing
    apply List.eq_nil_iff_forall_not_mem.mpr
    intro k hk
    obtain ⟨hreach, hpresent⟩ := (hmem k).mp hk
    exact hmissing (hreach.start_present hpresent)

end Start

/-- Both walks end, and both give the blocks that can be reached, one for each key; a start without
a block reaches none. -/
theorem walks_coverReachable (g : FlowGraph) (start : Int) :
    (g.Ends .depth start (g.depthFirst start) ∧ g.Ends .breadth start (g.breadthFirst start)) ∧
      (g.CoversReachable start (g.depthFirst start) ∧
        g.CoversReachable start (g.breadthFirst start)) ∧
      (g.depthFirst start).Perm (g.breadthFirst start) ∧
      (g.depthFirst start = [] ↔ start ∉ g.blocks.keys) ∧
      (g.breadthFirst start = [] ↔ start ∉ g.blocks.keys) := by
  have hdepth := (g.ends_depthFirst start).coversReachable
  have hbreadth := (g.ends_breadthFirst start).coversReachable
  exact ⟨⟨g.ends_depthFirst start, g.ends_breadthFirst start⟩, ⟨hdepth, hbreadth⟩,
    hdepth.perm hbreadth, hdepth.eq_nil_iff, hbreadth.eq_nil_iff⟩

-- Key 3 waits twice, key 9 has no block, and block 2 leads to itself.
example :
    let g : FlowGraph := ⟨Table.ofList [(1, ⟨1, 1, 0, 0, [3, 2], [], true, false⟩),
      (2, ⟨2, 2, 1, 1, [3, 9, 2], [], false, false⟩), (3, ⟨3, 3, 2, 2, [1], [], false, false⟩)], [1]⟩
    (g.depthFirst 1).map (·.startAddress) = [1, 2, 3] ∧
      (g.breadthFirst 1).map (·.startAddress) = [1, 3, 2] := by
  cbv

end CodeAtlas.FlowGraph
