import CodeAtlas.Proofs.FlowGraph.Traversal
import Mathlib.Order.Bounds.Basic

/-!
# The breadth-first walk goes by distance

The distance of a key is the number of edges on a shortest path to it. A key joins the queue of the
breadth-first walk once for every edge that finds it unvisited, so it may wait there several times,
and it counts as visited only when its turn comes. Still the queue is made of two parts: keys that a
path of some length reaches, and behind them keys that one more edge reaches. A key of the first part
that has not been visited has no shorter path, so the walk gives blocks in order of distance.
-/

set_option autoImplicit false

namespace CodeAtlas.FlowGraph

/-- `g.Path start n k`: `n` edges lead from `start` to `k`, each of them out of a block that is
present. -/
inductive Path (g : FlowGraph) (start : Int) : Nat → Int → Prop where
  | here : Path g start 0 start
  | next {n : Nat} {a c : Int} : Path g start n a → g.Edge a c → Path g start (n + 1) c

def Distance (g : FlowGraph) (start k : Int) (n : Nat) : Prop := IsLeast {m | g.Path start m k} n

def NoFurther (g : FlowGraph) (start a c : Int) : Prop :=
  ∃ m n, g.Distance start a m ∧ g.Distance start c n ∧ m ≤ n

/-! ## Two parts of a queue -/

/-- The queue is `near` with `far` behind it. Paths of length `n` reach the keys of `near` and paths
of length `n + 1` those of `far`; what is not further away than `near` has been visited or is part
of it, and no edge out of a visited key is forgotten. -/
structure Abreast (g : FlowGraph) (start : Int) (n : Nat) (near far visited : List Int) : Prop where
  near_path : ∀ k ∈ near, g.Path start n k
  far_path : ∀ k ∈ far, g.Path start (n + 1) k
  closer : ∀ m k, m < n → g.Path start m k → k ∈ visited
  level : ∀ k, g.Path start n k → k ∈ visited ∨ k ∈ near
  followed : ∀ a ∈ visited, ∀ c, g.Edge a c → c ∈ visited ∨ c ∈ near ∨ c ∈ far
  settled : ∀ k ∈ visited, ∃ m, m ≤ n ∧ g.Distance start k m
  ordered : visited.Pairwise fun later earlier => g.NoFurther start earlier later

namespace Abreast

variable {g : FlowGraph} {start key : Int} {n : Nat} {near far visited : List Int}

theorem initial (g : FlowGraph) (start : Int) : Abreast g start 0 [start] [] [] where
  near_path k hk := by
    rw [List.mem_singleton.mp hk]
    exact Path.here
  far_path k hk := by cases hk
  closer m k hm := by omega
  level k hk := by
    cases hk
    exact Or.inr (List.mem_singleton_self start)
  followed a ha := by cases ha
  settled k hk := by cases hk
  ordered := List.Pairwise.nil

theorem advance (h : Abreast g start n [] far visited) :
    Abreast g start (n + 1) far [] visited where
  near_path := h.far_path
  far_path k hk := by cases hk
  closer m k hm hpath := by
    rcases Nat.lt_or_eq_of_le (Nat.le_of_lt_succ hm) with hlt | rfl
    · exact h.closer m k hlt hpath
    · exact (h.level k hpath).resolve_right List.not_mem_nil
  level k hpath := by
    cases hpath with
    | next hbefore hedge =>
      -- The last edge leaves a key of the level before, and all of these have been visited.
      have hvisited := (h.level _ hbefore).resolve_right List.not_mem_nil
      rcases h.followed _ hvisited k hedge with hk | hk | hk
      · exact Or.inl hk
      · cases hk
      · exact Or.inr hk
  followed a ha c hedge := by
    rcases h.followed a ha c hedge with hc | hc | hc
    · exact Or.inl hc
    · cases hc
    · exact Or.inr (Or.inl hc)
  settled k hk := by
    obtain ⟨m, hm, hdistance⟩ := h.settled k hk
    exact ⟨m, by omega, hdistance⟩
  ordered := h.ordered

theorem seen (h : Abreast g start n (key :: near) far visited) (hseen : key ∈ visited) :
    Abreast g start n near far visited where
  near_path k hk := h.near_path k (List.mem_cons_of_mem key hk)
  far_path := h.far_path
  closer := h.closer
  level k hpath := by
    rcases h.level k hpath with hk | hk
    · exact Or.inl hk
    · rcases List.mem_cons.mp hk with rfl | hk
      · exact Or.inl hseen
      · exact Or.inr hk
  followed a ha c hedge := by
    rcases h.followed a ha c hedge with hc | hc | hc
    · exact Or.inl hc
    · rcases List.mem_cons.mp hc with rfl | hc
      · exact Or.inl hseen
      · exact Or.inr (Or.inl hc)
    · exact Or.inr (Or.inr hc)
  settled := h.settled
  ordered := h.ordered

/-- No path to a key that has waited at the front unvisited is shorter than the one that brought it
there. -/
theorem distance (h : Abreast g start n (key :: near) far visited) (hnew : key ∉ visited) :
    g.Distance start key n := by
  refine ⟨h.near_path key List.mem_cons_self, ?_⟩
  intro m hpath
  by_contra hshorter
  exact hnew (h.closer m key (by omega) hpath)

theorem visit (h : Abreast g start n (key :: near) far visited) (hnew : key ∉ visited)
    {after : List Int}
    (hafter : ∀ c, c ∈ after ↔ c ∈ far ∨ (g.Edge key c ∧ c ∉ key :: visited)) :
    Abreast g start n near after (key :: visited) where
  near_path k hk := h.near_path k (List.mem_cons_of_mem key hk)
  far_path k hk := by
    rcases (hafter k).mp hk with hk | ⟨hedge, _⟩
    · exact h.far_path k hk
    · exact Path.next (h.near_path key List.mem_cons_self) hedge
  closer m k hm hpath := List.mem_cons_of_mem key (h.closer m k hm hpath)
  level k hpath := by
    rcases h.level k hpath with hk | hk
    · exact Or.inl (List.mem_cons_of_mem key hk)
    · rcases List.mem_cons.mp hk with rfl | hk
      · exact Or.inl List.mem_cons_self
      · exact Or.inr hk
  followed a ha c hedge := by
    by_cases hc : c ∈ key :: visited
    · exact Or.inl hc
    · right
      rcases List.mem_cons.mp ha with rfl | ha
      · exact Or.inr ((hafter c).mpr (Or.inr ⟨hedge, hc⟩))
      · rcases h.followed a ha c hedge with hold | hold | hold
        · exact absurd (List.mem_cons_of_mem key hold) hc
        · rcases List.mem_cons.mp hold with rfl | hold
          · exact absurd List.mem_cons_self hc
          · exact Or.inl hold
        · exact Or.inr ((hafter c).mpr (Or.inl hold))
  settled k hk := by
    rcases List.mem_cons.mp hk with rfl | hk
    · exact ⟨n, Nat.le_refl n, h.distance hnew⟩
    · exact h.settled k hk
  ordered := by
    refine List.pairwise_cons.mpr ⟨?_, h.ordered⟩
    intro earlier hearlier
    obtain ⟨m, hm, hdistance⟩ := h.settled earlier hearlier
    exact ⟨m, n, hdistance, h.distance hnew, hm⟩

end Abreast

/-! ## What turns keep -/

namespace Tour

theorem run_keeps {g : FlowGraph} {o : Order} {Inv : Tour → Prop}
    (hturn : ∀ t, Inv t → Inv (turn g o t)) (n : Nat) {t : Tour} (ht : Inv t) :
    Inv (run g o n t) := by
  induction n generalizing t with
  | zero => exact ht
  | succ n ih => exact ih (hturn t ht)

theorem turn_given {g : FlowGraph} {o : Order} (t : Tour)
    (h : t.given = t.visited.reverse.filterMap g.block?) :
    (turn g o t).given = (turn g o t).visited.reverse.filterMap g.block? := by
  obtain ⟨work, visited, given⟩ := t
  cases work with
  | nil => exact h
  | cons key rest =>
    change given = visited.reverse.filterMap g.block? at h
    by_cases hseen : key ∈ visited
    · rw [turn_seen g o hseen]
      exact h
    · cases hblock : g.block? key with
      | none =>
        rw [turn_absent g o hseen hblock]
        simpa [hblock] using h
      | some b =>
        rw [turn_present g o hseen hblock]
        simpa [hblock] using h

def Layered (g : FlowGraph) (start : Int) (t : Tour) : Prop :=
  ∃ n near far, t.work = near ++ far ∧ Abreast g start n near far t.visited

theorem Layered.front {g : FlowGraph} {start key : Int} {rest visited : List Int}
    {given : List Block} (h : Layered g start ⟨key :: rest, visited, given⟩) :
    ∃ n near far, rest = near ++ far ∧ Abreast g start n (key :: near) far visited := by
  obtain ⟨n, near, far, hwork, habreast⟩ := h
  cases near with
  | nil =>
    change key :: rest = far at hwork
    subst hwork
    exact ⟨n + 1, rest, [], (List.append_nil rest).symm, habreast.advance⟩
  | cons first near =>
    obtain ⟨rfl, rfl⟩ := List.cons.inj hwork
    exact ⟨n, near, far, rfl, habreast⟩

theorem turn_layered {g : FlowGraph} {start : Int} (t : Tour) (h : Layered g start t) :
    Layered g start (turn g .breadth t) := by
  obtain ⟨work, visited, given⟩ := t
  cases work with
  | nil => exact h
  | cons key rest =>
    obtain ⟨n, near, far, rfl, habreast⟩ := h.front
    by_cases hseen : key ∈ visited
    · rw [turn_seen g .breadth hseen]
      exact ⟨n, near, far, rfl, habreast.seen hseen⟩
    · cases hblock : g.block? key with
      | none =>
        have hedge : ∀ c, ¬ g.Edge key c := by
          rintro c ⟨b, hb, _⟩
          rw [hblock] at hb
          cases hb
        rw [turn_absent g .breadth hseen hblock]
        exact ⟨n, near, far, rfl, habreast.visit hseen fun c => by simp [hedge c]⟩
      | some b =>
        have hedge : ∀ c, g.Edge key c ↔ c ∈ b.successors := by
          intro c
          simp [Edge, hblock]
        rw [turn_present g .breadth hseen hblock]
        refine ⟨n, near, far ++ fresh (key :: visited) b.successors, List.append_assoc _ _ _, ?_⟩
        exact habreast.visit hseen fun c => by rw [List.mem_append, mem_fresh, hedge c]

end Tour

/-! ## The order of the walk -/

/-- The keys that a walk visits, in the order in which their turns come. Some may have no block. -/
def visits (g : FlowGraph) (o : Order) (start : Int) : List Int :=
  (Tour.run g o (g.edgeCount + 1) ⟨[start], [], []⟩).visited.reverse

def givenKeys (g : FlowGraph) (o : Order) (start : Int) : List Int :=
  (g.visits o start).filter g.blocks.contains

theorem map_filter_contains (g : FlowGraph) (keys : List Int) :
    (keys.filter g.blocks.contains).map g.block? = (keys.filterMap g.block?).map some := by
  induction keys with
  | nil => rfl
  | cons k rest ih =>
    have hcontains : g.blocks.contains k = (g.block? k).isSome := g.blocks.contains_eq k
    cases hblock : g.block? k with
    | none => simpa [hcontains, hblock] using ih
    | some b => simpa [hcontains, hblock] using ih

theorem Ends.filterMap_visits {g : FlowGraph} {o : Order} {start : Int} {blocks : List Block}
    (h : g.Ends o start blocks) : (g.visits o start).filterMap g.block? = blocks := by
  have hturn : ∀ t : Tour, t.given = t.visited.reverse.filterMap g.block? →
      (Tour.turn g o t).given = (Tour.turn g o t).visited.reverse.filterMap g.block? :=
    Tour.turn_given
  have hstart : (⟨[start], [], []⟩ : Tour).given = [].reverse.filterMap g.block? := rfl
  exact (Tour.run_keeps hturn (g.edgeCount + 1) hstart).symm.trans h.2

theorem visits_ordered (g : FlowGraph) (start : Int) :
    (∀ k ∈ g.visits .breadth start, ∃ n, g.Distance start k n) ∧
      (g.visits .breadth start).Pairwise (g.NoFurther start) := by
  have hstart : Tour.Layered g start ⟨[start], [], []⟩ :=
    ⟨0, [start], [], rfl, Abreast.initial g start⟩
  obtain ⟨n, _, _, _, habreast⟩ := Tour.run_keeps Tour.turn_layered (g.edgeCount + 1) hstart
  refine ⟨?_, List.pairwise_reverse.mpr habreast.ordered⟩
  intro k hk
  obtain ⟨m, _, hdistance⟩ := habreast.settled k (List.mem_reverse.mp hk)
  exact ⟨m, hdistance⟩

/-- The breadth-first walk gives the block of a key before those of keys that are further away. -/
theorem breadthFirst_byDistance (g : FlowGraph) (start : Int) :
    (g.givenKeys .breadth start).map g.block? = (g.breadthFirst start).map some ∧
      (∀ k ∈ g.givenKeys .breadth start, ∃ n, g.Distance start k n) ∧
      (g.givenKeys .breadth start).Pairwise (g.NoFurther start) := by
  obtain ⟨hdistance, hordered⟩ := g.visits_ordered start
  refine ⟨?_, ?_, hordered.filter _⟩
  · rw [givenKeys, map_filter_contains, (g.ends_breadthFirst start).filterMap_visits]
  · intro k hk
    exact hdistance k (List.mem_of_mem_filter hk)

-- Key 4 is two edges away by way of 3 and three by way of 2 and 5; it waits twice, and so does 3.
example :
    let g : FlowGraph := ⟨Table.ofList [(1, ⟨1, 1, 0, 0, [2, 3, 3], [], true, false⟩),
      (2, ⟨2, 2, 1, 1, [5, 1], [], false, false⟩), (3, ⟨3, 3, 2, 2, [4, 9], [], false, false⟩),
      (4, ⟨4, 4, 3, 3, [], [], false, true⟩), (5, ⟨5, 5, 4, 4, [4], [], false, false⟩)], [1]⟩
    g.visits .breadth 1 = [1, 2, 3, 5, 4, 9] ∧ g.givenKeys .breadth 1 = [1, 2, 3, 5, 4] := by
  cbv

end CodeAtlas.FlowGraph
