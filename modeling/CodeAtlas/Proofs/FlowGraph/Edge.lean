import CodeAtlas.Proofs.FlowGraph.Partition

/-!
# The edges of a flow graph

An edge between two blocks is a step from the last instruction of the one to the first of the
other. Edges to addresses that are no keys are dropped, and no step is lost by that: what follows
a block is a key, and so is every address of the stream to which a jump leads. Inside a block
control passes from each instruction to the next.
-/

set_option autoImplicit false

namespace CodeAtlas.FlowGraph

theorem nodup_eraseDups (xs : List Int) : xs.eraseDups.Nodup := by
  cases xs with
  | nil => exact List.nodup_nil
  | cons a rest =>
    rw [List.eraseDups_cons, List.nodup_cons, List.mem_eraseDups]
    exact ⟨by simp, nodup_eraseDups _⟩
termination_by xs.length
decreasing_by
  have hle := List.length_filter_le (fun b => !b == a) rest
  simp only [List.length_cons]
  omega

/-! ## Exits of an instruction -/

theorem mem_exits_iff {stream : Stream} {k : Nat} {a : Int} :
    a ∈ exits stream k ↔ ∃ i, stream[k]? = some i ∧
      ((i.isReturn = false ∧ i.isUnconditionalJump = false ∧
          stream.addressAt? (k + 1) = some a) ∨
        (i.isJump = true ∧ i.branchTarget? = some a)) := by
  rw [exits]
  cases hi : stream[k]? with
  | none => simp
  | some i =>
    simp only [Option.some.injEq, exists_eq_left', Instruction.isJump, Bool.or_eq_true]
    cases hjump : i.isUnconditionalJump with
    | true => simp
    | false =>
      cases hcond : i.isConditionalJump with
      | true => simp [Instruction.isReturn_of_isConditionalJump hcond]
      | false => cases i.isReturn <;> simp

theorem mem_exits_iff_step {stream : Stream} (hasc : stream.Ascending) {k target : Nat} {a : Int}
    (htarget : stream.addressAt? target = some a) :
    a ∈ exits stream k ↔ stream.Step k target := by
  rw [mem_exits_iff]
  constructor
  · rintro ⟨i, hi, ⟨hreturn, hjump, hnext⟩ | ⟨hjump, ha⟩⟩
    · obtain rfl := hasc.index_unique htarget hnext
      exact Stream.Step.fall hi hreturn hjump (Stream.addressAt?_lt hnext)
    · exact Stream.Step.jump hi hjump ha htarget
  · intro hstep
    cases hstep with
    | fall hi hreturn hjump _ => exact ⟨_, hi, Or.inl ⟨hreturn, hjump, htarget⟩⟩
    | jump hi hjump ha haddr =>
      rw [htarget] at haddr
      cases haddr
      exact ⟨_, hi, Or.inr ⟨hjump, ha⟩⟩

theorem exits_of_two_steps {stream : Stream} (hasc : stream.Ascending) {k target : Nat}
    {next a : Int} (hfall : stream.Step k (k + 1)) (hjump : stream.Step k target)
    (hne : target ≠ k + 1) (hnext : stream.addressAt? (k + 1) = some next)
    (htarget : stream.addressAt? target = some a) : exits stream k = [next, a] := by
  cases hjump with
  | fall => exact absurd rfl hne
  | jump hi hisJump hbranch haddr =>
    rw [htarget] at haddr
    cases haddr
    rename_i i
    have hcond : i.isUnconditionalJump = false := by
      cases hfall with
      | fall hi' _ hjump' _ =>
        rw [hi] at hi'
        cases hi'
        exact hjump'
      | jump hi' _ hbranch' haddr' =>
        -- One jump has one target, so it would be the next instruction.
        rw [hi] at hi'
        cases hi'
        rw [hbranch] at hbranch'
        cases hbranch'
        exact absurd (hasc.index_unique htarget haddr') hne
    have hconditional : i.isConditionalJump = true := by
      simpa [Instruction.isJump, hcond] using hisJump
    simp [exits, hi, hcond, hconditional, hnext, hbranch]

theorem mem_successors_iff {stream : Stream} {keys : List Int} {span : Span} {a : Int} :
    a ∈ successors stream keys span ↔ a ∈ exits stream span.last ∧ a ∈ keys := by
  rw [successors, List.mem_eraseDups, List.mem_filter, decide_eq_true_eq]

/-! ## Steps in a block and out of it -/

section IsBlock

variable {stream : Stream} {entry : Int} {b c : Block} {span target : Span}

theorem IsBlock.successors_nodup (hb : IsBlock stream entry b span) : b.successors.Nodup := by
  rw [hb.successors]
  exact nodup_eraseDups _

theorem IsBlock.edge_iff (hasc : stream.Ascending) (hb : IsBlock stream entry b span)
    (hc : IsBlock stream entry c target) :
    c.startAddress ∈ b.successors ↔ stream.Step span.last target.first := by
  rw [hb.successors, mem_successors_iff, mem_exits_iff_step hasc hc.address]
  exact ⟨And.left, fun h => ⟨h, hc.key⟩⟩

theorem IsBlock.inner_flows (hb : IsBlock stream entry b span) {k : Nat} (hfirst : span.first ≤ k)
    (hlast : k < span.last) : stream.Step k (k + 1) := by
  have hinside := hb.whole.inside
  have hk : k < stream.length := by omega
  have hflows := hb.whole.flows k stream[k] hfirst hlast (List.getElem?_eq_getElem hk)
  exact Stream.Step.fall (List.getElem?_eq_getElem hk)
    (Instruction.isReturn_of_not_isTerminator hflows)
    (Instruction.isUnconditionalJump_of_not_isTerminator hflows) (by omega)

theorem IsBlock.inner_step (hb : IsBlock stream entry b span) {k j : Nat}
    (hfirst : span.first ≤ k) (hlast : k < span.last) (hstep : stream.Step k j) : j = k + 1 := by
  cases hstep with
  | fall => rfl
  | jump hi hjump _ _ =>
    have hflows := hb.whole.flows k _ hfirst hlast hi
    rw [Instruction.isTerminator_of_isJump hjump] at hflows
    cases hflows

theorem IsBlock.last_step (hasc : stream.Ascending) (hb : IsBlock stream entry b span) {j : Nat}
    (hstep : stream.Step span.last j) :
    ∃ a ∈ starts stream entry, stream.addressAt? j = some a ∧ a ∈ b.successors := by
  obtain ⟨a, ha⟩ := Stream.exists_addressAt? hstep.target_lt
  have hkey : a ∈ starts stream entry := by
    cases hstep with
    | fall _ _ _ hlt =>
      obtain ⟨next, hmem, hnext⟩ := hb.whole.closes hlt
      rw [ha] at hnext
      cases hnext
      exact hmem
    | jump hi hjump hbranch haddr =>
      rw [ha] at haddr
      cases haddr
      exact starts_jump_target hi hjump hbranch ha
  refine ⟨a, hkey, ha, ?_⟩
  rw [hb.successors, mem_successors_iff, mem_exits_iff_step hasc ha]
  exact ⟨hstep, hkey⟩

theorem IsBlock.successors_eq (hasc : stream.Ascending) (hb : IsBlock stream entry b span)
    {j : Nat} {next a : Int} (hfall : stream.Step span.last (span.last + 1))
    (hjump : stream.Step span.last j) (hne : j ≠ span.last + 1)
    (hnext : stream.addressAt? (span.last + 1) = some next)
    (hj : stream.addressAt? j = some a) : b.successors = [next, a] := by
  obtain ⟨next', hnextKey, hnext', _⟩ := hb.last_step hasc hfall
  obtain ⟨a', haKey, ha', _⟩ := hb.last_step hasc hjump
  rw [hnext] at hnext'
  rw [hj] at ha'
  cases hnext'
  cases ha'
  have hdiff : ¬ a = next := by
    rintro rfl
    exact hne (hasc.index_unique hj hnext)
  rw [hb.successors, FlowGraph.successors, exits_of_two_steps hasc hfall hjump hne hnext hj]
  simp [hnextKey, haKey, List.eraseDups_cons, hdiff]

end IsBlock

structure Faithful (stream : Stream) (entry : Int) (g : FlowGraph) : Prop where
  entered : ∃ b ∈ g.blocks.values, b.startAddress = entry
  edge_iff_step : ∀ b ∈ g.blocks.values, ∀ c ∈ g.blocks.values, c.startAddress ∈ b.successors ↔
    ∃ k j : Nat, b.endIndex = k ∧ c.startIndex = j ∧ stream.Step k j
  step_stays_or_leaves : ∀ b ∈ g.blocks.values, ∀ k j : Nat, b.startIndex ≤ k →
    (k : Int) ≤ b.endIndex → stream.Step k j →
      (j = k + 1 ∧ (j : Int) ≤ b.endIndex) ∨
      ((k : Int) = b.endIndex ∧
        ∃ c ∈ g.blocks.values, c.startAddress ∈ b.successors ∧ c.startIndex = j)
  successors_nodup : ∀ b ∈ g.blocks.values, b.successors.Nodup
  next_before_target : ∀ b ∈ g.blocks.values, ∀ (k j : Nat) (next target : Int),
    b.endIndex = k → stream.Step k (k + 1) → stream.Step k j → j ≠ k + 1 →
      stream.addressAt? (k + 1) = some next → stream.addressAt? j = some target →
        b.successors = [next, target]

section Built

variable {stream : Stream} {entry : Int} {g : FlowGraph} (hbuild : build stream entry = .ok g)
  (hasc : stream.Ascending)

include hbuild hasc

theorem values_of_mem_starts {a : Int} (ha : a ∈ starts stream entry) :
    ∃ c ∈ g.blocks.values, c.startAddress = a ∧ ∃ span, IsBlock stream entry c span := by
  obtain ⟨c, hc⟩ := block?_of_mem_starts hbuild ha
  exact ⟨c, (g.blocks.mem_values_iff c).mpr ⟨a, hc⟩, block?_isBlock hbuild hasc hc⟩

theorem edge_iff_step {b c : Block} (hb : b ∈ g.blocks.values) (hc : c ∈ g.blocks.values) :
    c.startAddress ∈ b.successors ↔
      ∃ k j : Nat, b.endIndex = k ∧ c.startIndex = j ∧ stream.Step k j := by
  obtain ⟨_, span, hblock⟩ := values_isBlock hbuild hasc hb
  obtain ⟨_, target, hnext⟩ := values_isBlock hbuild hasc hc
  rw [hblock.edge_iff hasc hnext, hblock.endIndex, hnext.startIndex]
  constructor
  · intro hstep
    exact ⟨span.last, target.first, rfl, rfl, hstep⟩
  · rintro ⟨k, j, hk, hj, hstep⟩
    rw [Int.ofNat_inj.mp hk, Int.ofNat_inj.mp hj]
    exact hstep

/-- A step from an instruction of a block stays in the block, or leaves it from its last
instruction to the first of a successor. -/
theorem step_stays_or_leaves {b : Block} (hb : b ∈ g.blocks.values) {k j : Nat}
    (hstart : b.startIndex ≤ k) (hend : (k : Int) ≤ b.endIndex) (hstep : stream.Step k j) :
    (j = k + 1 ∧ (j : Int) ≤ b.endIndex) ∨
      ((k : Int) = b.endIndex ∧
        ∃ c ∈ g.blocks.values, c.startAddress ∈ b.successors ∧ c.startIndex = j) := by
  obtain ⟨_, span, hblock⟩ := values_isBlock hbuild hasc hb
  rw [hblock.startIndex] at hstart
  rw [hblock.endIndex] at hend ⊢
  by_cases hlast : k < span.last
  · have hj := hblock.inner_step (by omega) hlast hstep
    exact Or.inl ⟨hj, by omega⟩
  · have hk : k = span.last := by omega
    subst hk
    obtain ⟨a, hkey, ha, hsucc⟩ := hblock.last_step hasc hstep
    obtain ⟨c, hc, rfl, target, hnext⟩ := values_of_mem_starts hbuild hasc hkey
    refine Or.inr ⟨rfl, c, hc, hsucc, ?_⟩
    rw [hnext.startIndex, hasc.index_unique hnext.address ha]

end Built

/-- The graph of a stream has the control flow of its instructions. -/
theorem build_faithful (stream : Stream) (entry : Int) (hasc : stream.Ascending)
    (hentry : stream.hasAddress entry = true) :
    ∃ g, build stream entry = .ok g ∧ Faithful stream entry g := by
  have hbuild := build_of_hasAddress hentry
  refine ⟨_, hbuild, ?_, ?_, ?_, ?_, ?_⟩
  · have hkey := (mem_starts_iff_leads hentry).mpr Leads.entry
    obtain ⟨b, hb, haddress, _⟩ := values_of_mem_starts hbuild hasc hkey
    exact ⟨b, hb, haddress⟩
  · intro b hb c hc
    exact edge_iff_step hbuild hasc hb hc
  · intro b hb k j hstart hend hstep
    exact step_stays_or_leaves hbuild hasc hb hstart hend hstep
  · intro b hb
    obtain ⟨_, span, hblock⟩ := values_isBlock hbuild hasc hb
    exact hblock.successors_nodup
  · intro b hb k j next target hk hfall hjump hne hnext htarget
    obtain ⟨_, span, hblock⟩ := values_isBlock hbuild hasc hb
    rw [hblock.endIndex] at hk
    obtain rfl := Int.ofNat_inj.mp hk
    exact hblock.successors_eq hasc hfall hjump hne hnext htarget

theorem build_faithful_loop : loopStream.Ascending ∧ loopStream.hasAddress 16 = true ∧
    ∃ g, build loopStream 16 = .ok g ∧ Faithful loopStream 16 g :=
  ⟨by decide, by decide, build_faithful loopStream 16 (by decide) (by decide)⟩

end CodeAtlas.FlowGraph
