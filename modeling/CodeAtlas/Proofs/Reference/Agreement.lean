import CodeAtlas.Proofs.FlowGraph.WellFormed
import CodeAtlas.Proofs.Reference

set_option autoImplicit false

namespace CodeAtlas

def Reference.IsJump (r : Reference) : Prop := r.kind = .jump ∨ r.kind = .conditionalJump

namespace References

variable {base : Int} {wanted : Bool} {stream : Stream}

theorem mem_toList_build {r : Reference} : r ∈ toList (build base wanted stream) ↔
    r ∈ outgoing (build base wanted stream) r.source := by
  rw [(toList_build_perm base wanted stream).mem_iff, mem_outgoing_build]
  exact (and_iff_right rfl).symm

/-- No pass but the one for branches files a jump. -/
theorem exists_jump_iff {source target : Int} :
    (∃ r ∈ outgoing (build base wanted stream) source, r.IsJump ∧ r.target = target) ↔
      ∃ (k : Nat) (i : Instruction), stream[k]? = some i ∧ i.address = source ∧ i.isJump = true ∧
        i.branchTarget? = some target := by
  simp only [mem_outgoing_build, mem_found_iff]
  constructor
  · rintro ⟨_, ⟨rfl, i, hi, kind, a, hrefers, rfl⟩, hkind, rfl⟩
    obtain ⟨k, hk⟩ := List.mem_iff_getElem?.mp hi
    have hjump : i.Refers base wanted .jump a ∨ i.Refers base wanted .conditionalJump a := by
      rcases hkind with rfl | rfl
      · exact Or.inl hrefers
      · exact Or.inr hrefers
    exact ⟨k, i, hk, rfl, Instruction.refers_jump_iff.mp hjump⟩
  · rintro ⟨k, i, hk, rfl, hjump⟩
    have hi := List.mem_of_getElem? hk
    rcases Instruction.refers_jump_iff.mpr hjump with hrefers | hrefers
    · exact ⟨_, ⟨rfl, i, hi, _, _, hrefers, rfl⟩, Or.inl rfl, rfl⟩
    · exact ⟨_, ⟨rfl, i, hi, _, _, hrefers, rfl⟩, Or.inr rfl, rfl⟩

end References

namespace FlowGraph

structure Agrees (stream : Stream) (refs : References) (g : FlowGraph) : Prop where
  edge_iff : ∀ b ∈ g.blocks.values, ∀ c ∈ g.blocks.values, c.startAddress ∈ b.successors ↔
    (c.startIndex = b.endIndex + 1 ∧ ∃ i, stream[b.endIndex.toNat]? = some i ∧
      i.isReturn = false ∧ i.isUnconditionalJump = false) ∨
    ∃ r ∈ refs.outgoing b.endAddress, r.IsJump ∧ r.target = c.startAddress
  jump_leaves : ∀ r ∈ refs.toList, r.IsJump → ∀ b ∈ g.blocks.values, ∀ k : Nat,
    stream.addressAt? k = some r.source → b.startIndex ≤ k → (k : Int) ≤ b.endIndex →
      r.source = b.endAddress ∧ (stream.hasAddress r.target = true → r.target ∈ b.successors)

section Built

variable {stream : Stream} {entry : Int} {g : FlowGraph} (hbuild : build stream entry = .ok g)
  (hasc : stream.Ascending) (base : Int) (wanted : Bool)

include hbuild hasc

theorem edge_iff_reference {b c : Block} (hb : b ∈ g.blocks.values) (hc : c ∈ g.blocks.values) :
    c.startAddress ∈ b.successors ↔
      (c.startIndex = b.endIndex + 1 ∧ ∃ i, stream[b.endIndex.toNat]? = some i ∧
        i.isReturn = false ∧ i.isUnconditionalJump = false) ∨
      ∃ r ∈ (References.build base wanted stream).outgoing b.endAddress,
        r.IsJump ∧ r.target = c.startAddress := by
  obtain ⟨_, span, hblock⟩ := values_isBlock hbuild hasc hb
  obtain ⟨_, target, hnext⟩ := values_isBlock hbuild hasc hc
  have hend := values_endAddress hbuild hb
  rw [hblock.endIndex, Int.toNat_natCast] at hend ⊢
  rw [hblock.edge_iff hasc hnext, hnext.startIndex, References.exists_jump_iff]
  have hfirst := hnext.address
  generalize target.first = first at hfirst ⊢
  constructor
  · intro hstep
    cases hstep with
    | fall hi hreturn hjump _ => exact Or.inl ⟨rfl, _, hi, hreturn, hjump⟩
    | jump hi hjump hbranch haddress =>
      rw [hfirst] at haddress
      cases haddress
      rw [Stream.addressAt?, hi] at hend
      exact Or.inr ⟨_, _, hi, Option.some.inj hend, hjump, hbranch⟩
  · rintro (⟨hnext, i, hi, hreturn, hjump⟩ | ⟨k, i, hi, hsource, hjump, hbranch⟩)
    · obtain rfl : first = span.last + 1 := by omega
      exact Stream.Step.fall hi hreturn hjump (Stream.addressAt?_lt hfirst)
    · have hk : stream.addressAt? k = some b.endAddress :=
        Stream.addressAt?_eq_some_iff.mpr ⟨i, hi, hsource⟩
      rw [hasc.index_unique hend hk]
      exact Stream.Step.jump hi hjump hbranch hfirst

theorem reference_leaves {r : Reference}
    (hr : r ∈ (References.build base wanted stream).toList) (hjump : r.IsJump) {b : Block}
    (hb : b ∈ g.blocks.values) {k : Nat} (hk : stream.addressAt? k = some r.source)
    (hstart : b.startIndex ≤ k) (hend : (k : Int) ≤ b.endIndex) :
    r.source = b.endAddress ∧ (stream.hasAddress r.target = true → r.target ∈ b.successors) := by
  obtain ⟨m, i, hi, hsource, hisJump, hbranch⟩ := References.exists_jump_iff.mp
    ⟨r, References.mem_toList_build.mp hr, hjump, rfl⟩
  have hm : stream.addressAt? m = some r.source :=
    Stream.addressAt?_eq_some_iff.mpr ⟨i, hi, hsource⟩
  obtain rfl := hasc.index_unique hk hm
  have hlast := terminator_last hbuild hasc hb hi hstart hend
    (Instruction.isTerminator_of_isJump hisJump)
  have haddress := values_endAddress hbuild hb
  rw [← hlast, Int.toNat_natCast, hk] at haddress
  refine ⟨Option.some.inj haddress, ?_⟩
  intro htarget
  obtain ⟨j, hj⟩ := Stream.hasAddress_iff.mp htarget
  obtain ⟨_, span, hblock⟩ := values_isBlock hbuild hasc hb
  rw [hblock.endIndex, Int.ofNat_inj] at hlast
  subst hlast
  obtain ⟨a, _, ha, hsuccessor⟩ :=
    hblock.last_step hasc (Stream.Step.jump hi hisJump hbranch hj)
  rw [hj] at ha
  cases ha
  exact hsuccessor

end Built

/-- The graph of a stream and its references agree on jumps. -/
theorem build_agrees (stream : Stream) (entry base : Int) (wanted : Bool)
    (hasc : stream.Ascending) (hentry : stream.hasAddress entry = true) :
    ∃ g, build stream entry = .ok g ∧ Agrees stream (References.build base wanted stream) g := by
  have hbuild := build_of_hasAddress hentry
  refine ⟨_, hbuild, ?_, ?_⟩
  · intro b hb c hc
    exact edge_iff_reference hbuild hasc base wanted hb hc
  · intro r hr hjump b hb k hk hstart hend
    exact reference_leaves hbuild hasc base wanted hr hjump hb hk hstart hend

theorem build_agrees_loop : loopStream.Ascending ∧ loopStream.hasAddress 16 = true ∧
    ∃ g, build loopStream 16 = .ok g ∧
      Agrees loopStream (References.build defaultImageBase true loopStream) g :=
  ⟨by decide, by decide,
    build_agrees loopStream 16 defaultImageBase true (by decide) (by decide)⟩

end FlowGraph

end CodeAtlas
