import CodeAtlas.Proofs.Listing

set_option autoImplicit false

namespace CodeAtlas.Listing

structure IsResidue (bits : Nat) (value word : Int) : Prop where
  eq_mod : word = value % (Nat.pow 2 bits : Nat)
  nonneg : 0 ≤ word
  lt : word < (Nat.pow 2 bits : Nat)

theorem isResidue_iff {bits : Nat} {value word : Int} :
    IsResidue bits value word ↔ word = value % (Nat.pow 2 bits : Nat) := by
  constructor
  · exact IsResidue.eq_mod
  · rintro rfl
    have hpos : 0 < Nat.pow 2 bits := Nat.two_pow_pos bits
    exact ⟨rfl, Int.emod_nonneg _ (by omega), Int.emod_lt_of_pos _ (by omega)⟩

theorem wordSpace_eq (bytes : Nat) : wordSpace bytes = Nat.pow 2 (8 * bytes) := by
  rw [wordSpace, Nat.shiftLeft_eq, Nat.one_mul, Nat.mul_comm]
  rfl

theorem wordSpace_bytes (bitness : Bitness) : wordSpace bitness.bytes = Nat.pow 2 bitness.bits := by
  cases bitness with
  | bits32 => exact wordSpace_eq 4
  | bits64 => exact wordSpace_eq 8

theorem not_mem_farBranches {mnemonic : String} :
    mnemonic ∉ farBranches ↔ mnemonic ≠ "ljmp" ∧ mnemonic ≠ "lcall" := by
  simp [farBranches]

namespace Entry

/-- A jump or a call within its segment, to the number that is its first operand. -/
structure BranchesTo (entry : Entry) (value : Int) : Prop where
  operand : ∃ size, entry.operands[0]? = some (.immediate value size)
  branch : entry.isBranch = true
  near : entry.mnemonic ≠ "ljmp" ∧ entry.mnemonic ≠ "lcall"

/-- The operand at an index is a number of so many bytes and neither a near nor a far branch. -/
structure NumberAt (entry : Entry) (k : Nat) (value : Int) (size : Nat) : Prop where
  operand : entry.operands[k]? = some (.immediate value size)
  not_near : ¬ (entry.isBranch = true ∧ k = 0)
  not_far : entry.mnemonic ≠ "ljmp" ∧ entry.mnemonic ≠ "lcall"

def RelativeAt (entry : Entry) (k : Nat) (displacement : Int) : Prop :=
  entry.operands[k]? = some (.memory (some "rip") displacement)

structure Gives (entry : Entry) (bitness : Bitness) (i : Instruction) : Prop where
  branchTarget : ∀ t, i.branchTarget? = some t ↔
    ∃ value, entry.BranchesTo value ∧ IsResidue bitness.bits value t
  number : ∀ n, i.immediate = some n ↔
    ∃ k value size, entry.NumberAt k value size ∧ (∀ j v s, entry.NumberAt j v s → k ≤ j) ∧
      IsResidue (8 * if size = 0 then 8 else size) value n
  ripTarget : ∀ t, i.ripTarget = some t ↔
    ∃ k displacement, entry.RelativeAt k displacement ∧
      (∀ j d, entry.RelativeAt j d → j ≤ k) ∧
      IsResidue 64 (i.address + entry.size + displacement) t

variable {entry : Entry} {bitness : Bitness} {address : Int} {k : Nat} {o : Operand}

/-! ## The operands that count -/

theorem numberOf?_eq_some_iff (ho : entry.operands[k]? = some o) {n : Int} :
    entry.numberOf? (o, k) = some n ↔ ∃ value size, entry.NumberAt k value size ∧
      IsResidue (8 * if size = 0 then 8 else size) value n := by
  constructor
  · intro h
    cases o with
    | immediate value size =>
      rw [numberOf?] at h
      split at h
      · cases h
      · next hplain =>
        obtain ⟨hfar, hnear⟩ := not_or.mp hplain
        refine ⟨value, size, ⟨ho, hnear, not_mem_farBranches.mp hfar⟩, ?_⟩
        rw [isResidue_iff, ← wordSpace_eq]
        exact (Option.some.inj h).symm
    | register name => cases h
    | memory base displacement => cases h
    | other => cases h
  · rintro ⟨value, size, hnumber, hn⟩
    obtain rfl := Option.some.inj (ho.symm.trans hnumber.operand)
    have hplain := not_or.mpr ⟨not_mem_farBranches.mpr hnumber.not_far, hnumber.not_near⟩
    rw [numberOf?, if_neg hplain, hn.eq_mod, ← wordSpace_eq]

theorem relativeOf?_eq_some_iff (ho : entry.operands[k]? = some o) {t : Int} :
    entry.relativeOf? address (o, k) = some t ↔ ∃ displacement, entry.RelativeAt k displacement ∧
      IsResidue 64 (address + entry.size + displacement) t := by
  constructor
  · intro h
    cases o with
    | memory base displacement =>
      rw [relativeOf?] at h
      split at h
      · next hbase =>
        subst hbase
        exact ⟨displacement, ho, isResidue_iff.mpr (Option.some.inj h).symm⟩
      · cases h
    | register name => cases h
    | immediate value size => cases h
    | other => cases h
  · rintro ⟨displacement, hrelative, ht⟩
    obtain rfl := Option.some.inj (ho.symm.trans hrelative)
    rw [relativeOf?, if_pos rfl, ht.eq_mod]
    rfl

theorem nearOf?_eq_some_iff (ho : entry.operands[k]? = some o) {t : Int} :
    entry.nearOf? bitness (o, k) = some t ↔
      k = 0 ∧ ∃ value, entry.BranchesTo value ∧ IsResidue bitness.bits value t := by
  constructor
  · intro h
    cases o with
    | immediate value size =>
      rw [nearOf?] at h
      split at h
      · next hnear =>
        obtain ⟨hfar, hbranch, rfl⟩ := hnear
        refine ⟨rfl, value, ⟨⟨size, ho⟩, hbranch, not_mem_farBranches.mp hfar⟩, ?_⟩
        rw [isResidue_iff, ← wordSpace_bytes]
        exact (Option.some.inj h).symm
      · cases h
    | register name => cases h
    | memory base displacement => cases h
    | other => cases h
  · rintro ⟨rfl, value, hbranches, ht⟩
    obtain ⟨size, hoperand⟩ := hbranches.operand
    obtain rfl := Option.some.inj (ho.symm.trans hoperand)
    have hnear : entry.mnemonic ∉ farBranches ∧ entry.isBranch = true ∧ 0 = 0 :=
      ⟨not_mem_farBranches.mpr hbranches.near, hbranches.branch, rfl⟩
    rw [nearOf?, if_pos hnear, ht.eq_mod, wordSpace_bytes]

/-! ## What a reading holds -/

theorem ofEntry_immediate {n : Int} : (Reading.ofEntry entry bitness address).immediate = some n ↔
    ∃ k value size, entry.NumberAt k value size ∧ (∀ j v s, entry.NumberAt j v s → k ≤ j) ∧
      IsResidue (8 * if size = 0 then 8 else size) value n := by
  rw [Reading.ofEntry_eq, findSome?_zipIdx_eq_some_iff]
  constructor
  · rintro ⟨o, k, ho, hn, hfirst⟩
    obtain ⟨value, size, hnumber, hn⟩ := (numberOf?_eq_some_iff ho).mp hn
    refine ⟨k, value, size, hnumber, ?_, hn⟩
    intro j v s hj
    have hvalue := (numberOf?_eq_some_iff hj.operand).mpr ⟨v, s, hj, isResidue_iff.mpr rfl⟩
    exact hfirst _ j hj.operand _ hvalue
  · rintro ⟨k, value, size, hnumber, hfirst, hn⟩
    have hvalue := (numberOf?_eq_some_iff hnumber.operand).mpr ⟨value, size, hnumber, hn⟩
    refine ⟨_, k, hnumber.operand, hvalue, ?_⟩
    intro o j ho m hm
    obtain ⟨v, s, hj, -⟩ := (numberOf?_eq_some_iff ho).mp hm
    exact hfirst j v s hj

theorem ofEntry_ripTarget {t : Int} : (Reading.ofEntry entry bitness address).ripTarget = some t ↔
    ∃ k displacement, entry.RelativeAt k displacement ∧ (∀ j d, entry.RelativeAt j d → j ≤ k) ∧
      IsResidue 64 (address + entry.size + displacement) t := by
  rw [Reading.ofEntry_eq, findSome?_reverse_zipIdx_eq_some_iff]
  constructor
  · rintro ⟨o, k, ho, ht, hlast⟩
    obtain ⟨displacement, hrelative, ht⟩ := (relativeOf?_eq_some_iff ho).mp ht
    refine ⟨k, displacement, hrelative, ?_, ht⟩
    intro j d hj
    exact hlast _ j hj _ ((relativeOf?_eq_some_iff hj).mpr ⟨d, hj, isResidue_iff.mpr rfl⟩)
  · rintro ⟨k, displacement, hrelative, hlast, ht⟩
    have hvalue := (relativeOf?_eq_some_iff hrelative).mpr ⟨displacement, hrelative, ht⟩
    refine ⟨_, k, hrelative, hvalue, ?_⟩
    intro o j ho u hu
    obtain ⟨d, hj, -⟩ := (relativeOf?_eq_some_iff ho).mp hu
    exact hlast j d hj

theorem ofEntry_nearBranch {t : Int} :
    (Reading.ofEntry entry bitness address).nearBranch = some t ↔
      ∃ value, entry.BranchesTo value ∧ IsResidue bitness.bits value t := by
  rw [Reading.ofEntry_eq, findSome?_reverse_zipIdx_eq_some_iff]
  constructor
  · rintro ⟨o, k, ho, ht, -⟩
    exact ((nearOf?_eq_some_iff ho).mp ht).2
  · rintro ⟨value, hbranches, ht⟩
    obtain ⟨size, hoperand⟩ := hbranches.operand
    refine ⟨_, 0, hoperand, (nearOf?_eq_some_iff hoperand).mpr ⟨rfl, value, hbranches, ht⟩, ?_⟩
    intro o j ho u hu
    exact Nat.le_of_eq ((nearOf?_eq_some_iff ho).mp hu).1

theorem BranchesTo.kind {value : Int} (h : entry.BranchesTo value) :
    ∃ kind, (Reading.ofEntry entry bitness address).kinds[0]? = some kind ∧
      kind.isResolvable = true := by
  obtain ⟨size, hoperand⟩ := h.operand
  obtain ⟨rest, hrest⟩ : ∃ rest, entry.operands = .immediate value size :: rest := by
    cases hoperands : entry.operands with
    | nil => simp [hoperands] at hoperand
    | cons o rest =>
      rw [hoperands] at hoperand
      exact ⟨rest, by rw [Option.some.inj hoperand]⟩
  have hfar := not_mem_farBranches.mpr h.near
  rw [Reading.ofEntry_eq, hrest, List.zipIdx_cons]
  cases bitness with
  | bits32 =>
    refine ⟨.nearBranch32, ?_, rfl⟩
    simp [kindOf?, hfar, h.branch]
  | bits64 =>
    refine ⟨.nearBranch64, ?_, rfl⟩
    simp [kindOf?, hfar, h.branch]

/-- An instruction has the targets and the number that the operands of its entry give. -/
theorem instruction_gives (entry : Entry) (bitness : Bitness) (address : Int) (bytes : Bytes)
    (fileOffset : Int) :
    entry.Gives bitness (entry.instruction bitness address bytes fileOffset) where
  branchTarget t := by
    constructor
    · intro h
      rw [Instruction.branchTarget?] at h
      split at h
      · split at h
        · exact ofEntry_nearBranch.mp h
        · cases h
      · cases h
    · intro h
      have hnear : (Reading.ofEntry entry bitness address).nearBranch = some t :=
        ofEntry_nearBranch.mpr h
      obtain ⟨value, hbranches, -⟩ := h
      obtain ⟨kind, hkind, hresolvable⟩ := hbranches.kind
      have hzero : (entry.instruction bitness address bytes fileOffset).kind? 0 = some kind := hkind
      simp only [Instruction.branchTarget?, hzero, hresolvable, ↓reduceIte]
      exact hnear
  number _ := ofEntry_immediate
  ripTarget _ := ofEntry_ripTarget

-- a call to below address zero
example : (instruction ⟨5, "call", "", true, [.immediate (-16) 4], by decide⟩ .bits32 0x1000 #[]
    0).branchTarget? = some 0xFFFFFFF0 := by decide

end Entry

end CodeAtlas.Listing
