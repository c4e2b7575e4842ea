import CodeAtlas.Proofs.Listing

/-!
# Kinds and registers side by side

The kinds and the registers of an instruction are two lists that are read with the same index. An
operand of no known type has a place among the registers but none among the kinds, so the kinds behind
it stand one place too early. The lists agree on the registers exactly if no register stands behind
such an operand.
-/

set_option autoImplicit false

namespace CodeAtlas.Listing

/-! ## Places that a list keeps when gaps are closed -/

section Gaps

variable {α κ : Type} {f : α → Option κ} {r : κ}

theorem ne_of_shifted {l : List α} {s : Nat}
    (h : ∀ k a, l[k]? = some a → f a = some r → (l.filterMap f)[k + s + 1]? = some r) :
    ∀ a ∈ l, f a ≠ some r := by
  -- The last image that is `r` would need another one behind it.
  induction l generalizing s with
  | nil => simp
  | cons a l ih =>
    cases ha : f a with
    | none =>
      rw [List.filterMap_cons_none ha] at h
      have hrest : ∀ b ∈ l, f b ≠ some r := by
        apply ih (s := s + 1)
        intro k b hb hr
        have hshift := h (k + 1) b hb hr
        rwa [show k + 1 + s + 1 = k + (s + 1) + 1 by omega] at hshift
      exact List.forall_mem_cons.mpr ⟨by simp [ha], hrest⟩
    | some x =>
      rw [List.filterMap_cons_some ha] at h
      have hrest : ∀ b ∈ l, f b ≠ some r := by
        apply ih (s := s)
        intro k b hb hr
        have hshift := h (k + 1) b hb hr
        rwa [show k + 1 + s + 1 = k + s + 1 + 1 by omega, List.getElem?_cons_succ] at hshift
      refine List.forall_mem_cons.mpr ⟨?_, hrest⟩
      intro hr
      have hlater := h 0 a rfl hr
      rw [List.getElem?_cons_succ] at hlater
      obtain ⟨b, hb, hbr⟩ := List.mem_filterMap.mp (List.mem_of_getElem? hlater)
      exact hrest b hb hbr

/-- The images that are `r` keep their places exactly if none stands behind a gap. -/
theorem filterMap_inPlace_iff {l : List α} :
    (∀ (k : Nat) (a : α), l[k]? = some a → f a = some r → (l.filterMap f)[k]? = some r) ↔
      l.Pairwise fun a b => f a = none → f b ≠ some r := by
  induction l with
  | nil => simp
  | cons a l ih =>
    rw [List.pairwise_cons, ← ih]
    cases ha : f a with
    | none =>
      rw [List.filterMap_cons_none ha]
      constructor
      · intro h
        have hrest : ∀ b ∈ l, f b ≠ some r :=
          ne_of_shifted (s := 0) fun k b hb hr => h (k + 1) b hb hr
        exact ⟨fun b hb _ => hrest b hb,
          fun k b hb hr => absurd hr (hrest b (List.mem_of_getElem? hb))⟩
      · rintro ⟨hrest, -⟩ k b hb hr
        cases k with
        | zero =>
          obtain rfl : a = b := Option.some.inj hb
          rw [ha] at hr
          cases hr
        | succ k => exact absurd hr (hrest b (List.mem_of_getElem? hb) rfl)
    | some x =>
      rw [List.filterMap_cons_some ha]
      constructor
      · intro h
        exact ⟨by simp, fun k b hb hr => h (k + 1) b hb hr⟩
      · rintro ⟨-, hrest⟩ k b hb hr
        cases k with
        | zero =>
          obtain rfl : a = b := Option.some.inj hb
          rw [← hr, ha]
          rfl
        | succ k => exact hrest k b hb hr

end Gaps

namespace Entry

/-- Kinds and registers agree: only a register operand has a register, and each register operand of
the entry has its kind and its name in its own place. -/
structure Aligned (entry : Entry) (i : Instruction) : Prop where
  named : ∀ index : Int, i.register? index ≠ none → i.kind? index = some .register
  kept : ∀ (k : Nat) (name : Option String), entry.operands[k]? = some (.register name) →
    i.kind? k = some .register ∧ i.register? k = name

variable {entry : Entry} {bitness : Bitness} {address : Int} {bytes : Bytes} {fileOffset : Int}

theorem immediateKind_ne_register (mnemonic : String) (size : Nat) :
    immediateKind mnemonic size ≠ .register := by
  unfold immediateKind
  split_ifs <;> simp

theorem kindOf?_eq_register_iff {x : Operand × Nat} :
    entry.kindOf? bitness x = some .register ↔ ∃ name, x.1 = .register name := by
  obtain ⟨o, k⟩ := x
  cases o with
  | register name => simp [kindOf?]
  | immediate value size =>
    have hkind := immediateKind_ne_register entry.mnemonic size
    cases bitness <;> simp only [kindOf?] <;> split_ifs <;> simp [hkind]
  | memory base displacement => simp [kindOf?]
  | other => simp [kindOf?]

theorem kindOf?_eq_none_iff {x : Operand × Nat} :
    entry.kindOf? bitness x = none ↔ x.1 = .other := by
  obtain ⟨o, k⟩ := x
  cases o with
  | register name => simp [kindOf?]
  | immediate value size => cases bitness <;> simp only [kindOf?] <;> split_ifs <;> simp
  | memory base displacement => simp [kindOf?]
  | other => simp [kindOf?]

theorem instruction_kinds : (entry.instruction bitness address bytes fileOffset).kinds =
    entry.operands.zipIdx.filterMap (entry.kindOf? bitness) := by
  rw [instruction, Reading.ofEntry_eq]

theorem instruction_registers : (entry.instruction bitness address bytes fileOffset).registers =
    entry.operands.map Operand.name? := by
  rw [instruction, Reading.ofEntry_eq]

theorem instruction_register? (k : Nat) :
    (entry.instruction bitness address bytes fileOffset).register? k =
      entry.operands[k]?.bind Operand.name? := by
  have hnonneg : ¬ (k : Int) < 0 := by omega
  rw [Instruction.register?, if_neg hnonneg, Int.toNat_natCast, instruction_registers,
    List.getElem?_map]
  cases entry.operands[k]? with
  | none => rfl
  | some o => rfl

theorem instruction_kind? (k : Nat) :
    (entry.instruction bitness address bytes fileOffset).kind? k =
      (entry.operands.zipIdx.filterMap (entry.kindOf? bitness))[k]? := by
  have hnonneg : ¬ (k : Int) < 0 := by omega
  rw [Instruction.kind?, if_neg hnonneg, Int.toNat_natCast, instruction_kinds]

theorem length_instruction_kinds :
    (entry.instruction bitness address bytes fileOffset).kinds.length +
      entry.operands.count .other = entry.operands.length := by
  have hgaps : entry.operands.count .other =
      entry.operands.zipIdx.countP fun x => ¬ (entry.kindOf? bitness x).isSome := by
    conv => lhs; rw [← List.zipIdx_map_fst 0 entry.operands]
    rw [List.count, List.countP_map]
    apply List.countP_congr
    intro x _
    simp [kindOf?_eq_none_iff]
  rw [instruction_kinds, List.length_filterMap_eq_countP, hgaps,
    ← List.length_eq_countP_add_countP, List.length_zipIdx]

theorem aligned_iff_inPlace : entry.Aligned (entry.instruction bitness address bytes fileOffset) ↔
    ∀ (k : Nat) (x : Operand × Nat), entry.operands.zipIdx[k]? = some x →
      entry.kindOf? bitness x = some .register →
      (entry.operands.zipIdx.filterMap (entry.kindOf? bitness))[k]? = some .register := by
  constructor
  · intro h k x hx hr
    rw [List.getElem?_zipIdx] at hx
    obtain ⟨o, ho, rfl⟩ := Option.map_eq_some_iff.mp hx
    obtain ⟨name, rfl⟩ := kindOf?_eq_register_iff.mp hr
    rw [← instruction_kind?]
    exact (h.kept k name ho).1
  · intro h
    have hkept : ∀ (k : Nat) (name : Option String), entry.operands[k]? = some (.register name) →
        (entry.instruction bitness address bytes fileOffset).kind? k = some .register := by
      intro k name hk
      rw [instruction_kind?]
      exact h k (.register name, 0 + k) (by rw [List.getElem?_zipIdx, hk]; rfl) rfl
    constructor
    · intro index hne
      rcases Int.lt_or_le index 0 with hneg | hnonneg
      · exact absurd (if_pos hneg) hne
      · obtain ⟨k, rfl⟩ := Int.eq_ofNat_of_zero_le hnonneg
        rw [instruction_register?] at hne
        cases ho : entry.operands[k]? with
        | none => simp [ho] at hne
        | some o =>
          cases o with
          | register name => exact hkept k name ho
          | immediate value size => simp [ho, Operand.name?] at hne
          | memory base displacement => simp [ho, Operand.name?] at hne
          | other => simp [ho, Operand.name?] at hne
    · intro k name hk
      refine ⟨hkept k name hk, ?_⟩
      rw [instruction_register?, hk]
      rfl

/-- Registers stand in the places of their operands, kinds do so without the operands of no known
type. The two agree exactly if no register stands behind such an operand. -/
theorem instruction_aligned_iff (entry : Entry) (bitness : Bitness) (address : Int) (bytes : Bytes)
    (fileOffset : Int) :
    (∀ k : Nat, (entry.instruction bitness address bytes fileOffset).register? k =
      entry.operands[k]?.bind Operand.name?) ∧
    (entry.instruction bitness address bytes fileOffset).kinds.length +
      entry.operands.count .other = entry.operands.length ∧
    (entry.Aligned (entry.instruction bitness address bytes fileOffset) ↔
      entry.operands.Pairwise fun o p => o = .other → ∀ name, p ≠ .register name) := by
  refine ⟨instruction_register?, length_instruction_kinds, ?_⟩
  rw [aligned_iff_inPlace, filterMap_inPlace_iff]
  conv => rhs; rw [← List.zipIdx_map_fst 0 entry.operands, List.pairwise_map]
  simp only [kindOf?_eq_none_iff, ne_eq, kindOf?_eq_register_iff, not_exists]

/-- A move of a register whose first operand is of no known type. -/
def unknownFirst : Entry where
  size := 3
  mnemonic := "mov"
  operandText := ""
  isBranch := false
  operands := [.other, .register (some "rax")]
  size_pos := by decide

theorem unknownFirst_drifts :
    (unknownFirst.instruction .bits64 0x1000 #[0x48, 0x89, 0xC0] 0).register? 1 = some "rax" ∧
    (unknownFirst.instruction .bits64 0x1000 #[0x48, 0x89, 0xC0] 0).kind? 1 = none ∧
    ¬ unknownFirst.Aligned (unknownFirst.instruction .bits64 0x1000 #[0x48, 0x89, 0xC0] 0) := by
  have hkind : (unknownFirst.instruction .bits64 0x1000 #[0x48, 0x89, 0xC0] 0).kind? 1 = none := rfl
  refine ⟨rfl, hkind, ?_⟩
  intro h
  have hkept := (h.kept 1 (some "rax") rfl).1
  rw [show ((1 : Nat) : Int) = 1 from rfl, hkind] at hkept
  cases hkept

end Entry

end CodeAtlas.Listing
