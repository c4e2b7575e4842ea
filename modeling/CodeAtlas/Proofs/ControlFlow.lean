import CodeAtlas.Instruction

/-!
# Control flow between instructions

`Step` is the control flow of a stream as it is known without running the code: from an
instruction to the next one, and from a jump to its target. A call passes to the next instruction.
In a stream whose addresses ascend an address stands for one index, so that addresses and indices
may be exchanged for one another.
-/

set_option autoImplicit false

namespace CodeAtlas

namespace Instruction

theorem conditionalJumps_disjoint : ∀ m ∈ conditionalJumps, m ∉ ["ret", "retn"] := by decide

theorem isReturn_of_isConditionalJump {i : Instruction} (h : i.isConditionalJump = true) :
    i.isReturn = false := by
  have hmem : i.mnemonic ∈ conditionalJumps := by simpa [isConditionalJump] using h
  simpa [isReturn] using conditionalJumps_disjoint _ hmem

theorem isReturn_of_not_isTerminator {i : Instruction} (h : i.isTerminator = false) :
    i.isReturn = false :=
  (Bool.or_eq_false_iff.mp h).2

theorem isUnconditionalJump_of_not_isTerminator {i : Instruction} (h : i.isTerminator = false) :
    i.isUnconditionalJump = false :=
  (Bool.or_eq_false_iff.mp (Bool.or_eq_false_iff.mp h).1).1

theorem isTerminator_of_isJump {i : Instruction} (h : i.isJump = true) :
    i.isTerminator = true := by
  simp [isTerminator, h]

end Instruction

namespace Stream

def Ascending (stream : Stream) : Prop := stream.Pairwise fun i j => i.address < j.address

instance (stream : Stream) : Decidable stream.Ascending :=
  inferInstanceAs (Decidable (stream.Pairwise _))

inductive Step (stream : Stream) : Nat → Nat → Prop where
  | fall {k : Nat} {i : Instruction} : stream[k]? = some i → i.isReturn = false →
      i.isUnconditionalJump = false → k + 1 < stream.length → Step stream k (k + 1)
  | jump {k target : Nat} {i : Instruction} {a : Int} : stream[k]? = some i → i.isJump = true →
      i.branchTarget? = some a → stream.addressAt? target = some a → Step stream k target

theorem addressAt?_eq_some_iff {stream : Stream} {k : Nat} {a : Int} :
    stream.addressAt? k = some a ↔ ∃ i, stream[k]? = some i ∧ i.address = a :=
  Option.map_eq_some_iff

theorem addressAt?_lt {stream : Stream} {k : Nat} {a : Int} (h : stream.addressAt? k = some a) :
    k < stream.length := by
  obtain ⟨i, hi, _⟩ := addressAt?_eq_some_iff.mp h
  exact (List.getElem?_eq_some_iff.mp hi).1

theorem exists_addressAt? {stream : Stream} {k : Nat} (h : k < stream.length) :
    ∃ a, stream.addressAt? k = some a :=
  ⟨stream[k].address, by rw [addressAt?, List.getElem?_eq_getElem h, Option.map_some]⟩

theorem Step.target_lt {stream : Stream} {k target : Nat} (h : Step stream k target) :
    target < stream.length := by
  cases h with
  | fall _ _ _ hlt => exact hlt
  | jump _ _ _ haddr => exact addressAt?_lt haddr

theorem hasAddress_iff_mem {stream : Stream} {a : Int} :
    stream.hasAddress a = true ↔ ∃ i ∈ stream, i.address = a := by
  simp only [hasAddress, List.any_eq_true, decide_eq_true_eq]

theorem hasAddress_iff {stream : Stream} {a : Int} :
    stream.hasAddress a = true ↔ ∃ k, stream.addressAt? k = some a := by
  simp only [hasAddress_iff_mem, addressAt?_eq_some_iff, List.mem_iff_getElem?]
  constructor
  · rintro ⟨i, ⟨k, hk⟩, ha⟩
    exact ⟨k, i, hk, ha⟩
  · rintro ⟨k, i, hk, ha⟩
    exact ⟨i, ⟨k, hk⟩, ha⟩

theorem lastIndex?_address {stream : Stream} {a : Int} {k : Nat}
    (h : stream.lastIndex? a = some k) : stream.addressAt? k = some a := by
  induction stream generalizing k with
  | nil => simp [lastIndex?] at h
  | cons i rest ih =>
    rw [lastIndex?] at h
    cases hrest : lastIndex? rest a with
    | some n =>
      simp only [hrest, Option.some.injEq] at h
      subst h
      simpa [addressAt?] using ih hrest
    | none =>
      simp only [hrest] at h
      by_cases ha : i.address = a
      · simp only [ha, ↓reduceIte, Option.some.injEq] at h
        subst h
        simp [addressAt?, ha]
      · simp [ha] at h

theorem lastIndex?_isSome_iff {stream : Stream} {a : Int} :
    (stream.lastIndex? a).isSome = true ↔ ∃ k, stream.addressAt? k = some a := by
  constructor
  · intro h
    obtain ⟨k, hk⟩ := Option.isSome_iff_exists.mp h
    exact ⟨k, lastIndex?_address hk⟩
  · rintro ⟨k, hk⟩
    induction stream generalizing k with
    | nil => simp [addressAt?] at hk
    | cons i rest ih =>
      rw [lastIndex?]
      cases hrest : lastIndex? rest a with
      | some n => simp
      | none =>
        cases k with
        | zero =>
          have ha : i.address = a := by simpa [addressAt?] using hk
          simp [ha]
        | succ k =>
          have hlater := ih k (by simpa [addressAt?] using hk)
          simp [hrest] at hlater

section Ascending

variable {stream : Stream} (hasc : stream.Ascending) {j k : Nat} {a b : Int}

include hasc

theorem Ascending.address_lt (hj : stream.addressAt? j = some a)
    (hk : stream.addressAt? k = some b) (hlt : j < k) : a < b := by
  obtain ⟨x, hx, rfl⟩ := addressAt?_eq_some_iff.mp hj
  obtain ⟨y, hy, rfl⟩ := addressAt?_eq_some_iff.mp hk
  obtain ⟨hjlen, rfl⟩ := List.getElem?_eq_some_iff.mp hx
  obtain ⟨hklen, rfl⟩ := List.getElem?_eq_some_iff.mp hy
  exact List.pairwise_iff_getElem.mp hasc j k hjlen hklen hlt

theorem Ascending.address_lt_iff (hj : stream.addressAt? j = some a)
    (hk : stream.addressAt? k = some b) : a < b ↔ j < k := by
  constructor
  · intro hab
    rcases Nat.lt_trichotomy j k with hlt | rfl | hgt
    · exact hlt
    · rw [hj] at hk
      cases hk
      omega
    · have := hasc.address_lt hk hj hgt
      omega
  · exact hasc.address_lt hj hk

theorem Ascending.index_unique (hj : stream.addressAt? j = some a)
    (hk : stream.addressAt? k = some a) : j = k := by
  have hjk := hasc.address_lt_iff hj hk
  have hkj := hasc.address_lt_iff hk hj
  omega

theorem Ascending.lastIndex?_eq (hk : stream.addressAt? k = some a) :
    stream.lastIndex? a = some k := by
  obtain ⟨n, hn⟩ := Option.isSome_iff_exists.mp (lastIndex?_isSome_iff.mpr ⟨k, hk⟩)
  rw [hn, hasc.index_unique (lastIndex?_address hn) hk]

end Ascending

end Stream

def plainInstruction (address : Int) (mnemonic : String) (target : Option Int) : Instruction where
  address := address
  bytes := #[0]
  mnemonic := mnemonic
  operands := ""
  kinds := if target.isSome then [.nearBranch64] else []
  registers := []
  immediate := none
  nearBranch := target
  ripTarget := none
  fileOffset := address
  length := 1

/-- A small routine with a loop, a jump over an instruction that is never reached, and a jump that
leaves the stream. -/
def loopStream : Stream :=
  [plainInstruction 16 "push" none, plainInstruction 17 "dec" none,
   plainInstruction 18 "jne" (some 17), plainInstruction 19 "je" (some 64),
   plainInstruction 20 "jmp" (some 22), plainInstruction 21 "nop" none,
   plainInstruction 22 "ret" none]

end CodeAtlas
