import CodeAtlas.Listing
import CodeAtlas.Proofs.Sequence
import Mathlib.Data.List.Induction

/-!
# Operands read in order

The operands of an entry are read from the first to the last. What an operand adds depends on the
entry and on its index, not on the operands before it, so that each part of a reading can be told
from all operands at once: the kinds and the registers in order, the number by the first operand
that holds one, the targets by the last that gives one.
-/

set_option autoImplicit false

namespace CodeAtlas.Listing

def Operand.name? : Operand → Option String
  | .register name => name
  | _ => none

namespace Entry

/-! ## What one operand adds -/

def kindOf? (entry : Entry) (bitness : Bitness) : Operand × Nat → Option OperandKind
  | (.register _, _) => some .register
  | (.immediate _ size, index) =>
    if entry.mnemonic ∈ farBranches then some .farBranch
    else if entry.isBranch ∧ index = 0 then
      match bitness with
      | .bits32 => some .nearBranch32
      | .bits64 => some .nearBranch64
    else some (immediateKind entry.mnemonic size)
  | (.memory _ _, _) => some .memory
  | (.other, _) => none

def numberOf? (entry : Entry) : Operand × Nat → Option Int
  | (.immediate value size, index) =>
    if entry.mnemonic ∈ farBranches ∨ entry.isBranch ∧ index = 0 then none
    else some (value % wordSpace (if size = 0 then 8 else size))
  | _ => none

def nearOf? (entry : Entry) (bitness : Bitness) : Operand × Nat → Option Int
  | (.immediate value _, index) =>
    if entry.mnemonic ∉ farBranches ∧ entry.isBranch ∧ index = 0 then
      some (value % wordSpace bitness.bytes)
    else none
  | _ => none

def relativeOf? (entry : Entry) (address : Int) : Operand × Nat → Option Int
  | (.memory base displacement, _) =>
    if base = some "rip" then some ((address + entry.size + displacement) % addressSpace) else none
  | _ => none

end Entry

namespace Reading

variable (entry : Entry) (bitness : Bitness) (address : Int)

/-- Reading one more operand: a number that is known stays, a target is replaced. -/
theorem add_eq (r : Reading) (index : Nat) (o : Operand) :
    r.add entry bitness address index o =
      { kinds := r.kinds ++ (entry.kindOf? bitness (o, index)).toList
        registers := r.registers ++ [o.name?]
        immediate := r.immediate.or (entry.numberOf? (o, index))
        nearBranch := (entry.nearOf? bitness (o, index)).or r.nearBranch
        ripTarget := (entry.relativeOf? address (o, index)).or r.ripTarget } := by
  unfold add Entry.kindOf? Operand.name? Entry.numberOf? Entry.nearOf? Entry.relativeOf?
  cases o with
  | register name => simp
  | immediate value size =>
    by_cases hfar : entry.mnemonic ∈ farBranches
    · simp [hfar]
    · by_cases hnear : entry.isBranch = true ∧ index = 0
      · cases bitness with
        | bits32 => simp [hfar, hnear, Bitness.bytes]
        | bits64 => simp [hfar, hnear, Bitness.bytes]
      · simp [hfar, hnear]
  | memory base displacement =>
    by_cases hbase : base = some "rip"
    · simp [hbase]
    · simp [hbase]
  | other => simp

theorem foldl_add (places : List (Operand × Nat)) :
    places.foldl (fun r o => r.add entry bitness address o.2 o.1) empty =
      { kinds := places.filterMap (entry.kindOf? bitness)
        registers := places.map fun o => o.1.name?
        immediate := places.findSome? entry.numberOf?
        nearBranch := places.reverse.findSome? (entry.nearOf? bitness)
        ripTarget := places.reverse.findSome? (entry.relativeOf? address) } := by
  induction places using List.reverseRecOn with
  | nil => rfl
  | append_singleton places o ih =>
    have hkind : [o].filterMap (entry.kindOf? bitness) = (entry.kindOf? bitness o).toList := by
      cases h : entry.kindOf? bitness o with
      | none => rw [List.filterMap_cons_none h]; rfl
      | some kind => rw [List.filterMap_cons_some h]; rfl
    rw [List.foldl_append, ih, List.foldl_cons, List.foldl_nil, add_eq]
    simp only [List.filterMap_append, hkind, List.map_append, List.map_cons, List.map_nil,
      List.reverse_append, List.reverse_singleton, List.findSome?_append, List.findSome?_singleton]

theorem ofEntry_eq : ofEntry entry bitness address =
    { kinds := entry.operands.zipIdx.filterMap (entry.kindOf? bitness)
      registers := entry.operands.map Operand.name?
      immediate := entry.operands.zipIdx.findSome? entry.numberOf?
      nearBranch := entry.operands.zipIdx.reverse.findSome? (entry.nearOf? bitness)
      ripTarget := entry.operands.zipIdx.reverse.findSome? (entry.relativeOf? address) } := by
  have hnames : entry.operands.zipIdx.map (fun o => o.1.name?) =
      entry.operands.map Operand.name? := by
    conv => rhs; rw [← List.zipIdx_map_fst 0 entry.operands, List.map_map]
    rfl
  rw [ofEntry, foldl_add, hnames]

end Reading

/-! ## The first and the last operand that count -/

theorem findSome?_eq_some_iff_of_pairwise {α β : Type} {before : α → α → Prop}
    (hasymm : ∀ x y, before x y → ¬ before y x) {l : List α} (hl : l.Pairwise before)
    {f : α → Option β} {b : β} :
    l.findSome? f = some b ↔
      ∃ x ∈ l, f x = some b ∧ ∀ y ∈ l, ∀ c, f y = some c → ¬ before y x := by
  constructor
  · intro h
    obtain ⟨front, x, rest, rfl, hx, hfront⟩ := List.findSome?_eq_some_iff.mp h
    obtain ⟨-, hrest, -⟩ := List.pairwise_append.mp hl
    refine ⟨x, List.mem_append_right _ List.mem_cons_self, hx, ?_⟩
    intro y hy c hc hbefore
    rcases List.mem_append.mp hy with hy | hy
    · rw [hfront y hy] at hc
      cases hc
    · rcases List.mem_cons.mp hy with rfl | hy
      · exact hasymm y y hbefore hbefore
      · exact hasymm x y ((List.pairwise_cons.mp hrest).1 y hy) hbefore
  · rintro ⟨x, hx, hvalue, hfirst⟩
    obtain ⟨front, rest, rfl⟩ := List.append_of_mem hx
    obtain ⟨-, -, hbefore⟩ := List.pairwise_append.mp hl
    refine List.findSome?_eq_some_iff.mpr ⟨front, x, rest, rfl, hvalue, ?_⟩
    intro y hy
    apply Option.eq_none_iff_forall_ne_some.mpr
    intro c hc
    exact hfirst y (List.mem_append_left _ hy) c hc (hbefore y hy x List.mem_cons_self)

section Places

variable {α β : Type} {l : List α} {f : α × Nat → Option β} {b : β}

theorem findSome?_zipIdx_eq_some_iff : l.zipIdx.findSome? f = some b ↔
    ∃ a k, l[k]? = some a ∧ f (a, k) = some b ∧
      ∀ a' j, l[j]? = some a' → ∀ c, f (a', j) = some c → k ≤ j := by
  rw [findSome?_eq_some_iff_of_pairwise (fun _ _ => Nat.lt_asymm) (zipIdx_pairwise l)]
  simp only [Prod.exists, Prod.forall, List.mk_mem_zipIdx_iff_getElem?, Nat.not_lt]

theorem findSome?_reverse_zipIdx_eq_some_iff : l.zipIdx.reverse.findSome? f = some b ↔
    ∃ a k, l[k]? = some a ∧ f (a, k) = some b ∧
      ∀ a' j, l[j]? = some a' → ∀ c, f (a', j) = some c → j ≤ k := by
  have hreverse : l.zipIdx.reverse.Pairwise fun x y => y.2 < x.2 :=
    List.pairwise_reverse.mpr (zipIdx_pairwise l)
  rw [findSome?_eq_some_iff_of_pairwise (fun _ _ => Nat.lt_asymm) hreverse]
  simp only [Prod.exists, Prod.forall, List.mem_reverse, List.mk_mem_zipIdx_iff_getElem?,
    Nat.not_lt]

end Places

end CodeAtlas.Listing
