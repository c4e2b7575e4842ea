import CodeAtlas.Proofs.FlowGraph.WellFormed
import CodeAtlas.Routine
import Mathlib.Order.Bounds.Defs

/-!
# The size of a routine

Bytes are counted from the first instruction at an address. Counting stops with the first return,
or with the instruction that takes the count over the limit, or with the stream. Both conditions are
tested after an instruction has been counted, so that the count may pass the limit by what one
instruction takes. Where each instruction starts at the end of the one before it, the count is the
distance to the end of the last.

The flow graph of an address starts at its last instruction instead. The two differ wherever an
address comes again.
-/

set_option autoImplicit false

namespace CodeAtlas

namespace Stream

/-! ## Occurrences of an address -/

theorem firstIndex?_eq_some_iff {stream : Stream} {a : Int} {first : Nat} :
    stream.firstIndex? a = some first ↔ IsLeast {k | stream.addressAt? k = some a} first := by
  rw [firstIndex?, List.findIdx?_eq_some_iff_getElem]
  constructor
  · rintro ⟨hlt, hfirst, hbefore⟩
    refine ⟨?_, ?_⟩
    · exact addressAt?_eq_some_iff.mpr
        ⟨_, List.getElem?_eq_getElem hlt, of_decide_eq_true hfirst⟩
    · intro k hk
      obtain ⟨i, hi, ha⟩ := addressAt?_eq_some_iff.mp hk
      obtain ⟨_, rfl⟩ := List.getElem?_eq_some_iff.mp hi
      apply Nat.le_of_not_lt
      intro hearlier
      exact hbefore k hearlier (decide_eq_true ha)
  · rintro ⟨hfirst, hleast⟩
    obtain ⟨i, hi, ha⟩ := addressAt?_eq_some_iff.mp hfirst
    obtain ⟨hlt, rfl⟩ := List.getElem?_eq_some_iff.mp hi
    refine ⟨hlt, decide_eq_true ha, ?_⟩
    intro k hk hsame
    have hle := hleast (addressAt?_eq_some_iff.mpr
      ⟨_, List.getElem?_eq_getElem (Nat.lt_trans hk hlt), of_decide_eq_true hsame⟩)
    omega

theorem exists_isLeast_address {stream : Stream} {a : Int} (h : stream.hasAddress a = true) :
    ∃ first, IsLeast {k | stream.addressAt? k = some a} first := by
  have hsome : (stream.firstIndex? a).isSome = true := by
    rwa [firstIndex?, List.findIdx?_isSome]
  obtain ⟨first, hfirst⟩ := Option.isSome_iff_exists.mp hsome
  exact ⟨first, firstIndex?_eq_some_iff.mp hfirst⟩

theorem lastIndex?_isGreatest {stream : Stream} {a : Int} {last : Nat}
    (h : stream.lastIndex? a = some last) : IsGreatest {k | stream.addressAt? k = some a} last := by
  refine ⟨lastIndex?_address h, ?_⟩
  induction stream generalizing last with
  | nil => cases h
  | cons i rest ih =>
    intro k hk
    rw [lastIndex?] at h
    cases k with
    | zero => exact Nat.zero_le last
    | succ k =>
      have hrest : Stream.addressAt? rest k = some a := hk
      obtain ⟨m, hm⟩ := Option.isSome_iff_exists.mp (lastIndex?_isSome_iff.mpr ⟨k, hrest⟩)
      rw [hm] at h
      cases h
      exact Nat.succ_le_succ (ih hm hrest)

/-! ## Bytes between two indices -/

def byteCount (stream : Stream) (first stop : Nat) : Nat :=
  ((stream.take stop).drop first).foldl (fun n i => n + i.length) 0

theorem byteCount_self (stream : Stream) (first : Nat) : stream.byteCount first first = 0 := by
  rw [byteCount, List.drop_eq_nil_of_le (List.length_take_le _ _), List.foldl_nil]

theorem byteCount_succ {stream : Stream} {first k : Nat} {i : Instruction} (hk : first ≤ k)
    (hi : stream[k]? = some i) :
    stream.byteCount first (k + 1) = stream.byteCount first k + i.length := by
  have hlt := (List.getElem?_eq_some_iff.mp hi).1
  have htake : stream.take (k + 1) = stream.take k ++ [i] := by
    rw [List.take_add_one, hi, Option.toList_some]
  have hinside : first ≤ (stream.take k).length := by
    rw [List.length_take]
    omega
  rw [byteCount, htake, List.drop_append_of_le_length hinside, List.foldl_append]
  rfl

def Contiguous (stream : Stream) (first last : Nat) : Prop :=
  ∀ (k : Nat) (i next : Instruction), first ≤ k → k < last → stream[k]? = some i →
    stream[k + 1]? = some next → next.address = i.endAddress

theorem Contiguous.byteCount_eq {stream : Stream} {first last : Nat}
    (h : stream.Contiguous first last) {head : Instruction} (hhead : stream[first]? = some head)
    {k : Nat} (hk : first ≤ k) (hlast : k ≤ last) {i : Instruction} (hi : stream[k]? = some i) :
    (stream.byteCount first (k + 1) : Int) = i.endAddress - head.address := by
  induction k, hk using Nat.le_induction generalizing i with
  | base =>
    rw [hi] at hhead
    cases hhead
    rw [byteCount_succ (Nat.le_refl first) hi, byteCount_self, Instruction.endAddress]
    omega
  | succ k hk ih =>
    have hlt := (List.getElem?_eq_some_iff.mp hi).1
    have hprevious := List.getElem?_eq_getElem (Nat.lt_of_succ_lt hlt)
    have hcount := ih (by omega) hprevious
    have hnext := h k _ i hk (by omega) hprevious hi
    have hstep := byteCount_succ (show first ≤ k + 1 by omega) hi
    rw [hstep, Instruction.endAddress, hnext]
    omega

end Stream

namespace Routine

/-! ## The last instruction that is counted -/

/-- Counting from an index on stops at another: a return stands there, or the bytes up to its
instruction, which is included, pass the limit of 64 KiB. -/
def Stops (stream : Stream) (first k : Nat) : Prop :=
  ∃ i, stream[k]? = some i ∧ (i.isReturn = true ∨ 65536 < stream.byteCount first (k + 1))

/-- The first index at which counting stops, and the last of the stream if there is none. -/
structure LastCounted (stream : Stream) (first last : Nat) : Prop where
  ordered : first ≤ last
  inside : last < stream.length
  running : ∀ k, first ≤ k → k < last → ¬ Stops stream first k
  stops : Stops stream first last ∨ last + 1 = stream.length

theorem LastCounted.le {stream : Stream} {first last other : Nat}
    (h : LastCounted stream first last) (hother : LastCounted stream first other) :
    last ≤ other := by
  apply Nat.le_of_not_lt
  intro hlt
  have hrunning := h.running other hother.ordered hlt
  have hinside := h.inside
  rcases hother.stops with hstop | hend
  · exact hrunning hstop
  · omega

theorem sizeFrom_turn {stream : Stream} {first k : Nat} {i : Instruction} (rest : Stream)
    (hk : first ≤ k) (hi : stream[k]? = some i) :
    (Stops stream first k ∧
      sizeFrom (stream.byteCount first k) (i :: rest) = stream.byteCount first (k + 1)) ∨
    (¬ Stops stream first k ∧ sizeFrom (stream.byteCount first k) (i :: rest) =
      sizeFrom (stream.byteCount first (k + 1)) rest) := by
  have hstops : Stops stream first k ↔
      (i.isReturn || decide (sizeLimit < stream.byteCount first (k + 1))) = true := by
    rw [Bool.or_eq_true, decide_eq_true_eq, Stops, hi]
    constructor
    · rintro ⟨j, hj, h⟩
      cases hj
      exact h
    · intro h
      exact ⟨i, rfl, h⟩
  rw [sizeFrom, ← Stream.byteCount_succ hk hi, hstops]
  by_cases hstop : (i.isReturn || decide (sizeLimit < stream.byteCount first (k + 1))) = true
  · exact Or.inl ⟨hstop, if_pos hstop⟩
  · exact Or.inr ⟨hstop, if_neg hstop⟩

/-- Counting that has reached an index without a stop ends with the last instruction to count. -/
theorem sizeFrom_counts {stream : Stream} {first : Nat} (rest : Stream) :
    ∀ k, stream.drop k = rest → first ≤ k → k < stream.length →
      (∀ m, first ≤ m → m < k → ¬ Stops stream first m) →
      ∃ last, LastCounted stream first last ∧
        sizeFrom (stream.byteCount first k) rest = stream.byteCount first (last + 1) := by
  -- The induction is on what is left of the stream. At each index the count is the number of bytes
  -- before it, and nothing before it has stopped the counting.
  induction rest with
  | nil =>
    intro k hdrop _ hlt _
    have := List.drop_eq_nil_iff.mp hdrop
    omega
  | cons i rest ih =>
    intro k hdrop hk hlt hrunning
    have hi : stream[k]? = some i := by
      rw [← List.head?_drop, hdrop, List.head?_cons]
    have hnext : stream.drop (k + 1) = rest := by
      rw [← List.tail_drop, hdrop, List.tail_cons]
    rcases sizeFrom_turn rest hk hi with ⟨hstop, hsize⟩ | ⟨hon, hsize⟩
    · exact ⟨k, ⟨hk, hlt, hrunning, Or.inl hstop⟩, hsize⟩
    · rcases Nat.lt_or_ge (k + 1) stream.length with hmore | hend
      · rw [hsize]
        apply ih (k + 1) hnext (by omega) hmore
        intro m hm hmk
        rcases Nat.lt_succ_iff_lt_or_eq.mp hmk with hbefore | rfl
        · exact hrunning m hm hbefore
        · exact hon
      · have hempty : rest = [] := by
          rw [← hnext]
          exact List.drop_eq_nil_of_le hend
        refine ⟨k, ⟨hk, hlt, hrunning, Or.inr (by omega)⟩, ?_⟩
        rw [hsize, hempty, sizeFrom]

theorem LastCounted.byteCount_le {stream : Stream} {first last : Nat}
    (h : LastCounted stream first last) : stream.byteCount first last ≤ 65536 := by
  rcases Nat.eq_or_lt_of_le h.ordered with rfl | hlt
  · rw [Stream.byteCount_self]
    omega
  · obtain ⟨k, rfl⟩ : ∃ k, last = k + 1 := ⟨last - 1, by omega⟩
    have hinside := h.inside
    apply Nat.le_of_not_lt
    intro hover
    exact h.running k (by omega) (by omega)
      ⟨_, List.getElem?_eq_getElem (Nat.lt_of_succ_lt hinside), Or.inr hover⟩

theorem size_of_isLeast {stream : Stream} {a : Int} {first : Nat}
    (hfirst : IsLeast {k | stream.addressAt? k = some a} first) :
    size stream a = sizeFrom 0 (stream.drop first) := by
  rw [size, Stream.firstIndex?_eq_some_iff.mpr hfirst]

/-- The size of a routine is the number of bytes from the first instruction at its address to the
last that is counted. It passes the limit by that one instruction at most, and in contiguous code it
is the distance to the end of that instruction. -/
theorem size_lastCounted (stream : Stream) (a : Int) (first : Nat)
    (hfirst : IsLeast {k | stream.addressAt? k = some a} first) :
    (∃! last, LastCounted stream first last) ∧
      ∀ last i, LastCounted stream first last → stream[last]? = some i →
        size stream a = stream.byteCount first (last + 1) ∧
        size stream a ≤ 65536 + i.length ∧
        (stream.Contiguous first last → (size stream a : Int) = i.endAddress - a) := by
  obtain ⟨head, hhead, rfl⟩ := Stream.addressAt?_eq_some_iff.mp hfirst.1
  have hlt := (List.getElem?_eq_some_iff.mp hhead).1
  have hrunning : ∀ m, first ≤ m → m < first → ¬ Stops stream first m :=
    fun m hm hmk => absurd hmk (Nat.not_lt.mpr hm)
  obtain ⟨last, hlast, hsize⟩ := sizeFrom_counts _ first rfl (Nat.le_refl _) hlt hrunning
  rw [Stream.byteCount_self, ← size_of_isLeast hfirst] at hsize
  have hunique : ∀ other, LastCounted stream first other → other = last :=
    fun other hother => Nat.le_antisymm (hother.le hlast) (hlast.le hother)
  refine ⟨⟨last, hlast, hunique⟩, ?_⟩
  intro other i hother hi
  obtain rfl := hunique other hother
  have hstep := Stream.byteCount_succ hlast.ordered hi
  have hbefore := hlast.byteCount_le
  refine ⟨hsize, by omega, ?_⟩
  intro hcontiguous
  rw [hsize]
  exact hcontiguous.byteCount_eq hhead hlast.ordered (Nat.le_refl _) hi

theorem size_lastCounted_loop : IsLeast {k | loopStream.addressAt? k = some 17} 1 ∧
    (∃! last, LastCounted loopStream 1 last) ∧
      ∀ last i, LastCounted loopStream 1 last → loopStream[last]? = some i →
        size loopStream 17 = loopStream.byteCount 1 (last + 1) ∧
        size loopStream 17 ≤ 65536 + i.length ∧
        (loopStream.Contiguous 1 last → (size loopStream 17 : Int) = i.endAddress - 17) :=
  have hfirst := Stream.firstIndex?_eq_some_iff.mp rfl
  ⟨hfirst, size_lastCounted loopStream 17 1 hfirst⟩

/-! ## Where a size and a flow graph start -/

/-- The size of a routine is counted from the first instruction at its address, and its flow graph
starts at the last. They start together exactly if the address does not come again. -/
theorem size_build_start (stream : Stream) (a : Int) (h : stream.hasAddress a = true) :
    ∃ g b first last, FlowGraph.build stream a = .ok g ∧ g.block? a = some b ∧
      IsLeast {k | stream.addressAt? k = some a} first ∧
      IsGreatest {k | stream.addressAt? k = some a} last ∧
      size stream a = sizeFrom 0 (stream.drop first) ∧ b.startIndex = last ∧
      (b.startIndex = first ↔ ∀ j k, stream.addressAt? j = some a →
        stream.addressAt? k = some a → j = k) := by
  have hoccurs := Stream.hasAddress_iff.mp h
  obtain ⟨last, hlast⟩ := Option.isSome_iff_exists.mp (Stream.lastIndex?_isSome_iff.mpr hoccurs)
  obtain ⟨g, b, hbuild, hb, hstart⟩ := FlowGraph.build_startIndex hlast
  have hgreatest := Stream.lastIndex?_isGreatest hlast
  obtain ⟨first, hleast⟩ := Stream.exists_isLeast_address h
  refine ⟨g, b, first, last, hbuild, hb, hleast, hgreatest, size_of_isLeast hleast, hstart, ?_⟩
  rw [hstart]
  constructor
  · intro hsame j k hj hk
    have hjlow := hleast.2 hj
    have hjhigh := hgreatest.2 hj
    have hklow := hleast.2 hk
    have hkhigh := hgreatest.2 hk
    omega
  · intro honce
    rw [honce last first hgreatest.1 hleast.1]

/-- Code that is decoded twice where two sections overlap. -/
def overlappingStream : Stream :=
  [plainInstruction 16 "push" none, plainInstruction 17 "ret" none,
   plainInstruction 17 "ret" none, plainInstruction 18 "nop" none]

theorem size_build_start_overlapping : overlappingStream.hasAddress 17 = true ∧
    ∃ g b first last, FlowGraph.build overlappingStream 17 = .ok g ∧ g.block? 17 = some b ∧
      IsLeast {k | overlappingStream.addressAt? k = some 17} first ∧
      IsGreatest {k | overlappingStream.addressAt? k = some 17} last ∧
      size overlappingStream 17 = sizeFrom 0 (overlappingStream.drop first) ∧
      b.startIndex = last ∧
      (b.startIndex = first ↔ ∀ j k, overlappingStream.addressAt? j = some 17 →
        overlappingStream.addressAt? k = some 17 → j = k) :=
  ⟨by decide, size_build_start overlappingStream 17 (by decide)⟩

theorem overlapping_starts_differ :
    IsLeast {k | overlappingStream.addressAt? k = some 17} 1 ∧
    size overlappingStream 17 = sizeFrom 0 (overlappingStream.drop 1) ∧
    ∃ g b, FlowGraph.build overlappingStream 17 = .ok g ∧ g.block? 17 = some b ∧
      b.startIndex = 2 := by
  have hfirst : IsLeast {k | overlappingStream.addressAt? k = some 17} 1 :=
    Stream.firstIndex?_eq_some_iff.mp rfl
  exact ⟨hfirst, size_of_isLeast hfirst, FlowGraph.build_startIndex rfl⟩

end Routine

end CodeAtlas
