import CodeAtlas.FlowGraph.Build
import CodeAtlas.Proofs.ControlFlow
import CodeAtlas.Proofs.Sequence
import Mathlib.Data.List.Chain

/-!
# Keys and spans

The keys of a flow graph are told by `Leads`. In a stream with ascending addresses the span of a
key runs up to the next key or to a jump or return, whichever comes first. What follows a jump or
return is a key as well. A span therefore holds one key, ends where the next span starts, and
control passes through it from its first instruction to its last.
-/

set_option autoImplicit false

namespace CodeAtlas.FlowGraph

/-- The addresses at which a block starts: the entry, what follows a jump or return, and what a
jump leads to. -/
inductive Leads (stream : Stream) (entry : Int) : Int → Prop where
  | entry : Leads stream entry entry
  | afterTerminator {k : Nat} {i : Instruction} {a : Int} : stream[k]? = some i →
      i.isTerminator = true → stream.addressAt? (k + 1) = some a → Leads stream entry a
  | jumpTarget {k target : Nat} {i : Instruction} {a : Int} : stream[k]? = some i →
      i.isJump = true → i.branchTarget? = some a → stream.addressAt? target = some a →
      Leads stream entry a

/-! ## Keys -/

theorem mem_cuts_iff {stream : Stream} {a : Int} :
    a ∈ cuts stream ↔ ∃ k i, stream[k]? = some i ∧
      ((i.isTerminator = true ∧ stream.addressAt? (k + 1) = some a) ∨
        (i.isJump = true ∧ i.branchTarget? = some a)) := by
  induction stream with
  | nil => simp [cuts]
  | cons i rest ih =>
    have hhead : a ∈ cuts (i :: rest) ↔
        ((i.isTerminator = true ∧ Stream.addressAt? (i :: rest) 1 = some a) ∨
          (i.isJump = true ∧ i.branchTarget? = some a)) ∨ a ∈ cuts rest := by
      rw [cuts]
      cases i.isTerminator <;> cases i.isJump <;>
        simp [Stream.addressAt?, List.head?_eq_getElem?, or_assoc]
    rw [hhead, ih]
    constructor
    · rintro (h | ⟨k, j, hj, h⟩)
      · exact ⟨0, i, rfl, h⟩
      · exact ⟨k + 1, j, hj, h⟩
    · rintro ⟨k, j, hj, h⟩
      cases k with
      | zero =>
        cases hj
        exact Or.inl h
      | succ k => exact Or.inr ⟨k, j, hj, h⟩

theorem mem_starts_iff {stream : Stream} {entry a : Int} :
    a ∈ starts stream entry ↔
      (a = entry ∨ a ∈ cuts stream) ∧ ∃ k, stream.addressAt? k = some a := by
  rw [starts, List.mem_filter, boundaries, mem_ascending, List.mem_cons,
    Stream.lastIndex?_isSome_iff]

theorem mem_starts_iff_leads {stream : Stream} {entry a : Int}
    (hentry : stream.hasAddress entry = true) :
    a ∈ starts stream entry ↔ Leads stream entry a := by
  rw [mem_starts_iff, mem_cuts_iff]
  constructor
  · rintro ⟨rfl | ⟨k, i, hi, ⟨hterm, hnext⟩ | ⟨hjump, htarget⟩⟩, target, haddr⟩
    · exact Leads.entry
    · exact Leads.afterTerminator hi hterm hnext
    · exact Leads.jumpTarget hi hjump htarget haddr
  · rintro (_ | ⟨hi, hterm, hnext⟩ | ⟨hi, hjump, htarget, haddr⟩)
    · exact ⟨Or.inl rfl, Stream.hasAddress_iff.mp hentry⟩
    · exact ⟨Or.inr ⟨_, _, hi, Or.inl ⟨hterm, hnext⟩⟩, _, hnext⟩
    · exact ⟨Or.inr ⟨_, _, hi, Or.inr ⟨hjump, htarget⟩⟩, _, haddr⟩

theorem starts_pairwise (stream : Stream) (entry : Int) :
    (starts stream entry).Pairwise (· < ·) :=
  (ascending_pairwise _).filter _

theorem starts_after_terminator {stream : Stream} {entry a : Int} {k : Nat} {i : Instruction}
    (hi : stream[k]? = some i) (hterm : i.isTerminator = true)
    (hnext : stream.addressAt? (k + 1) = some a) : a ∈ starts stream entry :=
  mem_starts_iff.mpr
    ⟨Or.inr (mem_cuts_iff.mpr ⟨k, i, hi, Or.inl ⟨hterm, hnext⟩⟩), k + 1, hnext⟩

theorem starts_jump_target {stream : Stream} {entry a : Int} {k target : Nat} {i : Instruction}
    (hi : stream[k]? = some i) (hjump : i.isJump = true) (htarget : i.branchTarget? = some a)
    (haddr : stream.addressAt? target = some a) : a ∈ starts stream entry :=
  mem_starts_iff.mpr
    ⟨Or.inr (mem_cuts_iff.mpr ⟨k, i, hi, Or.inr ⟨hjump, htarget⟩⟩), target, haddr⟩

theorem next_key_le {keys rest : List Int} {a b : Int} (hkeys : keys.Pairwise (· < ·))
    (hsuffix : (a :: rest) <:+ keys) (hb : b ∈ keys) (hab : a < b) :
    ∃ c, rest.head? = some c ∧ c ≤ b := by
  obtain ⟨before, rfl⟩ := hsuffix
  obtain ⟨_, hfrom, hcross⟩ := List.pairwise_append.mp hkeys
  have hmem : b ∈ rest := by
    rcases List.mem_append.mp hb with hbefore | hafter
    · have := hcross b hbefore a (by simp)
      omega
    · rcases List.mem_cons.mp hafter with rfl | h
      · omega
      · exact h
  cases rest with
  | nil => simp at hmem
  | cons c others =>
    refine ⟨c, rfl, ?_⟩
    rcases List.mem_cons.mp hmem with rfl | h
    · exact Int.le_refl b
    · exact Int.le_of_lt ((List.pairwise_cons.mp (List.pairwise_cons.mp hfrom).2).1 b h)

theorem lt_next_key {keys rest : List Int} {a c : Int} (hkeys : keys.Pairwise (· < ·))
    (hsuffix : (a :: rest) <:+ keys) (hc : rest.head? = some c) : a < c ∧ c ∈ keys := by
  have hmem : c ∈ rest := List.mem_of_head? hc
  have hfrom := List.Pairwise.sublist hsuffix.sublist hkeys
  exact ⟨(List.pairwise_cons.mp hfrom).1 c hmem, hsuffix.subset (List.mem_cons_of_mem a hmem)⟩

theorem reaches_next_key {keys rest : List Int} {a : Int} (hkeys : keys.Pairwise (· < ·))
    (hsuffix : (a :: rest) <:+ keys) : reaches rest.head? a = false := by
  cases hnext : rest.head? with
  | none => rfl
  | some c =>
    have hlt := (lt_next_key hkeys hsuffix hnext).1
    simp only [reaches, decide_eq_false_iff_not]
    omega

/-! ## The extent of a block -/

theorem extent_le_length (limit : Option Int) (s : Stream) : extent limit s ≤ s.length := by
  induction s with
  | nil => simp [extent]
  | cons i rest ih =>
    rw [extent]
    split
    · omega
    · split
      · simp
      · simpa using ih

theorem extent_unreached {limit : Option Int} {s : Stream} {k : Nat} {i : Instruction}
    (hk : k < extent limit s) (hi : s[k]? = some i) : reaches limit i.address = false := by
  induction s generalizing k with
  | nil => simp at hi
  | cons j rest ih =>
    rw [extent] at hk
    cases hreach : reaches limit j.address with
    | true => simp [hreach] at hk
    | false =>
      cases k with
      | zero =>
        cases hi
        exact hreach
      | succ k =>
        cases hterm : j.isTerminator with
        | true => simp [hreach, hterm] at hk
        | false =>
          simp only [hreach, hterm, Bool.false_eq_true, ↓reduceIte] at hk
          exact ih (by omega) hi

theorem extent_unended {limit : Option Int} {s : Stream} {k : Nat} {i : Instruction}
    (hk : k + 1 < extent limit s) (hi : s[k]? = some i) : i.isTerminator = false := by
  induction s generalizing k with
  | nil => simp at hi
  | cons j rest ih =>
    rw [extent] at hk
    cases hreach : reaches limit j.address with
    | true => simp [hreach] at hk
    | false =>
      cases hterm : j.isTerminator with
      | true => simp [hreach, hterm] at hk
      | false =>
        simp only [hreach, hterm, Bool.false_eq_true, ↓reduceIte] at hk
        cases k with
        | zero =>
          cases hi
          exact hterm
        | succ k => exact ih (by omega) hi

theorem extent_pos {limit : Option Int} {s : Stream} {i : Instruction} (hi : s[0]? = some i)
    (hreach : reaches limit i.address = false) : 0 < extent limit s := by
  cases s with
  | nil => simp at hi
  | cons j rest =>
    cases hi
    rw [extent]
    split
    · simp_all
    · split <;> omega

theorem extent_stop {limit : Option Int} {s : Stream} {i : Instruction}
    (hi : s[extent limit s]? = some i) : reaches limit i.address = true ∨
      ∃ k j, k + 1 = extent limit s ∧ s[k]? = some j ∧ j.isTerminator = true := by
  induction s with
  | nil => simp at hi
  | cons j rest ih =>
    cases hreach : reaches limit j.address with
    | true =>
      simp only [extent, hreach, ↓reduceIte, List.getElem?_cons_zero, Option.some.injEq] at hi
      exact Or.inl (hi ▸ hreach)
    | false =>
      cases hterm : j.isTerminator with
      | true => exact Or.inr ⟨0, j, by simp [extent, hreach, hterm], rfl, hterm⟩
      | false =>
        have hext : extent limit (j :: rest) = extent limit rest + 1 := by
          simp [extent, hreach, hterm]
        rw [hext, List.getElem?_cons_succ] at hi
        rcases ih hi with hr | ⟨k, t, hk, ht, hend⟩
        · exact Or.inl hr
        · exact Or.inr ⟨k + 1, t, by omega, ht, hend⟩

/-! ## Spans -/

theorem spans_keys (stream : Stream) (keys : List Int) :
    (spans stream keys).map Prod.fst = keys := by
  induction keys with
  | nil => rfl
  | cons a rest ih => rw [spans, List.map_cons, ih]

section SpanFrom

variable {stream : Stream} {limit : Option Int} {first : Nat} {head : Instruction}
  (hhead : stream[first]? = some head) (hopen : reaches limit head.address = false)

include hhead hopen

theorem spanFrom_extent : ∃ e, extent limit (stream.drop first) = e + 1 ∧
    spanFrom stream limit first = ⟨first, first + e⟩ := by
  have hpos : 0 < extent limit (stream.drop first) :=
    extent_pos (by rw [List.getElem?_drop]; exact hhead) hopen
  refine ⟨extent limit (stream.drop first) - 1, by omega, rfl⟩

theorem spanFrom_last_lt : (spanFrom stream limit first).last < stream.length := by
  obtain ⟨e, hext, hspan⟩ := spanFrom_extent hhead hopen
  have hle := extent_le_length limit (stream.drop first)
  rw [List.length_drop, hext] at hle
  rw [hspan]
  change first + e < stream.length
  omega

theorem spanFrom_flows {k : Nat} {i : Instruction} (hk : first ≤ k)
    (hlast : k < (spanFrom stream limit first).last) (hi : stream[k]? = some i) :
    i.isTerminator = false := by
  obtain ⟨e, hext, hspan⟩ := spanFrom_extent hhead hopen
  rw [hspan] at hlast
  change k < first + e at hlast
  obtain ⟨m, rfl⟩ := Nat.exists_eq_add_of_le hk
  rw [← List.getElem?_drop] at hi
  exact extent_unended (by rw [hext]; omega) hi

theorem spanFrom_unreached {k : Nat} {a : Int} (hk : first ≤ k)
    (hlast : k ≤ (spanFrom stream limit first).last) (ha : stream.addressAt? k = some a) :
    reaches limit a = false := by
  obtain ⟨e, hext, hspan⟩ := spanFrom_extent hhead hopen
  rw [hspan] at hlast
  change k ≤ first + e at hlast
  obtain ⟨m, rfl⟩ := Nat.exists_eq_add_of_le hk
  obtain ⟨i, hi, rfl⟩ := Stream.addressAt?_eq_some_iff.mp ha
  rw [← List.getElem?_drop] at hi
  exact extent_unreached (by rw [hext]; omega) hi

theorem spanFrom_stop {a : Int}
    (ha : stream.addressAt? ((spanFrom stream limit first).last + 1) = some a) :
    reaches limit a = true ∨
      ∃ i, stream[(spanFrom stream limit first).last]? = some i ∧ i.isTerminator = true := by
  obtain ⟨e, hext, hspan⟩ := spanFrom_extent hhead hopen
  rw [hspan] at ha ⊢
  obtain ⟨i, hi, rfl⟩ := Stream.addressAt?_eq_some_iff.mp ha
  change stream[first + (e + 1)]? = some i at hi
  rw [← List.getElem?_drop, ← hext] at hi
  rcases extent_stop hi with hreach | ⟨k, j, hk, hj, hterm⟩
  · exact Or.inl hreach
  · have hke : k = e := by omega
    rw [hke, List.getElem?_drop] at hj
    exact Or.inr ⟨j, hj, hterm⟩

end SpanFrom

/-- A span that holds no key after its first instruction and is left only after its last, behind
which the next key or the end of the stream stands. -/
structure Span.Whole (stream : Stream) (keys : List Int) (span : Span) : Prop where
  ordered : span.first ≤ span.last
  inside : span.last < stream.length
  flows : ∀ k i, span.first ≤ k → k < span.last → stream[k]? = some i → i.isTerminator = false
  uncut : ∀ k a, span.first < k → k ≤ span.last → stream.addressAt? k = some a → a ∉ keys
  closes : span.last + 1 < stream.length → ∃ a ∈ keys, stream.addressAt? (span.last + 1) = some a

section Ascending

variable {stream : Stream} (hasc : stream.Ascending) {entry : Int}

include hasc

theorem spanFrom_whole {a : Int} {rest : List Int} {first : Nat}
    (hsuffix : (a :: rest) <:+ starts stream entry) (hfirst : stream.addressAt? first = some a) :
    (spanFrom stream rest.head? first).Whole stream (starts stream entry) := by
  have hkeys := starts_pairwise stream entry
  obtain ⟨head, hhead, rfl⟩ := Stream.addressAt?_eq_some_iff.mp hfirst
  have hopen := reaches_next_key hkeys hsuffix
  constructor
  · exact Nat.le_add_right _ _
  · exact spanFrom_last_lt hhead hopen
  · intro k i hk hlast hi
    exact spanFrom_flows hhead hopen hk hlast hi
  · intro k b hk hlast hb hmem
    obtain ⟨c, hc, hcb⟩ := next_key_le hkeys hsuffix hmem (hasc.address_lt hfirst hb hk)
    have hunreached := spanFrom_unreached hhead hopen (Nat.le_of_lt hk) hlast hb
    simp only [hc, reaches, decide_eq_false_iff_not] at hunreached
    omega
  · intro hlt
    obtain ⟨b, hb⟩ := Stream.exists_addressAt? hlt
    refine ⟨b, ?_, hb⟩
    rcases spanFrom_stop hhead hopen hb with hreach | ⟨i, hi, hterm⟩
    · cases hnext : rest.head? with
      | none => simp [hnext, reaches] at hreach
      | some c =>
        simp only [hnext, reaches, decide_eq_true_eq] at hreach
        obtain ⟨hac, hcmem⟩ := lt_next_key hkeys hsuffix hnext
        obtain ⟨_, m, hm⟩ := mem_starts_iff.mp hcmem
        have hfm := (hasc.address_lt_iff hfirst hm).mp hac
        -- The next key is not inside the span, and nothing lies between the span and it.
        have hafter : (spanFrom stream rest.head? first).last < m := by
          apply Nat.lt_of_not_le
          intro hle
          have hunreached := spanFrom_unreached hhead hopen (Nat.le_of_lt hfm) hle hm
          simp [hnext, reaches] at hunreached
        have hcb := hasc.address_lt_iff hm hb
        have heq : b = c := by omega
        exact heq ▸ hcmem
    · exact starts_after_terminator hi hterm hb

theorem Span.Whole.last_lt {keys : List Int} {span : Span} (hwhole : span.Whole stream keys)
    {a c : Int} {m : Nat} (hfirst : stream.addressAt? span.first = some a) (hc : c ∈ keys)
    (hm : stream.addressAt? m = some c) (hac : a < c) : span.last < m := by
  have hfm := (hasc.address_lt_iff hfirst hm).mp hac
  apply Nat.lt_of_not_le
  intro hle
  exact hwhole.uncut m c hfm hle hm hc

/-- What stands behind a span is the next key, if there is one. -/
theorem Span.Whole.next {span : Span} (hwhole : span.Whole stream (starts stream entry)) {a : Int}
    {rest : List Int} (hsuffix : (a :: rest) <:+ starts stream entry)
    (hfirst : stream.addressAt? span.first = some a) :
    stream.addressAt? (span.last + 1) = rest.head? := by
  have hkeys := starts_pairwise stream entry
  have hordered := hwhole.ordered
  cases hnext : stream.addressAt? (span.last + 1) with
  | none =>
    cases hrest : rest.head? with
    | none => rfl
    | some c =>
      obtain ⟨hac, hc⟩ := lt_next_key hkeys hsuffix hrest
      obtain ⟨_, m, hm⟩ := mem_starts_iff.mp hc
      have hafter := hwhole.last_lt hasc hfirst hc hm hac
      have hlt := Stream.addressAt?_lt hm
      have hinside : span.last + 1 < stream.length := by omega
      obtain ⟨b, hb⟩ := Stream.exists_addressAt? hinside
      rw [hnext] at hb
      cases hb
  | some b =>
    obtain ⟨b', hmem, hb'⟩ := hwhole.closes (Stream.addressAt?_lt hnext)
    have hbb : b = b' := by
      rw [hnext] at hb'
      exact Option.some.inj hb'
    rw [← hbb] at hmem
    have hab := hasc.address_lt hfirst hnext (by omega)
    obtain ⟨c, hrest, hcb⟩ := next_key_le hkeys hsuffix hmem hab
    obtain ⟨hac, hc⟩ := lt_next_key hkeys hsuffix hrest
    obtain ⟨_, m, hm⟩ := mem_starts_iff.mp hc
    have hafter := hwhole.last_lt hasc hfirst hc hm hac
    have hbc := hasc.address_lt_iff hnext hm
    have hcb' := hasc.address_lt_iff hm hnext
    rw [hrest]
    congr 1
    omega

theorem spans_cons {a : Int} (rest : List Int) {first : Nat}
    (hfirst : stream.addressAt? first = some a) :
    spans stream (a :: rest) = (a, spanFrom stream rest.head? first) :: spans stream rest := by
  rw [spans, hasc.lastIndex?_eq hfirst, Option.getD_some]

theorem spans_whole {keys : List Int} (hsuffix : keys <:+ starts stream entry) :
    ∀ e ∈ spans stream keys, stream.addressAt? e.2.first = some e.1 ∧
      e.2.Whole stream (starts stream entry) := by
  induction keys with
  | nil => simp [spans]
  | cons a rest ih =>
    obtain ⟨_, first, hfirst⟩ := mem_starts_iff.mp (hsuffix.subset (List.mem_cons_self ..))
    rw [spans_cons hasc rest hfirst]
    intro e he
    rcases List.mem_cons.mp he with rfl | hmem
    · exact ⟨hfirst, spanFrom_whole hasc hsuffix hfirst⟩
    · exact ih ((List.suffix_cons a rest).trans hsuffix) e hmem

theorem spans_isChain {keys : List Int} (hsuffix : keys <:+ starts stream entry) :
    (spans stream keys).IsChain fun x y => y.2.first = x.2.last + 1 := by
  induction keys with
  | nil => exact List.IsChain.nil
  | cons a rest ih =>
    have hrest := (List.suffix_cons a rest).trans hsuffix
    obtain ⟨_, first, hfirst⟩ := mem_starts_iff.mp (hsuffix.subset (List.mem_cons_self ..))
    rw [spans_cons hasc rest hfirst]
    have hnext := (spanFrom_whole hasc hsuffix hfirst).next hasc hsuffix hfirst
    cases rest with
    | nil => exact List.IsChain.singleton _
    | cons c others =>
      rw [spans_cons hasc others hnext] at ih ⊢
      exact List.IsChain.cons_cons rfl (ih hrest)

theorem spans_cover {a : Int} {rest : List Int} (hsuffix : (a :: rest) <:+ starts stream entry)
    {first k : Nat} (hfirst : stream.addressAt? first = some a) (hk : first ≤ k)
    (hlt : k < stream.length) :
    ∃ e ∈ spans stream (a :: rest), e.2.first ≤ k ∧ k ≤ e.2.last := by
  induction rest generalizing a first with
  | nil =>
    rw [spans_cons hasc [] hfirst]
    have hnext := (spanFrom_whole hasc hsuffix hfirst).next hasc hsuffix hfirst
    have hend := List.getElem?_eq_none_iff.mp (Option.map_eq_none_iff.mp hnext)
    exact ⟨_, List.mem_cons_self .., hk, Nat.le_of_lt_succ (Nat.lt_of_lt_of_le hlt hend)⟩
  | cons c others ih =>
    rw [spans_cons hasc (c :: others) hfirst]
    have hnext := (spanFrom_whole hasc hsuffix hfirst).next hasc hsuffix hfirst
    by_cases hin : k ≤ (spanFrom stream (c :: others).head? first).last
    · exact ⟨_, List.mem_cons_self .., hk, hin⟩
    · obtain ⟨e, he, hbounds⟩ := ih ((List.suffix_cons a _).trans hsuffix) hnext (by omega)
      exact ⟨e, List.mem_cons_of_mem _ he, hbounds⟩

end Ascending

end CodeAtlas.FlowGraph
