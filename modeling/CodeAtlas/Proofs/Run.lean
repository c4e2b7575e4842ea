import CodeAtlas.Sequence
import Mathlib.Data.List.Forall2
import Mathlib.Data.List.TakeWhile

set_option autoImplicit false

namespace CodeAtlas

/-! ## Stretches of positions -/

def Stretch (P : Nat → Prop) (start stop : Nat) : Prop :=
  start < stop ∧ ∀ i, start ≤ i → i < stop → P i

def MaximalStretch (P : Nat → Prop) (start stop : Nat) : Prop :=
  Stretch P start stop ∧ ∀ first last, first ≤ start → stop ≤ last → Stretch P first last →
    first = start ∧ last = stop

section Stretch

variable {P : Nat → Prop} {start stop : Nat}

theorem Stretch.cons {i : Nat} (hi : P i) (h : Stretch P (i + 1) stop) : Stretch P i stop := by
  refine ⟨by have := h.1; omega, ?_⟩
  intro j hij hj
  by_cases heq : j = i
  · rw [heq]
    exact hi
  · exact h.2 j (by omega) hj

theorem Stretch.concat (h : Stretch P start stop) (hstop : P stop) :
    Stretch P start (stop + 1) := by
  refine ⟨by have := h.1; omega, ?_⟩
  intro j hstart hj
  by_cases heq : j = stop
  · rw [heq]
    exact hstop
  · exact h.2 j hstart (by omega)

/-- A stretch is maximal when it cannot be extended by one position on either side. -/
theorem maximalStretch_iff : MaximalStretch P start stop ↔
    Stretch P start stop ∧ (∀ i, i + 1 = start → ¬ P i) ∧ ¬ P stop := by
  constructor
  · rintro ⟨hstretch, hlargest⟩
    refine ⟨hstretch, ?_, ?_⟩
    · rintro i rfl hi
      have := (hlargest i stop (by omega) (Nat.le_refl stop) (hstretch.cons hi)).1
      omega
    · intro hstop
      have := (hlargest start (stop + 1) (Nat.le_refl start) (by omega) (hstretch.concat hstop)).2
      omega
  · rintro ⟨hstretch, hleft, hright⟩
    refine ⟨hstretch, ?_⟩
    intro first last hfirst hlast hlonger
    have hlt := hstretch.1
    constructor
    · by_contra hne
      exact hleft (start - 1) (by omega) (hlonger.2 (start - 1) (by omega) (by omega))
    · by_contra hne
      exact hright (hlonger.2 stop (by omega) (by omega))

theorem MaximalStretch.stop_eq {last : Nat} (h : MaximalStretch P start stop)
    (h' : MaximalStretch P start last) : stop = last := by
  rcases Nat.le_total stop last with hle | hle
  · exact (h.2 start last (Nat.le_refl start) hle h'.1).2.symm
  · exact (h'.2 start stop (Nat.le_refl start) hle h.1).2

theorem MaximalStretch.apart {first last : Nat} (h : MaximalStretch P start stop)
    (h' : MaximalStretch P first last) (hlt : start < first) : stop < first := by
  obtain ⟨⟨_, hinside⟩, _, hright⟩ := maximalStretch_iff.mp h
  obtain ⟨⟨hfirst, hlater⟩, hleft, _⟩ := maximalStretch_iff.mp h'
  rcases Nat.lt_trichotomy stop first with hgap | rfl | hinner
  · exact hgap
  · exact absurd (hlater stop (Nat.le_refl stop) hfirst) hright
  · exact absurd (hinside (first - 1) (by omega) (by omega)) (hleft (first - 1) (by omega))

end Stretch

/-! ## The runs of a list -/

variable {α : Type}

def InClass (p : α → Bool) (xs : List α) (i : Nat) : Prop := ∃ a, xs[i]? = some a ∧ p a = true

theorem inClass_drop (p : α → Bool) (xs : List α) (n i : Nat) :
    InClass p (xs.drop n) i ↔ InClass p xs (n + i) := by
  rw [InClass, InClass, List.getElem?_drop]

theorem inClass_append_left (p : α → Bool) {xs : List α} (ys : List α) {i : Nat}
    (hi : i < xs.length) : InClass p (xs ++ ys) i ↔ InClass p xs i := by
  rw [InClass, InClass, List.getElem?_append_left hi]

theorem inClass_append_length (p : α → Bool) (xs ys : List α) :
    InClass p (xs ++ ys) xs.length ↔ InClass p ys 0 := by
  rw [InClass, InClass, List.getElem?_append_right (Nat.le_refl _), Nat.sub_self]

theorem inClass_cons_zero (p : α → Bool) (a : α) (xs : List α) :
    InClass p (a :: xs) 0 ↔ p a = true := by
  simp [InClass]

theorem inClass_lt {p : α → Bool} {xs : List α} {i : Nat} (h : InClass p xs i) :
    i < xs.length := by
  obtain ⟨a, ha, _⟩ := h
  exact (List.getElem?_eq_some_iff.mp ha).1

theorem inClass_of_forall {p : α → Bool} {xs : List α} (h : ∀ a ∈ xs, p a = true) {i : Nat}
    (hi : i < xs.length) : InClass p xs i :=
  ⟨xs[i], List.getElem?_eq_getElem hi, h _ (List.getElem_mem hi)⟩

theorem not_inClass_dropWhile (p : α → Bool) (xs : List α) : ¬ InClass p (xs.dropWhile p) 0 := by
  rintro ⟨a, ha, hp⟩
  rw [← List.head?_eq_getElem?] at ha
  have hnot := List.head?_dropWhile_not p xs
  simp [ha, hp] at hnot

theorem span_of_not_inClass {p : α → Bool} {xs : List α} (h : ¬ InClass p xs 0) :
    xs.takeWhile p = [] ∧ xs.dropWhile p = xs := by
  cases xs with
  | nil => exact ⟨rfl, rfl⟩
  | cons a rest =>
    rw [inClass_cons_zero] at h
    exact ⟨List.takeWhile_cons_of_neg h, List.dropWhile_cons_of_neg h⟩

structure Run.IsMaximal (p : α → Bool) (xs : List α) (r : Run α) : Prop where
  maximal : MaximalStretch (InClass p xs) r.start r.stop
  items : r.items = xs.extract r.start r.stop

theorem isMaximal_of_split {p : α → Bool} {whole front back : List α} {position : Nat}
    (hsplit : whole.drop position = front ++ back) (hne : front ≠ [])
    (hfront : ∀ a ∈ front, p a = true) (hback : ¬ InClass p back 0)
    (hbefore : ∀ i, i + 1 = position → ¬ InClass p whole i) :
    (⟨position, front⟩ : Run α).IsMaximal p whole := by
  have hpos := List.length_pos_iff.mpr hne
  constructor
  case maximal =>
    rw [maximalStretch_iff]
    change Stretch _ position (position + front.length) ∧ _ ∧ ¬ InClass p whole _
    refine ⟨⟨by omega, ?_⟩, hbefore, ?_⟩
    · intro i hstart hstop
      obtain ⟨j, rfl⟩ := Nat.exists_eq_add_of_le hstart
      have hj : j < front.length := by omega
      rw [← inClass_drop, hsplit, inClass_append_left p back hj]
      exact inClass_of_forall hfront hj
    · change ¬ InClass p whole (position + front.length)
      rw [← inClass_drop, hsplit, inClass_append_length]
      exact hback
  case items =>
    change front = whole.extract position (position + front.length)
    rw [List.extract_eq_take_drop, Nat.add_sub_cancel_left, hsplit, List.take_left]

theorem cons_eq_run_append (p : α → Bool) (a : α) (rest : List α) :
    a :: rest = (a :: rest.takeWhile p) ++ rest.dropWhile p := by
  rw [List.cons_append, List.takeWhile_append_dropWhile]

theorem isMaximal_takeWhile {p : α → Bool} {whole rest : List α} {position : Nat} {a : α}
    (hrest : whole.drop position = a :: rest) (ha : p a = true)
    (hbefore : ∀ i, i + 1 = position → ¬ InClass p whole i) :
    (⟨position, a :: rest.takeWhile p⟩ : Run α).IsMaximal p whole := by
  have hsplit := hrest.trans (cons_eq_run_append p a rest)
  apply isMaximal_of_split hsplit (List.cons_ne_nil _ _) ?_ (not_inClass_dropWhile p rest) hbefore
  intro b hb
  rcases List.mem_cons.mp hb with rfl | hb
  · exact ha
  · exact List.mem_takeWhile_imp hb

theorem Run.IsMaximal.start_inClass {p : α → Bool} {xs : List α} {r : Run α}
    (h : r.IsMaximal p xs) : InClass p xs r.start :=
  h.maximal.1.2 r.start (Nat.le_refl _) h.maximal.1.1

theorem Run.IsMaximal.eq_of_start {p : α → Bool} {xs : List α} {r s : Run α}
    (hr : r.IsMaximal p xs) (hs : s.IsMaximal p xs) (hstart : r.start = s.start) : r = s := by
  have hstop : r.stop = s.stop := by
    apply hr.maximal.stop_eq
    rw [hstart]
    exact hs.maximal
  have hitems : r.items = s.items := by rw [hr.items, hs.items, hstart, hstop]
  cases r
  cases s
  cases hstart
  cases hitems
  rfl

theorem MaximalStretch.stop_le {p : α → Bool} {xs : List α} {start stop : Nat}
    (h : MaximalStretch (InClass p xs) start stop) : stop ≤ xs.length := by
  have hlt := h.1.1
  have hlast := inClass_lt (h.1.2 (stop - 1) (by omega) (by omega))
  omega

theorem MaximalStretch.exists_run {p : α → Bool} {xs : List α} {start stop : Nat}
    (h : MaximalStretch (InClass p xs) start stop) :
    ∃ r : Run α, r.IsMaximal p xs ∧ r.start = start ∧ r.stop = stop := by
  have hlt := h.1.1
  have hle := h.stop_le
  have hstop : (⟨start, xs.extract start stop⟩ : Run α).stop = stop := by
    change start + (xs.extract start stop).length = stop
    rw [List.extract_eq_take_drop, List.length_take, List.length_drop]
    omega
  refine ⟨⟨start, xs.extract start stop⟩, ⟨?_, ?_⟩, rfl, hstop⟩
  · rw [hstop]
    exact h
  · rw [hstop]

theorem runsFrom_nil (p : α → Bool) (position : Nat) : runsFrom p position [] = [] := by
  rw [runsFrom]

theorem runsFrom_cons_of_pos {p : α → Bool} {a : α} (ha : p a = true) (position : Nat)
    (rest : List α) : runsFrom p position (a :: rest) = ⟨position, a :: rest.takeWhile p⟩ ::
      runsFrom p (position + (rest.takeWhile p).length + 1) (rest.dropWhile p) := by
  rw [runsFrom, if_pos ha]

theorem runsFrom_cons_of_neg {p : α → Bool} {a : α} (ha : ¬ p a = true) (position : Nat)
    (rest : List α) : runsFrom p position (a :: rest) = runsFrom p (position + 1) rest := by
  rw [runsFrom, if_neg ha]

theorem runsFrom_skip {p : α → Bool} {gap : List α} (hgap : ∀ a ∈ gap, ¬ p a = true)
    (position : Nat) (rest : List α) :
    runsFrom p position (gap ++ rest) = runsFrom p (position + gap.length) rest := by
  induction gap generalizing position with
  | nil => rfl
  | cons a gap ih =>
    rw [List.cons_append, runsFrom_cons_of_neg (hgap a List.mem_cons_self),
      ih fun b hb => hgap b (List.mem_cons_of_mem a hb), List.length_cons, Nat.add_right_comm,
      Nat.add_assoc]

theorem runsFrom_append {p : α → Bool} {front back : List α} (hne : front ≠ [])
    (hfront : ∀ a ∈ front, p a = true) (hback : ¬ InClass p back 0) (position : Nat) :
    runsFrom p position (front ++ back) =
      ⟨position, front⟩ :: runsFrom p (position + front.length) back := by
  obtain ⟨a, front, rfl⟩ := List.exists_cons_of_ne_nil hne
  obtain ⟨ha, hfront⟩ := List.forall_mem_cons.mp hfront
  have hstop := span_of_not_inClass hback
  rw [List.cons_append, runsFrom_cons_of_pos ha, List.takeWhile_append_of_pos hfront,
    List.dropWhile_append_of_pos hfront, hstop.1, hstop.2, List.append_nil, List.length_cons,
    Nat.add_assoc]

/-- The recursion is at a position where no run goes on: it finds the maximal stretches from there
on. -/
theorem mem_runsFrom_iff {p : α → Bool} {whole xs : List α} {position : Nat}
    (hxs : whole.drop position = xs)
    (hbefore : ∀ i, i + 1 = position → InClass p whole i → ¬ InClass p whole position)
    (r : Run α) :
    r ∈ runsFrom p position xs ↔ position ≤ r.start ∧ r.IsMaximal p whole := by
  fun_induction runsFrom p position xs with
  | case1 position =>
    constructor
    · intro hr
      cases hr
    · rintro ⟨hstart, hr⟩
      have hlt := inClass_lt hr.start_inClass
      have hend := List.drop_eq_nil_iff.mp hxs
      omega
  | case2 position a rest ha ih =>
    have hhere : InClass p whole position := by
      rw [← Nat.add_zero position, ← inClass_drop, hxs, inClass_cons_zero]
      exact ha
    have hfirst := isMaximal_takeWhile hxs ha fun i hi hclass => hbefore i hi hclass hhere
    have hnext : whole.drop (position + (rest.takeWhile p).length + 1) = rest.dropWhile p := by
      rw [Nat.add_assoc, ← List.drop_drop, hxs, cons_eq_run_append p a rest]
      exact List.drop_left
    have hgap := (maximalStretch_iff.mp hfirst.maximal).2.2
    rw [List.mem_cons, ih hnext fun _ _ _ => hgap]
    constructor
    · rintro (rfl | ⟨hlater, hr⟩)
      · exact ⟨Nat.le_refl _, hfirst⟩
      · exact ⟨by omega, hr⟩
    · rintro ⟨hstart, hr⟩
      -- A maximal stretch that starts later starts past the gap, where the recursion goes on.
      rcases Nat.lt_or_eq_of_le hstart with hlater | hsame
      · have hapart := hfirst.maximal.apart hr.maximal hlater
        exact Or.inr ⟨Nat.le_of_lt hapart, hr⟩
      · exact Or.inl (hr.eq_of_start hfirst hsame.symm)
  | case3 position a rest ha ih =>
    have hhere : ¬ InClass p whole position := by
      rw [← Nat.add_zero position, ← inClass_drop, hxs, inClass_cons_zero]
      exact ha
    have hnext : whole.drop (position + 1) = rest := by
      rw [← List.drop_drop, hxs, List.drop_one, List.tail_cons]
    rw [ih hnext]
    · constructor
      · rintro ⟨hlater, hr⟩
        exact ⟨by omega, hr⟩
      · rintro ⟨hstart, hr⟩
        refine ⟨Nat.lt_of_le_of_ne hstart ?_, hr⟩
        rintro rfl
        exact hhere hr.start_inClass
    · rintro i hi hclass
      obtain rfl : i = position := by omega
      exact absurd hclass hhere

theorem mem_runs_iff (p : α → Bool) (xs : List α) (r : Run α) :
    r ∈ runs p xs ↔ r.IsMaximal p xs := by
  rw [runs, mem_runsFrom_iff List.drop_zero (by omega)]
  exact and_iff_right (Nat.zero_le _)

theorem runsFrom_start_le {p : α → Bool} {position : Nat} {xs : List α} {r : Run α}
    (hr : r ∈ runsFrom p position xs) : position ≤ r.start := by
  fun_induction runsFrom p position xs with
  | case1 => cases hr
  | case2 position a rest ha ih =>
    rcases List.mem_cons.mp hr with rfl | hr
    · exact Nat.le_refl _
    · have := ih hr
      omega
  | case3 position a rest ha ih =>
    have := ih hr
    omega

theorem runsFrom_starts (p : α → Bool) (position : Nat) (xs : List α) :
    (runsFrom p position xs).Pairwise fun r s => r.start < s.start := by
  fun_induction runsFrom p position xs with
  | case1 => exact List.Pairwise.nil
  | case2 position a rest ha ih =>
    refine List.pairwise_cons.mpr ⟨?_, ih⟩
    intro r hr
    have := runsFrom_start_le hr
    change position < r.start
    omega
  | case3 position a rest ha ih => exact ih

theorem runs_apart (p : α → Bool) (xs : List α) :
    (runs p xs).Pairwise fun r s => r.stop < s.start := by
  refine List.Pairwise.imp_of_mem ?_ (runsFrom_starts p 0 xs)
  intro r s hr hs hlt
  exact ((mem_runs_iff p xs r).mp hr).maximal.apart ((mem_runs_iff p xs s).mp hs).maximal hlt

/-! ## What is listed for runs -/

/-- Something is listed for the wanted stretches: one item for each, in order and with a gap between
two. -/
def ListsStretches {β : Type} (wanted : Nat → Nat → Prop) (shows : Nat → Nat → β → Prop)
    (items : List β) : Prop :=
  ∃ spans : List (Nat × Nat), spans.Pairwise (fun s t => s.2 < t.1) ∧
    (∀ start stop, (start, stop) ∈ spans ↔ wanted start stop) ∧
    List.Forall₂ (fun s item => shows s.1 s.2 item) spans items

theorem listsStretches_runs {β : Type} {p : α → Bool} {xs : List α} {keep : Run α → Bool}
    {itemOf : Run α → β} {wanted : Nat → Nat → Prop} {shows : Nat → Nat → β → Prop}
    (hmaximal : ∀ start stop, wanted start stop → MaximalStretch (InClass p xs) start stop)
    (hkeep : ∀ r : Run α, r.IsMaximal p xs → (keep r = true ↔ wanted r.start r.stop))
    (hshows : ∀ r : Run α, r.IsMaximal p xs → shows r.start r.stop (itemOf r)) :
    ListsStretches wanted shows (((runs p xs).filter keep).map itemOf) := by
  refine ⟨((runs p xs).filter keep).map fun r => (r.start, r.stop), ?_, ?_, ?_⟩
  · rw [List.pairwise_map]
    exact (runs_apart p xs).filter keep
  · intro start stop
    rw [List.mem_map]
    constructor
    · rintro ⟨r, hr, heq⟩
      obtain ⟨hrun, hkept⟩ := List.mem_filter.mp hr
      cases heq
      exact (hkeep r ((mem_runs_iff p xs r).mp hrun)).mp hkept
    · intro hwanted
      obtain ⟨r, hr, rfl, rfl⟩ := (hmaximal start stop hwanted).exists_run
      have hkept := (hkeep r hr).mpr hwanted
      exact ⟨r, List.mem_filter.mpr ⟨(mem_runs_iff p xs r).mpr hr, hkept⟩, rfl⟩
  · rw [List.forall₂_map_left_iff, List.forall₂_map_right_iff, List.forall₂_same]
    intro r hr
    exact hshows r ((mem_runs_iff p xs r).mp (List.mem_filter.mp hr).1)

def Run.atLeast (n : Int) (r : Run α) : Bool := decide (n ≤ r.length)

theorem Run.atLeast_iff (n : Int) (r : Run α) :
    r.atLeast n = true ↔ n ≤ (r.stop : Int) - r.start := by
  rw [atLeast, decide_eq_true_eq, stop]
  omega

end CodeAtlas
