import CodeAtlas.Sequence

set_option autoImplicit false

namespace CodeAtlas

variable {α β : Type}

/-! ## Order -/

theorem mem_dropRepeats (a : Int) (xs : List Int) : a ∈ dropRepeats xs ↔ a ∈ xs := by
  induction xs with
  | nil => rfl
  | cons b rest ih =>
    rw [dropRepeats, List.mem_cons, ← ih]
    cases hrest : dropRepeats rest with
    | nil => simp
    | cons c others =>
      by_cases hbc : b = c
      · simp [hbc]
      · simp [hbc]

theorem dropRepeats_pairwise {xs : List Int} (h : xs.Pairwise (· ≤ ·)) :
    (dropRepeats xs).Pairwise (· < ·) := by
  induction xs with
  | nil => exact List.Pairwise.nil
  | cons b rest ih =>
    obtain ⟨hle, hsorted⟩ := List.pairwise_cons.mp h
    have hrest := ih hsorted
    rw [dropRepeats]
    cases hdrop : dropRepeats rest with
    | nil => simp
    | cons c others =>
      rw [hdrop] at hrest
      have hbc : b ≤ c := hle c ((mem_dropRepeats c rest).mp (by simp [hdrop]))
      by_cases heq : b = c
      · simpa [heq] using hrest
      · simp only [heq, ↓reduceIte]
        refine List.pairwise_cons.mpr ⟨?_, hrest⟩
        intro d hd
        have hcd : d = c ∨ c < d := by
          rcases List.mem_cons.mp hd with rfl | hmem
          · exact Or.inl rfl
          · exact Or.inr ((List.pairwise_cons.mp hrest).1 d hmem)
        omega

theorem mem_ascending (a : Int) (xs : List Int) : a ∈ ascending xs ↔ a ∈ xs := by
  rw [ascending, mem_dropRepeats, List.mem_mergeSort]

theorem sortBy_pairwise (key : α → Int) (xs : List α) :
    (sortBy key xs).Pairwise fun x y => key x ≤ key y := by
  have hsorted : (sortBy key xs).Pairwise fun x y => decide (key x ≤ key y) = true := by
    apply List.pairwise_mergeSort
    · simp only [decide_eq_true_eq]
      omega
    · simp only [Bool.or_eq_true, decide_eq_true_eq]
      omega
  exact hsorted.imp of_decide_eq_true

theorem ascending_pairwise (xs : List Int) : (ascending xs).Pairwise (· < ·) :=
  dropRepeats_pairwise (sortBy_pairwise id xs)

theorem zipIdx_pairwise (xs : List α) : xs.zipIdx.Pairwise fun x y => x.2 < y.2 := by
  rw [← List.pairwise_map (f := Prod.snd), List.zipIdx_map_snd]
  exact List.pairwise_lt_range' 1

/-! ## Cells -/

theorem cellsFrom_map (f : α → β) (read : Nat → Option α) (index count : Nat) :
    (cellsFrom read index count).map f = cellsFrom (fun i => (read i).map f) index count := by
  induction count generalizing index with
  | zero => rfl
  | succ count ih =>
    rw [cellsFrom, cellsFrom]
    cases read index with
    | none => rfl
    | some a => simp [ih]

theorem cells_map (f : α → β) (read : Nat → Option α) (count : Nat) :
    (cells read count).map f = cells (fun i => (read i).map f) count :=
  cellsFrom_map f read 0 count

theorem cellsFrom_isPrefix {short full : Nat → Option α}
    (h : ∀ i a, short i = some a → full i = some a) (index count : Nat) :
    cellsFrom short index count <+: cellsFrom full index count := by
  induction count generalizing index with
  | zero => exact List.prefix_rfl
  | succ count ih =>
    rw [cellsFrom, cellsFrom]
    cases hshort : short index with
    | none => exact List.nil_prefix
    | some a =>
      simp only [h index a hshort]
      exact (List.prefix_cons_inj a).mpr (ih (index + 1))

theorem cells_isPrefix {short full : Nat → Option α}
    (h : ∀ i a, short i = some a → full i = some a) (count : Nat) :
    cells short count <+: cells full count :=
  cellsFrom_isPrefix h 0 count

theorem cellsFrom_eq {read : Nat → Option α} {xs : List α} {index count : Nat}
    (hread : ∀ k a, xs[k]? = some a → read (index + k) = some a)
    (hend : read (index + xs.length) = none) (hroom : xs.length ≤ count) :
    cellsFrom read index count = xs := by
  induction xs generalizing index count with
  | nil =>
    cases count with
    | zero => rfl
    | succ count =>
      have hnone : read index = none := hend
      rw [cellsFrom, hnone]
  | cons a rest ih =>
    cases count with
    | zero => simp at hroom
    | succ count =>
      have hfirst : read index = some a := hread 0 a rfl
      have hrest : cellsFrom read (index + 1) count = rest := by
        apply ih
        · intro k b hb
          rw [Nat.add_right_comm]
          exact hread (k + 1) b hb
        · rw [Nat.add_right_comm]
          exact hend
        · simpa using hroom
      simp only [cellsFrom, hfirst, hrest]

theorem cells_eq {read : Nat → Option α} {xs : List α} {count : Nat}
    (hread : ∀ k a, xs[k]? = some a → read k = some a) (hend : read xs.length = none)
    (hroom : xs.length ≤ count) : cells read count = xs := by
  apply cellsFrom_eq
  · simpa using hread
  · simpa using hend
  · exact hroom

theorem cellsFrom_getElem?_eq_some_iff (read : Nat → Option α) (index count i : Nat) (a : α) :
    (cellsFrom read index count)[i]? = some a ↔
      i < count ∧ (∀ k ≤ i, (read (index + k)).isSome = true) ∧ read (index + i) = some a := by
  induction count generalizing index i with
  | zero => simp [cellsFrom]
  | succ count ih =>
    rw [cellsFrom]
    cases hread : read index with
    | none =>
      constructor
      · intro hnil
        simp at hnil
      · rintro ⟨_, hreadable, _⟩
        have hfirst := hreadable 0 (Nat.zero_le i)
        rw [Nat.add_zero, hread] at hfirst
        cases hfirst
    | some b =>
      cases i with
      | zero => simp [hread]
      | succ i =>
        have hshift : ∀ k, index + 1 + k = index + (k + 1) := by omega
        rw [List.getElem?_cons_succ, ih, hshift]
        simp only [hshift, Nat.add_lt_add_iff_right]
        apply and_congr_right
        intro _
        apply and_congr_left
        intro _
        constructor
        · intro hreadable k hk
          cases k with
          | zero => simp [hread]
          | succ k => exact hreadable k (by omega)
        · intro hreadable k hk
          exact hreadable (k + 1) (by omega)

theorem cells_getElem?_eq_some_iff (read : Nat → Option α) (count i : Nat) (a : α) :
    (cells read count)[i]? = some a ↔
      i < count ∧ (∀ k ≤ i, (read k).isSome = true) ∧ read i = some a := by
  have hfrom := cellsFrom_getElem?_eq_some_iff read 0 count i a
  simp only [Nat.zero_add] at hfrom
  exact hfrom

end CodeAtlas
