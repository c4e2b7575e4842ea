import CodeAtlas.Sweep

/-!
# The sweep, one position after the other

A sweep looks up whole streaks of instructions and starts again after each of them. It comes to the
same as `bytewise`, which decides at every position between an instruction and a skipped byte. So
the instructions of a sweep follow one another without overlap, each fits into the code, and no
listed instruction that fits is passed over outside of them.
-/

set_option autoImplicit false

namespace CodeAtlas.Sweep

def bytewise (listing : Listing) (size : Nat) (address : Int) (position : Nat) : Sweep :=
  if _h : position < size then
    match entryAt? listing size address position with
    | none =>
      let rest := bytewise listing size address (position + 1)
      ⟨rest.placed, rest.skipped + 1⟩
    | some e =>
      let rest := bytewise listing size address (position + e.size)
      ⟨⟨position, e⟩ :: rest.placed, rest.skipped⟩
  else ⟨[], 0⟩
termination_by size - position
decreasing_by
  · omega
  · have hpos := e.size_pos
    omega

section Positions

variable {listing : Listing} {size : Nat} {address : Int} {position : Nat} {e : Listing.Entry}

theorem entryAt?_listed (h : entryAt? listing size address position = some e) :
    listing.get? (addressAt address position) = some e := by
  rw [entryAt?, Option.filter_eq_some_iff] at h
  exact h.1

theorem entryAt?_fits (h : entryAt? listing size address position = some e) :
    position + e.size ≤ size := by
  rw [entryAt?, Option.filter_eq_some_iff] at h
  simpa using h.2

theorem bytewise_end (h : size ≤ position) :
    bytewise listing size address position = ⟨[], 0⟩ := by
  rw [bytewise, dif_neg (by omega)]

theorem bytewise_found (h : entryAt? listing size address position = some e) :
    bytewise listing size address position =
      ⟨⟨position, e⟩ :: (bytewise listing size address (position + e.size)).placed,
        (bytewise listing size address (position + e.size)).skipped⟩ := by
  have hfits := entryAt?_fits h
  have hpos := e.size_pos
  rw [bytewise, dif_pos (by omega), h]

theorem bytewise_skipped (hlt : position < size)
    (h : entryAt? listing size address position = none) :
    bytewise listing size address position =
      ⟨(bytewise listing size address (position + 1)).placed,
        (bytewise listing size address (position + 1)).skipped + 1⟩ := by
  rw [bytewise, dif_pos hlt, h]

end Positions

theorem instructionOf_length {code : Bytes} {address : Int} {bitness : Bitness} {fileOffset : Int}
    {p : Placed} (hfits : p.position + p.entry.size ≤ code.size) :
    (instructionOf code address bitness fileOffset p).length = p.entry.size := by
  change (code.extract p.position (p.position + p.entry.size)).size = p.entry.size
  rw [Array.size_extract]
  omega

theorem bytesOf_cons (p : Placed) (ps : List Placed) :
    bytesOf (p :: ps) = p.entry.size + bytesOf ps := rfl

section Streaks

variable (listing : Listing) (size : Nat) (address : Int) (position : Nat)

theorem bytewise_streak : bytewise listing size address position =
    ⟨streak listing size address position ++ (bytewise listing size address
        (position + bytesOf (streak listing size address position))).placed,
      (bytewise listing size address
        (position + bytesOf (streak listing size address position))).skipped⟩ := by
  fun_induction streak listing size address position with
  | case1 position hlt hnone => rfl
  | case2 position hlt e hsome ih =>
    rw [bytesOf_cons, ← Nat.add_assoc, bytewise_found hsome, ih]
    rfl
  | case3 position hend => rfl

theorem streak_end (h : position + bytesOf (streak listing size address position) < size) :
    entryAt? listing size address
      (position + bytesOf (streak listing size address position)) = none := by
  fun_induction streak listing size address position with
  | case1 position hlt hnone => exact hnone
  | case2 position hlt e hsome ih =>
    rw [bytesOf_cons, ← Nat.add_assoc] at h ⊢
    exact ih h
  | case3 position hend => exact absurd h hend

theorem sweepFrom_eq_bytewise :
    sweepFrom listing size address position = bytewise listing size address position := by
  fun_induction sweepFrom listing size address position with
  | case1 position found hlt rest ih =>
    have hnone := streak_end listing size address position hlt
    rw [bytewise_streak, bytewise_skipped hlt hnone, ← ih]
  | case2 position found hend =>
    rw [bytewise_streak, bytewise_end (Nat.le_of_not_lt hend), List.append_nil]

end Streaks

/-! ## What a sweep finds -/

section Found

variable (listing : Listing) (size : Nat) (address : Int) (position : Nat)

theorem bytewise_listed : ∀ p ∈ (bytewise listing size address position).placed,
    position ≤ p.position ∧ entryAt? listing size address p.position = some p.entry := by
  fun_induction bytewise listing size address position with
  | case1 position hlt hnone rest ih =>
    intro p hp
    have hlater := ih p hp
    exact ⟨by omega, hlater.2⟩
  | case2 position hlt e hsome rest ih =>
    intro p hp
    rcases List.mem_cons.mp hp with rfl | hmem
    · exact ⟨Nat.le_refl _, hsome⟩
    · have hlater := ih p hmem
      exact ⟨by omega, hlater.2⟩
  | case3 position hend => simp

theorem bytewise_apart : (bytewise listing size address position).placed.Pairwise fun p q =>
    p.position + p.entry.size ≤ q.position := by
  fun_induction bytewise listing size address position with
  | case1 position hlt hnone rest ih => exact ih
  | case2 position hlt e hsome rest ih =>
    refine List.pairwise_cons.mpr ⟨?_, ih⟩
    intro q hq
    exact (bytewise_listed listing size address (position + e.size) q hq).1
  | case3 position hend => exact List.Pairwise.nil

/-- At a position that lies in no instruction, none is listed that fits. -/
theorem bytewise_exhaustive {k : Nat} (hk : position ≤ k) (hlt : k < size) :
    (∃ p ∈ (bytewise listing size address position).placed,
      p.position ≤ k ∧ k < p.position + p.entry.size) ∨
      entryAt? listing size address k = none := by
  fun_induction bytewise listing size address position with
  | case1 position _ hnone rest ih =>
    by_cases hhere : k = position
    · exact Or.inr (hhere ▸ hnone)
    · exact ih (by omega)
  | case2 position _ e hsome rest ih =>
    by_cases hinside : k < position + e.size
    · exact Or.inl ⟨⟨position, e⟩, List.mem_cons_self .., hk, hinside⟩
    · rcases ih (by omega) with ⟨p, hp, hbounds⟩ | hnone
      · exact Or.inl ⟨p, List.mem_cons_of_mem _ hp, hbounds⟩
      · exact Or.inr hnone
  | case3 position hend => omega

end Found

end CodeAtlas.Sweep
