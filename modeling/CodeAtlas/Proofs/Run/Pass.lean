import CodeAtlas.Proofs.Run

/-!
# Runs in one pass

A pass goes over a list element by element. It keeps the run that is open and closes it at the first
element that does not belong to it. What it has found at the end of the list, the open run included,
are the runs of the list; what it has closed are those that end before.
-/

set_option autoImplicit false

namespace CodeAtlas

variable {α : Type}

/-- A pass under way: the number of elements behind it, the run that is open, and the runs that have
been closed and are worth keeping. -/
structure Pass (α : Type) where
  position : Nat
  opened : Option (Run α)
  closed : List (Run α)

namespace Pass

def step (p : α → Bool) (keep : Run α → Bool) (s : Pass α) (a : α) : Pass α :=
  if p a then
    match s.opened with
    | none => ⟨s.position + 1, some ⟨s.position, [a]⟩, s.closed⟩
    | some r => ⟨s.position + 1, some ⟨r.start, r.items ++ [a]⟩, s.closed⟩
  else ⟨s.position + 1, none, s.closed ++ s.opened.toList.filter keep⟩

def ofList (p : α → Bool) (keep : Run α → Bool) (xs : List α) : Pass α :=
  xs.foldl (step p keep) ⟨0, none, []⟩

def found (keep : Run α → Bool) (s : Pass α) : List (Run α) :=
  s.closed ++ s.opened.toList.filter keep

/-- The runs that the elements to come complete or open. -/
def coming (p : α → Bool) (position : Nat) : Option (Run α) → List α → List (Run α)
  | none, xs => runsFrom p position xs
  | some r, xs => ⟨r.start, r.items ++ xs.takeWhile p⟩ ::
      runsFrom p (position + (xs.takeWhile p).length) (xs.dropWhile p)

variable (p : α → Bool) (keep : Run α → Bool)

theorem coming_nil (position : Nat) (opened : Option (Run α)) :
    coming p position opened [] = opened.toList := by
  cases opened with
  | none => simp [coming, runsFrom_nil]
  | some r => simp [coming, runsFrom_nil]

/-- The runs kept and those to come make up the same list after a step. -/
theorem coming_step (s : Pass α) (a : α) (xs : List α) :
    (step p keep s a).closed ++
        (coming p (step p keep s a).position (step p keep s a).opened xs).filter keep =
      s.closed ++ (coming p s.position s.opened (a :: xs)).filter keep := by
  obtain ⟨position, opened, closed⟩ := s
  by_cases ha : p a = true
  · cases opened with
    | none => simp [step, coming, runsFrom_cons_of_pos, ha, Nat.add_right_comm]
    | some r => simp [step, coming, ha, Nat.add_assoc, Nat.add_comm 1]
  · cases opened with
    | none => simp [step, coming, runsFrom_cons_of_neg, ha]
    | some r =>
      have hopened : coming p position (some r) (a :: xs) = r :: runsFrom p (position + 1) xs := by
        simp [coming, runsFrom_cons_of_neg, ha]
      rw [hopened, ← List.singleton_append, List.filter_append, ← List.append_assoc]
      simp [step, coming, ha]

theorem found_foldl (s : Pass α) (xs : List α) :
    (xs.foldl (step p keep) s).found keep =
      s.closed ++ (coming p s.position s.opened xs).filter keep := by
  induction xs generalizing s with
  | nil => rw [List.foldl_nil, found, coming_nil]
  | cons a rest ih => rw [List.foldl_cons, ih, coming_step]

theorem found_ofList (xs : List α) : (ofList p keep xs).found keep = (runs p xs).filter keep := by
  rw [ofList, found_foldl]
  rfl

structure Placed (s : Pass α) : Prop where
  opened : ∀ r, s.opened = some r → r.stop = s.position
  closed : ∀ r ∈ s.closed, r.stop < s.position

theorem step_position (s : Pass α) (a : α) : (step p keep s a).position = s.position + 1 := by
  unfold step
  split
  · split <;> rfl
  · rfl

theorem step_placed {s : Pass α} (h : s.Placed) (a : α) : (step p keep s a).Placed := by
  obtain ⟨position, opened, closed⟩ := s
  have hclosed : ∀ r ∈ closed, r.stop < position + 1 := fun r hr => Nat.lt_succ_of_lt (h.closed r hr)
  by_cases ha : p a = true
  · cases opened with
    | none =>
      simp only [step, ha, ↓reduceIte]
      refine ⟨?_, hclosed⟩
      intro r hr
      cases hr
      rfl
    | some r =>
      have hstop : r.start + r.items.length = position := h.opened r rfl
      simp only [step, ha, ↓reduceIte]
      refine ⟨?_, hclosed⟩
      intro longer hr
      cases hr
      change r.start + (r.items ++ [a]).length = position + 1
      rw [List.length_append, List.length_singleton]
      omega
  · simp only [step, ha]
    refine ⟨?_, ?_⟩
    · intro r hr
      cases hr
    · intro r hr
      rcases List.mem_append.mp hr with hr | hr
      · exact hclosed r hr
      · have hopened := h.opened r (Option.mem_toList.mp (List.mem_filter.mp hr).1)
        exact Nat.lt_succ_of_le (Nat.le_of_eq hopened)

theorem foldl_placed {s : Pass α} (h : s.Placed) (xs : List α) :
    (xs.foldl (step p keep) s).Placed ∧
      (xs.foldl (step p keep) s).position = s.position + xs.length := by
  induction xs generalizing s with
  | nil => exact ⟨h, rfl⟩
  | cons a rest ih =>
    obtain ⟨hplaced, hposition⟩ := ih (step_placed p keep h a)
    refine ⟨hplaced, ?_⟩
    rw [List.foldl_cons, hposition, step_position, List.length_cons]
    omega

/-- What a pass has closed are the runs that do not reach the end of the list. -/
theorem closed_ofList (xs : List α) :
    (ofList p keep xs).closed = (runs p xs).filter fun r => keep r && decide (r.stop < xs.length) := by
  have hstart : (⟨0, none, []⟩ : Pass α).Placed := ⟨by simp, by simp⟩
  obtain ⟨hplaced, hposition⟩ := foldl_placed p keep hstart xs
  rw [Nat.zero_add] at hposition
  have hclosed : (ofList p keep xs).closed.filter (fun r => decide (r.stop < xs.length)) =
      (ofList p keep xs).closed := by
    apply List.filter_eq_self.mpr
    intro r hr
    have hlt := hplaced.closed r hr
    exact decide_eq_true (by omega)
  have hopened : ((ofList p keep xs).opened.toList.filter keep).filter
      (fun r => decide (r.stop < xs.length)) = [] := by
    apply List.filter_eq_nil_iff.mpr
    intro r hr
    have heq := hplaced.opened r (Option.mem_toList.mp (List.mem_filter.mp hr).1)
    simp only [decide_eq_true_eq]
    omega
  calc
    (ofList p keep xs).closed
      = ((ofList p keep xs).found keep).filter (fun r => decide (r.stop < xs.length)) := by
        rw [found, List.filter_append, hclosed, hopened, List.append_nil]
    _ = (runs p xs).filter fun r => keep r && decide (r.stop < xs.length) := by
        rw [found_ofList, List.filter_filter]
        exact List.filter_congr fun r _ => Bool.and_comm _ _

end Pass

end CodeAtlas
