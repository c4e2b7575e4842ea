import CodeAtlas.Proofs.Run.Pass
import CodeAtlas.Scan

/-!
# Sleds are maximal runs

The sleds of a buffer are the maximal stretches of its sled byte that are long enough. Two loops find
them: the outer one looks for the start of a run, the inner one measures the run, and the outer one
goes on behind it. Only the element after a run is looked at twice, so the loops end after at most two
turns for each element.
-/

set_option autoImplicit false

namespace CodeAtlas

variable {α : Type}

/-- Two loops under way: where the outer one stands, how much the inner one has measured of the run
that starts there, and the runs found so far that are worth keeping. Outside a run nothing is
measured. -/
structure Gauge (α : Type) where
  position : Nat
  measured : Nat
  found : List (Run α)

namespace Gauge

variable (p : α → Bool) (keep : Run α → Bool) (xs : List α)

def turn : Gauge α → Gauge α
  | ⟨position, 0, found⟩ =>
    match xs[position]? with
    | none => ⟨position, 0, found⟩
    | some a => if p a then ⟨position, 1, found⟩ else ⟨position + 1, 0, found⟩
  | ⟨position, n + 1, found⟩ =>
    if (xs[position + (n + 1)]?).any p then ⟨position, n + 2, found⟩
    else ⟨position + (n + 1), 0,
      found ++ [⟨position, xs.extract position (position + (n + 1))⟩].filter keep⟩

def run : Nat → Gauge α → Gauge α
  | 0, s => s
  | n + 1, s => run n (turn p keep xs s)

def opened : Gauge α → Option (Run α)
  | ⟨_, 0, _⟩ => none
  | ⟨position, n + 1, _⟩ => some ⟨position, xs.extract position (position + (n + 1))⟩

def asPass (s : Gauge α) : Pass α := ⟨s.position + s.measured, s.opened xs, s.found⟩

theorem extract_concat {a : α} {first last : Nat} (hle : first ≤ last) (ha : xs[last]? = some a) :
    xs.extract first (last + 1) = xs.extract first last ++ [a] := by
  obtain ⟨n, rfl⟩ := Nat.exists_eq_add_of_le hle
  rw [List.extract_eq_take_drop, List.extract_eq_take_drop, Nat.add_assoc, Nat.add_sub_cancel_left,
    Nat.add_sub_cancel_left, List.take_add_one, List.getElem?_drop, ha]
  rfl

theorem turn_takes {s : Gauge α} {a : α} (ha : xs[s.position + s.measured]? = some a)
    (hgoes : p a = true ∨ s.measured = 0) :
    (turn p keep xs s).asPass xs = Pass.step p keep (s.asPass xs) a := by
  obtain ⟨position, measured, found⟩ := s
  cases measured with
  | zero =>
    change xs[position]? = some a at ha
    by_cases hp : p a = true
    · have hone := extract_concat xs (Nat.le_refl position) ha
      simp [turn, ha, hp, asPass, opened, Pass.step, hone]
    · simp [turn, ha, hp, asPass, opened, Pass.step]
  | succ n =>
    change xs[position + (n + 1)]? = some a at ha
    have hp : p a = true := hgoes.resolve_right (Nat.succ_ne_zero n)
    have hlonger := extract_concat xs (Nat.le_add_right position (n + 1)) ha
    simp only [turn, ha, hp, asPass, opened, Pass.step, Option.any_some, ↓reduceIte]
    rw [← hlonger]
    rfl

theorem turn_closes {s : Gauge α} (hinside : 0 < s.measured)
    (hnext : ¬ InClass p xs (s.position + s.measured)) :
    ∃ r, s.opened xs = some r ∧
      turn p keep xs s = ⟨s.position + s.measured, 0, s.found ++ [r].filter keep⟩ := by
  obtain ⟨position, measured, found⟩ := s
  cases measured with
  | zero => cases hinside
  | succ n =>
    have hnone : ¬ (xs[position + (n + 1)]?).any p = true := by
      rw [Option.any_eq_true]
      exact hnext
    refine ⟨_, rfl, ?_⟩
    simp only [turn, hnone]
    rfl

theorem turn_ended {s : Gauge α} (hend : xs.length ≤ s.position) (hout : s.measured = 0) :
    turn p keep xs s = s := by
  obtain ⟨position, measured, found⟩ := s
  cases hout
  simp [turn, List.getElem?_eq_none hend]

theorem turn_cases (s : Gauge α) : (xs.length ≤ s.position ∧ s.measured = 0) ∨
    (∃ a, xs[s.position + s.measured]? = some a ∧ (p a = true ∨ s.measured = 0)) ∨
    (0 < s.measured ∧ ¬ InClass p xs (s.position + s.measured)) := by
  by_cases hout : s.measured = 0
  · cases hnext : xs[s.position + s.measured]? with
    | none =>
      rw [hout] at hnext
      exact Or.inl ⟨List.getElem?_eq_none_iff.mp hnext, hout⟩
    | some a => exact Or.inr (Or.inl ⟨a, rfl, Or.inr hout⟩)
  · by_cases hclass : InClass p xs (s.position + s.measured)
    · obtain ⟨a, ha, hp⟩ := hclass
      exact Or.inr (Or.inl ⟨a, ha, Or.inl hp⟩)
    · exact Or.inr (Or.inr ⟨Nat.pos_of_ne_zero hout, hclass⟩)

/-! ## The loops end -/

/-- A bound on the turns to come: two for each element that is not behind the loops, and one to close
the run that is being measured. -/
def remaining (s : Gauge α) : Nat := 2 * (xs.length - (s.position + s.measured)) + min s.measured 1

theorem remaining_turn (s : Gauge α) : remaining xs (turn p keep xs s) ≤ remaining xs s - 1 := by
  rcases turn_cases p xs s with ⟨hend, hout⟩ | ⟨a, ha, hgoes⟩ | ⟨hinside, hnext⟩
  · rw [turn_ended p keep xs hend hout, remaining, hout]
    omega
  · -- The element that is taken pays for this turn and for closing the run that it may start.
    have hlt := (List.getElem?_eq_some_iff.mp ha).1
    have hposition : (turn p keep xs s).position + (turn p keep xs s).measured =
        s.position + s.measured + 1 := by
      have hpass := congrArg Pass.position (turn_takes p keep xs ha hgoes)
      rwa [Pass.step_position] at hpass
    unfold remaining
    omega
  · obtain ⟨r, _, hturn⟩ := turn_closes p keep xs hinside hnext
    rw [hturn, remaining, remaining]
    simp only [Nat.add_zero]
    omega

theorem remaining_run (n : Nat) (s : Gauge α) :
    remaining xs (run p keep xs n s) ≤ remaining xs s - n := by
  induction n generalizing s with
  | zero => exact Nat.le_refl _
  | succ n ih =>
    have hturn := remaining_turn p keep xs s
    have hrest := ih (turn p keep xs s)
    rw [run]
    omega

/-! ## What the loops compute -/

def outlook (s : Pass α) : List (Run α) :=
  s.closed ++ (Pass.coming p s.position s.opened (xs.drop s.position)).filter keep

theorem coming_closed {ys : List α} (hnext : ¬ InClass p ys 0) (position : Nat) (r : Run α) :
    Pass.coming p position (some r) ys = r :: Pass.coming p position none ys := by
  obtain ⟨htake, hdrop⟩ := span_of_not_inClass hnext
  simp [Pass.coming, htake, hdrop]

theorem outlook_turn (s : Gauge α) :
    outlook p keep xs ((turn p keep xs s).asPass xs) = outlook p keep xs (s.asPass xs) := by
  rcases turn_cases p xs s with ⟨hend, hout⟩ | ⟨a, ha, hgoes⟩ | ⟨hinside, hnext⟩
  · rw [turn_ended p keep xs hend hout]
  · obtain ⟨hlt, hget⟩ := List.getElem?_eq_some_iff.mp ha
    have hdrop : xs.drop (s.asPass xs).position = a :: xs.drop ((s.asPass xs).position + 1) := by
      rw [← hget]
      exact List.drop_eq_getElem_cons hlt
    rw [turn_takes p keep xs ha hgoes, outlook, outlook, hdrop, Pass.step_position]
    have hstep := Pass.coming_step p keep (s.asPass xs) a (xs.drop ((s.asPass xs).position + 1))
    rwa [Pass.step_position] at hstep
  · -- No element is taken: the run that comes first is now one of those found.
    obtain ⟨r, hopened, hturn⟩ := turn_closes p keep xs hinside hnext
    have hclosed : ¬ InClass p (xs.drop (s.position + s.measured)) 0 := by
      rwa [inClass_drop]
    have hbefore : s.asPass xs = ⟨s.position + s.measured, some r, s.found⟩ := by
      rw [asPass, hopened]
    have hafter : (turn p keep xs s).asPass xs =
        ⟨s.position + s.measured, none, s.found ++ [r].filter keep⟩ := by
      rw [hturn]
      rfl
    rw [hbefore, hafter, outlook, outlook, coming_closed p hclosed, List.append_assoc,
      ← List.filter_append, List.singleton_append]

theorem outlook_run (n : Nat) (s : Gauge α) :
    outlook p keep xs ((run p keep xs n s).asPass xs) = outlook p keep xs (s.asPass xs) := by
  induction n generalizing s with
  | zero => rfl
  | succ n ih => rw [run, ih, outlook_turn]

/-- After this many turns the outer loop has come to the end of the list, outside a run, and these are
the runs that were found. -/
def Ends (turns : Nat) (found : List (Run α)) : Prop :=
  ∃ position, xs.length ≤ position ∧ run p keep xs turns ⟨0, 0, []⟩ = ⟨position, 0, found⟩

theorem ends_runs : Ends p keep xs (2 * xs.length) ((runs p xs).filter keep) := by
  have hremaining := remaining_run p keep xs (2 * xs.length) ⟨0, 0, []⟩
  have houtlook : _ = (runs p xs).filter keep := outlook_run p keep xs (2 * xs.length) ⟨0, 0, []⟩
  rw [Ends]
  generalize run p keep xs (2 * xs.length) ⟨0, 0, []⟩ = last at hremaining houtlook ⊢
  obtain ⟨position, measured, found⟩ := last
  simp only [remaining, Nat.zero_add, Nat.sub_zero] at hremaining
  obtain rfl : measured = 0 := by omega
  have hend : xs.length ≤ position := by omega
  have hnothing : outlook p keep xs (asPass xs ⟨position, 0, found⟩) = found := by
    simp [outlook, asPass, opened, List.drop_eq_nil_of_le hend, Pass.coming_nil]
  rw [← houtlook, hnothing]
  exact ⟨position, hend, rfl⟩

end Gauge

namespace Scan

def SledAt (data : Bytes) (i : Nat) : Prop := data[i]? = some 0x90

theorem inClass_sledByte (data : Bytes) :
    InClass (· == sledByte) data.toList = SledAt data := by
  funext i
  simp [InClass, SledAt, sledByte]

theorem sledMatch_eq {data : Bytes} {r : Run UInt8}
    (hr : r.IsMaximal (· == sledByte) data.toList) :
    sledMatch r = ⟨r.start, r.start, data.extract r.start r.stop,
      some ("nop_sled_" ++ Text.decimal ((r.stop : Int) - r.start)), none⟩ := by
  have hbytes : r.items.toArray = data.extract r.start r.stop := by
    rw [← Array.toList_inj, hr.items, Array.toList_extract]
  have hlength : ((r.stop : Int) - r.start) = r.length := by
    rw [Run.stop]
    omega
  rw [sledMatch, hbytes, hlength]
  rfl

theorem sledMatch_length (r : Run UInt8) : (sledMatch r).length = r.length := by
  simp [sledMatch, Match.length, Match.inBuffer, Run.length]

/-- The sleds are the maximal stretches of the sled byte of at least the given length, each with all
of its bytes. Between two of them there is another byte. Two loops find them and end after at most two
turns for each byte. -/
theorem sleds_exact (minLength : Int) (data : Bytes) :
    ListsStretches (fun start stop => MaximalStretch (SledAt data) start stop ∧
          minLength ≤ (stop : Int) - start)
        (fun start stop m => m = ⟨start, start, data.extract start stop,
          some ("nop_sled_" ++ Text.decimal ((stop : Int) - start)), none⟩)
        (sleds minLength data) ∧
      (sleds minLength data).Pairwise (fun m n => m.offset + (m.length : Int) < n.offset) ∧
      ∃ found, Gauge.Ends (· == sledByte) (Run.atLeast minLength) data.toList (2 * data.size) found ∧
        sleds minLength data = found.map sledMatch := by
  refine ⟨?_, ?_, ?_⟩
  · rw [← inClass_sledByte]
    apply listsStretches_runs
    · exact fun start stop hwanted => hwanted.1
    · exact fun r hr => (Run.atLeast_iff minLength r).trans (and_iff_right hr.maximal).symm
    · exact fun r hr => sledMatch_eq hr
  · unfold sleds
    rw [List.pairwise_map]
    refine ((runs_apart _ _).filter _).imp ?_
    intro r s hapart
    rw [sledMatch_length]
    change ((r.start : Int) + r.length) < s.start
    rw [Run.stop] at hapart
    omega
  · exact ⟨_, Gauge.ends_runs (· == sledByte) (Run.atLeast minLength) data.toList, rfl⟩

-- The first run is too short, and the end of the buffer closes the last one.
example : (sleds 2 #[0x90, 0x00, 0x90, 0x90, 0x90, 0xCC, 0x90, 0x90]).map (·.offset) = [2, 6] := by
  cbv

end Scan

end CodeAtlas
