set_option autoImplicit false

namespace CodeAtlas

variable {α : Type}

def dropRepeats : List Int → List Int
  | [] => []
  | a :: rest =>
    match dropRepeats rest with
    | [] => [a]
    | b :: others => if a = b then b :: others else a :: b :: others

def ascending (xs : List Int) : List Int := dropRepeats (xs.mergeSort fun a b => decide (a ≤ b))

/-- The list in ascending order of a key; elements with equal keys keep their order. -/
def sortBy (key : α → Int) (xs : List α) : List α := xs.mergeSort fun a b => decide (key a ≤ key b)

/-- The values at `count` indices from `index` on, up to the first that cannot be read. -/
def cellsFrom (read : Nat → Option α) (index : Nat) : Nat → List α
  | 0 => []
  | count + 1 =>
    match read index with
    | none => []
    | some a => a :: cellsFrom read (index + 1) count

def cells (read : Nat → Option α) (count : Nat) : List α := cellsFrom read 0 count

structure Run (α : Type) where
  start : Nat
  items : List α
  deriving Repr, DecidableEq

namespace Run

def length (r : Run α) : Nat := r.items.length

def stop (r : Run α) : Nat := r.start + r.length

end Run

/-- The maximal runs of a list whose first element stands at `position`. -/
def runsFrom (p : α → Bool) (position : Nat) : List α → List (Run α)
  | [] => []
  | a :: rest =>
    if p a then
      ⟨position, a :: rest.takeWhile p⟩ ::
        runsFrom p (position + (rest.takeWhile p).length + 1) (rest.dropWhile p)
    else runsFrom p (position + 1) rest
termination_by xs => xs.length
decreasing_by
  · exact Nat.lt_succ_of_le (List.dropWhile_suffix p).length_le
  · simp

def runs (p : α → Bool) (xs : List α) : List (Run α) := runsFrom p 0 xs

end CodeAtlas
