/-!
# Tables

A table is a finite map that remembers the order in which its keys first came in. Putting a key
again changes its value and not its place. The keys of a table are pairwise distinct, which is
part of the type.
-/

set_option autoImplicit false

namespace CodeAtlas

structure Table (κ ν : Type) where
  entries : List (κ × ν)
  nodup : (entries.map Prod.fst).Nodup
  deriving DecidableEq

namespace Table

variable {κ ν μ : Type}

def empty : Table κ ν := ⟨[], List.Pairwise.nil⟩

instance : Inhabited (Table κ ν) := ⟨empty⟩

def keys (t : Table κ ν) : List κ := t.entries.map Prod.fst

def values (t : Table κ ν) : List ν := t.entries.map Prod.snd

def size (t : Table κ ν) : Nat := t.entries.length

def map (f : ν → μ) (t : Table κ ν) : Table κ μ where
  entries := t.entries.map fun e => (e.1, f e.2)
  nodup := by
    have hkeys : (t.entries.map fun e => (e.1, f e.2)).map Prod.fst = t.entries.map Prod.fst := by
      simp [Function.comp_def]
    exact hkeys ▸ t.nodup

variable [DecidableEq κ]

def get? (t : Table κ ν) (k : κ) : Option ν := (t.entries.find? (·.1 = k)).map Prod.snd

def contains (t : Table κ ν) (k : κ) : Bool := t.entries.any (·.1 = k)

def putEntry (k : κ) (v : ν) : List (κ × ν) → List (κ × ν)
  | [] => [(k, v)]
  | e :: rest => if e.1 = k then (k, v) :: rest else e :: putEntry k v rest

theorem keys_putEntry (k : κ) (v : ν) (es : List (κ × ν)) :
    (putEntry k v es).map Prod.fst =
      if k ∈ es.map Prod.fst then es.map Prod.fst else es.map Prod.fst ++ [k] := by
  induction es with
  | nil => simp [putEntry]
  | cons e rest ih =>
    by_cases h : e.1 = k
    · simp [putEntry, h]
    · have hne : k ≠ e.1 := fun heq => h heq.symm
      by_cases hm : k ∈ rest.map Prod.fst
      · simp [putEntry, h, ih, hm]
      · simp [putEntry, h, ih, hm, hne]

theorem nodup_putEntry (k : κ) (v : ν) {es : List (κ × ν)} (h : (es.map Prod.fst).Nodup) :
    ((putEntry k v es).map Prod.fst).Nodup := by
  rw [keys_putEntry]
  split
  · exact h
  · next hm => exact List.nodup_append.mpr ⟨h, by simp, by rintro a ha b hb rfl; simp_all⟩

/-- The table with a value for the key: in the key's place if it has one, otherwise at the end. -/
def put (t : Table κ ν) (k : κ) (v : ν) : Table κ ν :=
  ⟨putEntry k v t.entries, nodup_putEntry k v t.nodup⟩

def claim (t : Table κ ν) (k : κ) (v : ν) : Table κ ν :=
  if t.contains k then t else t.put k v

def file (t : Table κ (List ν)) (k : κ) (v : ν) : Table κ (List ν) :=
  t.put k ((t.get? k).getD [] ++ [v])

/-- The table in which every key has its last value and the place of its first. -/
def ofList (es : List (κ × ν)) : Table κ ν := es.foldl (fun t e => t.put e.1 e.2) empty

/-- The table in which every key has its first value. -/
def firstClaims (es : List (κ × ν)) : Table κ ν := es.foldl (fun t e => t.claim e.1 e.2) empty

/-- The items grouped by key, the groups in order of their first item. -/
def group (es : List (κ × ν)) : Table κ (List ν) := es.foldl (fun t e => t.file e.1 e.2) empty

end Table

end CodeAtlas
