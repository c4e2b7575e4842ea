import CodeAtlas.Proofs.Reference
import CodeAtlas.Proofs.Sequence

/-!
# References read from both ends

References are kept under their sources. Those to a target are found by going through the whole
table, in the order in which the sources came in, or once for all targets in an index, which takes the
sources in ascending order. Both find every reference as often as it is kept, however many an
instruction has.
-/

set_option autoImplicit false

namespace CodeAtlas.References

def Keyed (refs : References) : Prop := ∀ a rs, refs.get? a = some rs → ∀ r ∈ rs, r.source = a

theorem build_keyed (base : Int) (wanted : Bool) (stream : Stream) :
    (build base wanted stream).Keyed := by
  intro a rs hrs r hr
  rw [← outgoing_of_get? hrs, mem_outgoing_build] at hr
  exact hr.1

theorem Keyed.outgoing_eq {refs : References} (h : refs.Keyed) (s : Int) :
    refs.outgoing s = (toList refs).filter (·.source = s) := by
  have hentries : ∀ e ∈ refs.entries, ∀ r ∈ e.2, r.source = e.1 := fun e he =>
    h e.1 e.2 ((refs.get?_eq_some_iff e.1 e.2).mpr he)
  exact (Table.filter_flatten_values s refs.nodup hentries).symm

theorem flatMap_outgoing (refs : References) : refs.keys.flatMap refs.outgoing = toList refs :=
  refs.flatMap_keys

/-! ## The index -/

theorem reverseIndex_get? (refs : References) (t : Int) :
    ((reverseIndex refs).get? t).getD [] = (ascending refs.keys).flatMap fun s =>
      ((refs.outgoing s).filter (·.target = t)).map fun _ => s := by
  rw [reverseIndex, Table.get?_group, List.filter_flatMap, List.map_flatMap]
  apply List.flatMap_congr
  intro s _
  rw [List.filter_map, List.map_map]
  rfl

theorem ascending_keys_perm (refs : References) : (ascending refs.keys).Perm refs.keys := by
  have hnodup : (ascending refs.keys).Nodup := (ascending_pairwise refs.keys).imp Int.ne_of_lt
  exact (List.perm_ext_iff_of_nodup hnodup refs.nodup).mpr fun a => mem_ascending a refs.keys

theorem reverseIndex_pairwise (refs : References) (t : Int) :
    (((reverseIndex refs).get? t).getD []).Pairwise (· ≤ ·) := by
  rw [reverseIndex_get?, List.pairwise_flatMap]
  constructor
  · intro s _
    rw [List.pairwise_map]
    exact List.pairwise_of_forall fun _ _ => Int.le_refl s
  · refine (ascending_pairwise refs.keys).imp ?_
    intro a c hlt x hx y hy
    obtain ⟨_, _, rfl⟩ := List.mem_map.mp hx
    obtain ⟨_, _, rfl⟩ := List.mem_map.mp hy
    exact Int.le_of_lt hlt

/-- The index lists the sources of the references that the linear search finds. -/
theorem Keyed.reverseIndex_perm {refs : References} (h : refs.Keyed) (t : Int) :
    (((reverseIndex refs).get? t).getD []).Perm ((refs.incoming t).map (·.source)) := by
  have hsource : ∀ s, ((refs.outgoing s).filter (·.target = t)).map (fun _ => s) =
      ((refs.outgoing s).filter (·.target = t)).map (·.source) := by
    intro s
    apply List.map_congr_left
    intro r hr
    have hr := List.mem_of_mem_filter hr
    rw [h.outgoing_eq, List.mem_filter, decide_eq_true_eq] at hr
    exact hr.2.symm
  calc
    ((reverseIndex refs).get? t).getD []
      = (ascending refs.keys).flatMap fun s =>
          ((refs.outgoing s).filter (·.target = t)).map (·.source) := by
        rw [reverseIndex_get?]
        exact congrArg (List.flatMap · _) (funext hsource)
    List.Perm _ (refs.keys.flatMap fun s =>
          ((refs.outgoing s).filter (·.target = t)).map (·.source)) :=
        (ascending_keys_perm refs).flatMap_right _
    _ = (refs.incoming t).map (·.source) := by
        rw [incoming, ← flatMap_outgoing, List.filter_flatMap, List.map_flatMap]

theorem mem_keys_reverseIndex (refs : References) (t : Int) :
    t ∈ (reverseIndex refs).keys ↔ ∃ r ∈ toList refs, r.target = t := by
  rw [reverseIndex, Table.mem_keys_group, ← flatMap_outgoing]
  simp only [List.mem_flatMap, List.mem_map, mem_ascending]
  constructor
  · rintro ⟨e, ⟨s, hs, r, hr, rfl⟩, rfl⟩
    exact ⟨r, ⟨s, hs, hr⟩, rfl⟩
  · rintro ⟨r, ⟨s, hs, hr⟩, rfl⟩
    exact ⟨(r.target, s), ⟨s, hs, r, hr, rfl⟩, rfl⟩

/-! ## Both ends -/

structure Transposed (refs : References) : Prop where
  index_ascending : ∀ t, (((reverseIndex refs).get? t).getD []).Pairwise (· ≤ ·)
  index_perm : ∀ t, (((reverseIndex refs).get? t).getD []).Perm ((refs.incoming t).map (·.source))
  index_keys : ∀ t, t ∈ (reverseIndex refs).keys ↔ ∃ r ∈ toList refs, r.target = t
  between : ∀ s t, (refs.outgoing s).filter (·.target = t) =
    (refs.incoming t).filter (·.source = s)

/-- The references of a stream stand under their sources, and wherever they do, looking up by source
and by target are transposes of each other. -/
theorem keyed_transposed :
    (∀ base wanted stream, (build base wanted stream).Keyed) ∧
      ∀ refs : References, refs.Keyed → Transposed refs := by
  refine ⟨build_keyed, fun refs h => ?_⟩
  constructor
  case index_ascending => exact reverseIndex_pairwise refs
  case index_perm => exact h.reverseIndex_perm
  case index_keys => exact mem_keys_reverseIndex refs
  case between =>
    intro s t
    rw [h.outgoing_eq, incoming, List.filter_comm]

/-- The source that came in first is the higher one, and refers to one target twice. -/
def crossing : References :=
  ⟨[(32, [⟨32, 64, .addressLoad, none⟩, ⟨32, 48, .call, none⟩, ⟨32, 64, .jump, none⟩]), (40, []),
    (16, [⟨16, 64, .call, none⟩])], by decide⟩

theorem keyed_transposed_crossing : crossing.Keyed ∧ Transposed crossing ∧
    (reverseIndex crossing).get? 64 = some [16, 32, 32] ∧
    (incoming crossing 64).map (·.source) = [32, 32, 16] := by
  have hkeyed : crossing.Keyed := by
    intro a rs hrs
    rw [Table.get?_eq_some_iff] at hrs
    have hall : ∀ e ∈ crossing.entries, ∀ r ∈ e.2, r.source = e.1 := by decide
    exact hall (a, rs) hrs
  have hsources : ascending crossing.keys = [16, 32, 40] := by
    apply (ascending_pairwise crossing.keys).eq_of_mem_iff (by decide)
    intro a
    rw [mem_ascending]
    change a ∈ [32, 40, 16] ↔ a ∈ [16, 32, 40]
    simp only [List.mem_cons, List.not_mem_nil, or_false]
    omega
  have hindex : (reverseIndex crossing).get? 64 = some [16, 32, 32] := by
    rw [reverseIndex, hsources]
    decide
  exact ⟨hkeyed, keyed_transposed.2 crossing hkeyed, hindex, by decide⟩

end CodeAtlas.References
