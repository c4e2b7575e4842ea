import CodeAtlas.Scan
import Mathlib.Data.List.TakeWhile

set_option autoImplicit false

namespace CodeAtlas

theorem runsFrom_items {α : Type} {p : α → Bool} {position : Nat} {xs : List α} {r : Run α}
    (hr : r ∈ runsFrom p position xs) : ∀ a ∈ r.items, p a = true := by
  fun_induction runsFrom p position xs with
  | case1 => cases hr
  | case2 position a rest ha ih =>
    rcases List.mem_cons.mp hr with rfl | hr
    · intro b hb
      rcases List.mem_cons.mp hb with rfl | hb
      · exact ha
      · exact List.mem_takeWhile_imp hb
    · exact ih hr
  | case3 position a rest _ ih => exact ih hr

namespace Bytes

def strictChar? (b : UInt8) : Option Char :=
  if b < 0x80 then some (Char.ofNat b.toNat) else none

def strictText? (bs : List UInt8) : Option String := (bs.mapM strictChar?).map String.ofList

theorem strictChar?_eq {b : UInt8} (h : b < 0x80) : strictChar? b = some (asciiChar b) := by
  rw [strictChar?, asciiChar, if_pos h, if_pos h]

theorem mapM_strictChar? {bs : List UInt8} (h : ∀ b ∈ bs, b < 0x80) :
    bs.mapM strictChar? = some (bs.map asciiChar) := by
  induction bs with
  | nil => rfl
  | cons b rest ih =>
    rw [List.mapM_cons, strictChar?_eq (h b List.mem_cons_self),
      ih fun c hc => h c (List.mem_cons_of_mem b hc)]
    rfl

theorem strictText?_eq {bs : List UInt8} (h : ∀ b ∈ bs, b < 0x80) :
    strictText? bs = some (asciiText bs) := by
  rw [strictText?, mapM_strictChar? h, asciiText, Option.map_some]

theorem toNat_asciiChar {b : UInt8} (h : b < 0x80) : (asciiChar b).toNat = b.toNat := by
  have hsmall : b.toNat < 0x80 := UInt8.lt_iff_toNat_lt.mp h
  have hvalid : b.toNat.isValidChar := Or.inl (by omega)
  rw [asciiChar, if_pos h, Char.ofNat, dif_pos hvalid]
  rfl

end Bytes

namespace Scan

theorem isText_lt {b : UInt8} (h : isText b = true) : b < 0x80 := by
  simp only [isText, isPrintable, Bool.or_eq_true, Bool.and_eq_true, decide_eq_true_eq,
    beq_iff_eq, UInt8.le_iff_toNat_le] at h
  rw [UInt8.lt_iff_toNat_lt]
  rcases h with ((⟨_, h⟩ | rfl) | rfl) | rfl
  · exact Nat.lt_of_le_of_lt h (by decide)
  all_goals decide

theorem strings_strict {minLength : Int} {data : Bytes} {m : Match}
    (hm : m ∈ strings minLength data) : Bytes.strictText? m.bytes.toList = m.text := by
  obtain ⟨r, hr, rfl⟩ := List.mem_map.mp hm
  have hitems := runsFrom_items (List.mem_filter.mp hr).1
  exact Bytes.strictText?_eq fun b hb => isText_lt (hitems b hb)

end Scan

end CodeAtlas
