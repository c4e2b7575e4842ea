import CodeAtlas.Image.Export
import CodeAtlas.Proofs.Image.Header

/-!
# Headers that are used again

Imports and exports can be read with headers that are known already. A reader of imports expects a
width, a reader of exports does not, and the headers may have been parsed with any expectation or
none. All of these readings agree, on every buffer: an expectation does not change the headers, it
only leaves out those of another width.
-/

set_option autoImplicit false

namespace CodeAtlas.Image

namespace Header

theorem parse?_some_eq_some_iff {b : Bitness} {data : Bytes} {h : Header} :
    parse? (some b) data = some h ↔ parse? none data = some h ∧ h.bitness = b := by
  rw [parse?_expected, Option.filter_eq_some_iff, decide_eq_true_eq]

theorem parse?_none_of_parse? {expected : Option Bitness} {data : Bytes} {h : Header}
    (hparse : parse? expected data = some h) : parse? none data = some h := by
  cases expected with
  | none => exact hparse
  | some b => exact (parse?_some_eq_some_iff.mp hparse).1

end Header

variable (data : Bytes) (expected : Option Bitness)

theorem imports_parse? (b : Bitness) :
    imports data b (Header.parse? expected data) = imports data b none := by
  cases hparse : Header.parse? expected data with
  | none => rfl
  | some h =>
    -- The known headers are those of the buffer. They are of the width, or a fresh reading that
    -- expects the width has none.
    have hbuffer := Header.parse?_none_of_parse? hparse
    by_cases hwidth : h.bitness = b
    · have hfresh := Header.parse?_some_eq_some_iff.mpr ⟨hbuffer, hwidth⟩
      simp only [imports, headerFor?, Option.orElse_some, Option.orElse_none, hfresh]
    · have hfresh : Header.parse? (some b) data = none := by
        rw [Header.parse?_expected, hbuffer]
        exact Option.filter_some_neg (by simpa using hwidth)
      simp only [imports, headerFor?, Option.orElse_some, Option.orElse_none, hfresh, if_neg hwidth]

theorem exports_parse? : exports data (Header.parse? expected data) = exports data none := by
  cases hparse : Header.parse? expected data with
  | none => rfl
  | some h =>
    have hbuffer := Header.parse?_none_of_parse? hparse
    simp only [exports, headerFor?, Option.orElse_some, Option.orElse_none, hbuffer]

/-- Headers that were parsed once serve all readers: parsing for a width gives the headers of the
buffer if they have that width and nothing otherwise, and tables that are read with them, or without
any where there are none, are the tables that are read from the buffer alone. -/
theorem header_reusable (b : Bitness) :
    (∀ h, Header.parse? (some b) data = some h ↔
      Header.parse? none data = some h ∧ h.bitness = b) ∧
    ∀ expected, imports data b (Header.parse? expected data) = imports data b none ∧
      exports data (Header.parse? expected data) = exports data none :=
  ⟨fun _ => Header.parse?_some_eq_some_iff,
    fun expected => ⟨imports_parse? data expected b, exports_parse? data expected⟩⟩

end CodeAtlas.Image
