import NesiumTools.Trace.Fields
import NesiumTools.Trace.Ppu

/-!
# Two readers of a hexadecimal field

The PPU comparator reads a hexadecimal field with `get_int(name, 16)`:
`int(v, 16)` of the raw field, and `-1` when the field is absent or `int`
raises. The APU and NMI parsers read it with `normalize_hex`, which strips and
lower-cases the field, drops one `0x`, writes zeros for what is left empty and
otherwise formats `int(value, 16)`.

On the fields the emulators write, whose blanks `int()` skips
(`IntSpelling`), the two read one number from every spelling with a digit
(`getInt_text`, `normalizeHex_of_digits`) and part on a field without one: an
empty field or a bare `0x` is `-1` to `get_int`, as an absent field is, and
zeros to `normalize_hex` (`getInt_of_blank`, `normalizeHex_of_blank`).
-/

namespace NesiumTools.Trace

open PpuTrace

section Readers

variable {fields : PyDict String String} {name : String}

/-! ## `get_int(name, 16)` -/

theorem getInt_text {s : IntSpelling} (field : fields.get name = some s.text)
    (nonempty : s.digits ≠ []) : getInt fields name 16 = s.val := by
  simp only [getInt, field, pyIntOf_text s nonempty]

/-- Without a digit, `int(field, 16)` raises: `get_int` reads an empty field
and a bare prefix as it reads an absent one. -/
theorem getInt_of_blank {s : IntSpelling} (field : fields.get name = some s.text)
    (blank : s.digits = []) : getInt fields name 16 = -1 := by
  have core := stripInt_text s
  rw [blank, List.append_nil] at core
  have raises : pyIntOf s.text 16 = .error (.invalidLiteral 16 s.text) := by
    simp only [pyIntOf, core, land_pred_sixteen, ne_eq, not_true_eq_false, false_and, if_false]
    rcases s.prefix_form with h | h | h <;> rw [h] <;> rfl
  simp only [getInt, field, raises]

end Readers

/-! ## `normalize_hex` -/

theorem normalizeHex_of_blank (s : HexSpelling) (blank : s.digits = []) (width : Nat) :
    normalizeHex s.text width = .ok ⟨List.replicate width '0'⟩ := by
  simp only [normalizeHex, unprefixed_text, blank, List.map_nil]
  rfl

/-! ## The two readings compared -/

/-- `get_int(name, 16)` of the PPU comparator and `normalize_hex` of the APU
and NMI parsers read one number from every field the emulators write with a
digit, at every width; a field with no digit, empty or a bare `0x`, is `-1` to
the first and zeros to the second. -/
theorem getInt_normalizeHex :
    (∀ (fields : PyDict String String) (name : String) (s : IntSpelling) (width : Nat),
      fields.get name = some s.text → s.digits ≠ [] →
        getInt fields name 16 = s.val ∧
          normalizeHex s.text width = .ok ⟨zeroPadded width (hexNumeral s.val)⟩) ∧
    ∀ (fields : PyDict String String) (name : String) (s : IntSpelling) (width : Nat),
      fields.get name = some s.text → s.digits = [] →
        getInt fields name 16 = -1 ∧ normalizeHex s.text width = .ok ⟨List.replicate width '0'⟩ :=
  ⟨fun _ _ s width field nonempty =>
      ⟨getInt_text field nonempty, normalizeHex_of_digits s.toHexSpelling nonempty width⟩,
    fun _ _ s width field blank =>
      ⟨getInt_of_blank field blank, normalizeHex_of_blank s.toHexSpelling blank width⟩⟩

/-- An empty field and a bare prefix: `get_int` reads `-1`, `normalize_hex`
zeros. -/
theorem getInt_normalizeHex_edges :
    getInt [("addr", "")] "addr" 16 = -1 ∧ normalizeHex "" 4 = .ok "0000" ∧
      getInt [("addr", "0x")] "addr" 16 = -1 ∧ normalizeHex "0x" 4 = .ok "0000" :=
  ⟨rfl, rfl, rfl, rfl⟩

end NesiumTools.Trace
