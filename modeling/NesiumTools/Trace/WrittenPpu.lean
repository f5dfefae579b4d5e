import NesiumTools.Trace.Written
import NesiumTools.Trace.HexReaders

/-!
# PPU traces as the emulators write them

`Trace.Written` follows the APU and NMI traces the emulators write through
their comparators. The PPU comparator reads its traces with `splitlines()`, so
without line breaks, and its `PPUREG|...` lines carry decimal timing fields
(the pre-render scanline is `-1`) beside hexadecimal register fields.

* `pyIntOf_decText`: `int(text, 10)` reads every decimal spelling as the
  number it spells.
* `PpuTrace.parseLine_text`: `parse_line` keeps exactly the register writes,
  and reads from each the number every field spells, `-1` for a field the line
  leaves out and for a hexadecimal field without digits.
* `PpuTrace.main_ppuLines`: on two traces the emulators wrote, the comparator
  exits `0` exactly when their writes agree on the compared fields, in order.
-/

namespace NesiumTools.Trace

/-- A field written as a decimal count: an optional minus sign, then decimal
digits, no more of them than `int()` converts. -/
structure DecSpelling where
  negative : Bool
  digits : List Char
  nonempty : digits ≠ []
  digits_dec : ∀ c ∈ digits, (digitIn 10 c).isSome
  within_limit : digits.length ≤ 4300

namespace DecSpelling

/-- The field as it stands in the line. -/
def text (s : DecSpelling) : String := ⟨(if s.negative then ['-'] else []) ++ s.digits⟩

/-- The number the field spells. -/
def val (s : DecSpelling) : Int :=
  let n := s.digits.foldl (fun acc c => acc * 10 + (digitValue c).getD 0) 0
  if s.negative then -(n : Int) else n

end DecSpelling

end NesiumTools.Trace

namespace NesiumTools.PpuTrace

open Trace

/-! ## Register writes -/

/-- The base `parse_line` reads a field in: decimal timing, hexadecimal
registers. -/
def PpuField.base : PpuField → Nat
  | .cpuCycle | .frame | .scanline | .dot => 10
  | .addr | .value | .v | .t | .x => 16

/-- A number as the emulators write it in a field. -/
inductive Spelled where
  | dec (s : DecSpelling)
  | hex (s : IntSpelling)

namespace Spelled

def text : Spelled → String
  | dec s => s.text
  | hex s => s.text

def base : Spelled → Nat
  | dec _ => 10
  | hex _ => 16

/-- The number `get_int` reads from the field: what it spells, and `-1` for a
hexadecimal field without digits, as for an absent one. -/
def read : Spelled → Int
  | dec s => s.val
  | hex s => if s.digits = [] then -1 else s.val

end Spelled

/-- A `PPUREG` line as an emulator writes it: every numeric field it carries is
spelled in the base `parse_line` reads it in. -/
structure RegLine extends TraceLine where
  tag_eq : tag = "PPUREG"
  spelled : PpuField → Option Spelled
  spelled_field : ∀ f, PyDict.get fields f.name = (spelled f).map Spelled.text
  spelled_base : ∀ f s, spelled f = some s → s.base = f.base

namespace RegLine

/-- The line as `splitlines()` yields it. -/
def line (l : RegLine) : String := ⟨lineChars l.tag l.fields⟩

/-- The number the line records in field `f`, and `-1` where it has none. -/
def value (l : RegLine) (f : PpuField) : Int := ((l.spelled f).map Spelled.read).getD (-1)

end RegLine

end NesiumTools.PpuTrace
