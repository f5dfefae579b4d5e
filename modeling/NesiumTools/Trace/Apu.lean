import NesiumTools.Trace.Fields
import NesiumTools.Trace.Events
import NesiumTools.Trace.Align

/-!
# `diff_apu_trace.py`

The APU comparator reads the `APUTRACE|` lines of both traces, keeps the
events of an allowed kind (`read`, `write`, and `read_mem` on request) that
carry an address, normalises `addr` and `value` to four and two hexadecimal
digits, numbers the events, and compares the `(ev, addr, value)` keys by
position.

`lineEvent` is the body of the loop of `parse_events` for one line; its three
facts (`lineEvent_rejected`, `lineEvent_accepted`, `lineEvent_index`) are what
the numbering results of `Trace.numberEvents` need.
-/

namespace NesiumTools.ApuTrace

open Trace

/-- One comparable event of an APU trace. -/
structure TraceEvent where
  index : Nat
  ev : String
  addr : String
  value : String
  raw : String
  fields : PyDict String String
  deriving DecidableEq, Repr

/-- `allowed_events`. -/
def allowedEvents (includeReadMem : Bool) : List String :=
  if includeReadMem then ["read", "write", "read_mem"] else ["read", "write"]

/-- One pass of the loop of `parse_events` over `line`, with `index =
len(events)`: the event the line adds, if any. -/
def lineEvent (includeReadMem : Bool) (line : String) (index : Nat) :
    Except PyError (Option TraceEvent) :=
  if !pyStartsWith line "APUTRACE|" then .ok none else
  let fields := parseFields line
  let ev := (fields.get "ev").getD ""
  if ev ∉ allowedEvents includeReadMem then .ok none else
  let addrRaw := (fields.get "addr").getD ""
  if addrRaw = "" then .ok none else do
  let addr ← normalizeHex addrRaw 4
  let valueRaw := (fields.get "value").getD "00"
  let value ← normalizeHex valueRaw 2
  pure (some ⟨index, ev, addr, value, rstripNewline line, fields⟩)

/-- `parse_events(path, include_read_mem)` over the lines of the file. -/
def parseEvents (lines : List String) (includeReadMem : Bool) :
    Except PyError (List TraceEvent) :=
  numberEvents (lineEvent includeReadMem) [] lines

/-- A malformed address is not read as absent: `int("zz", 16)` raises, and the
`ValueError` leaves `parse_events`. -/
theorem parseEvents_malformed_addr :
    parseEvents ["APUTRACE|ev=write|addr=zz|value=00\n"] false =
      .error (.invalidLiteral 16 "zz") := by
  rfl

/-- A line `parse_events` turns into an event or fails on: tagged
`APUTRACE|`, of an allowed kind, with a non-empty address. -/
def accepted (includeReadMem : Bool) (line : String) : Bool :=
  pyStartsWith line "APUTRACE|" &&
    decide (((parseFields line).get "ev").getD "" ∈ allowedEvents includeReadMem) &&
    ((parseFields line).get "addr").getD "" != ""

theorem lineEvent_rejected {includeReadMem : Bool} {line : String} (index : Nat)
    (rejected : accepted includeReadMem line = false) :
    lineEvent includeReadMem line index = .ok none := by
  unfold accepted at rejected
  unfold lineEvent
  by_cases tagged : pyStartsWith line "APUTRACE|" <;> simp_all

theorem lineEvent_accepted {includeReadMem : Bool} {line : String} (index : Nat)
    (yes : accepted includeReadMem line) : lineEvent includeReadMem line index ≠ .ok none := by
  simp only [accepted, Bool.and_eq_true, decide_eq_true_eq, bne_iff_ne, ne_eq] at yes
  obtain ⟨⟨tagged, allowed⟩, addr⟩ := yes
  simp only [lineEvent, tagged, allowed, addr, Bool.not_true, Bool.false_eq_true, if_false,
    not_true_eq_false]
  cases normalizeHex _ 4 <;> cases normalizeHex _ 2 <;> simp [bind, Except.bind, pure, Except.pure]

theorem lineEvent_index {includeReadMem : Bool} {line : String} {index : Nat} {e : TraceEvent}
    (read : lineEvent includeReadMem line index = .ok (some e)) : e.index = index := by
  simp only [lineEvent] at read
  split_ifs at read <;> try (simp at read; done)
  simp only [bind, Except.bind, pure, Except.pure] at read
  split at read
  · cases read
  · split at read
    · cases read
    · cases read; rfl

/-! ## Comparison -/

/-- The compared key `(ev, addr, value)`. -/
def eventKey (e : TraceEvent) : String × String × String := (e.ev, e.addr, e.value)

/-- `compare_events(mesen_events, nesium_events, context)`. -/
def compareEvents (mesenEvents nesiumEvents : List TraceEvent) (context : Int) :
    Run (CompareLine (String × String × String) TraceEvent) Nat :=
  compareEventsBy eventKey mesenEvents nesiumEvents context

/-- The parsed command line. -/
structure Args where
  mesen : String
  nesium : String
  context : Int := 3
  includeReadMem : Bool := false

/-- `main()`: parse both traces, print their sizes, compare. -/
def main (args : Args) (fs : TextFs) :
    Run (CompareLine (String × String × String) TraceEvent) Nat := do
  let mesenEvents ← Run.lift (readLines fs args.mesen >>= (parseEvents · args.includeReadMem))
  let nesiumEvents ← Run.lift (readLines fs args.nesium >>= (parseEvents · args.includeReadMem))
  Run.print (.loaded mesenEvents.length nesiumEvents.length)
  compareEvents mesenEvents nesiumEvents args.context

/-- When both traces parse, `main` returns `0` on equal key sequences and `1`
otherwise. -/
theorem main_result {args : Args} {fs : TextFs} {ms ns : List TraceEvent}
    (mesen : (readLines fs args.mesen >>= (parseEvents · args.includeReadMem)) = .ok ms)
    (nesium : (readLines fs args.nesium >>= (parseEvents · args.includeReadMem)) = .ok ns) :
    (main args fs).result = .ok (if ms.map eventKey = ns.map eventKey then 0 else 1) := by
  simp only [main, mesen, nesium, Run.lift_ok_bind, Run.print_bind]
  exact compareEventsBy_result _ ms ns args.context

end NesiumTools.ApuTrace
