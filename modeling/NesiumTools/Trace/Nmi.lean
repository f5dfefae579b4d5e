import NesiumTools.Trace.Fields
import NesiumTools.Trace.Events
import NesiumTools.Trace.Align

/-!
# `diff_nmi_trace.py`

The NMI comparator reads the `NMITRACE|` lines of both traces. The two
emulators name the taken interrupt differently (`nmi_event` from Mesen,
`nmi_take` from NESium); `normalize_event` maps both to `nmi_take` and drops
every other kind but `read` and `write`. A read or write needs both `addr` and
`value`, which are normalised as in the APU tool; an interrupt carries
neither. Events are numbered and compared by `key_of`.
-/

namespace NesiumTools.NmiTrace

open Trace

/-- One comparable event of an NMI trace. -/
structure TraceEvent where
  index : Nat
  ev : String
  addr : Option String
  value : Option String
  raw : String
  fields : PyDict String String
  deriving DecidableEq, Repr

/-- `normalize_event(src, ev)`: the canonical kind, or `None` for a kind the
comparison leaves out. -/
def normalizeEvent (src ev : String) : Option String :=
  if ev ∈ ["read", "write"] then some ev
  else if src = "mesen" ∧ ev = "nmi_event" then some "nmi_take"
  else if src = "nesium" ∧ ev = "nmi_take" then some "nmi_take"
  else none

/-- One pass of the loop of `parse_events` over `line`, with `index =
len(events)`: the event the line adds, if any. -/
def lineEvent (line : String) (index : Nat) : Except PyError (Option TraceEvent) :=
  if !pyStartsWith line "NMITRACE|" then .ok none else
  let fields := parseFields line
  let src := (fields.get "src").getD ""
  let ev := (fields.get "ev").getD ""
  match normalizeEvent src ev with
  | none => .ok none
  | some normEv =>
    if normEv ∈ ["read", "write"] then
      match fields.get "addr", fields.get "value" with
      | some addr, some value => do
        let addr ← normalizeHex addr 4
        let value ← normalizeHex value 2
        pure (some ⟨index, normEv, some addr, some value, rstripNewline line, fields⟩)
      | _, _ => .ok none
    else .ok (some ⟨index, normEv, none, none, rstripNewline line, fields⟩)

/-- `parse_events(path)` over the lines of the file. -/
def parseEvents (lines : List String) : Except PyError (List TraceEvent) :=
  numberEvents lineEvent [] lines

/-- A line `parse_events` turns into an event or fails on: tagged
`NMITRACE|`, of a kind `normalize_event` keeps, and with `addr` and `value`
when it is a read or a write. -/
def accepted (line : String) : Bool :=
  let fields := parseFields line
  pyStartsWith line "NMITRACE|" &&
    match normalizeEvent ((fields.get "src").getD "") ((fields.get "ev").getD "") with
    | none => false
    | some normEv =>
      !decide (normEv ∈ ["read", "write"]) ||
        ((fields.get "addr").isSome && (fields.get "value").isSome)

theorem lineEvent_rejected {line : String} (index : Nat) (rejected : accepted line = false) :
    lineEvent line index = .ok none := by
  simp only [accepted] at rejected
  simp only [lineEvent]
  by_cases tagged : pyStartsWith line "NMITRACE|"
  · simp only [tagged, Bool.true_and, Bool.not_true, Bool.false_eq_true, if_false] at rejected ⊢
    split at rejected
    · rename_i kind; simp only [kind]
    · rename_i normEv kind
      by_cases readWrite : normEv ∈ ["read", "write"]
      · rcases hA : (parseFields line).get "addr" with _ | addr <;>
          rcases hV : (parseFields line).get "value" with _ | value <;>
          simp_all
      · simp [readWrite] at rejected
  · simp [tagged]

theorem lineEvent_accepted {line : String} (index : Nat) (yes : accepted line) :
    lineEvent line index ≠ .ok none := by
  simp only [accepted, Bool.and_eq_true] at yes
  obtain ⟨tagged, kept⟩ := yes
  simp only [lineEvent, tagged, Bool.not_true, Bool.false_eq_true, if_false]
  split at kept
  · cases kept
  · rename_i normEv kind
    split
    · rename_i readWrite
      rcases hA : (parseFields line).get "addr" with _ | addr <;>
        rcases hV : (parseFields line).get "value" with _ | value <;>
        simp [readWrite, hA, hV] at kept ⊢
      cases normalizeHex addr 4 <;> cases normalizeHex value 2 <;>
        simp [bind, Except.bind, pure, Except.pure]
    · simp

theorem lineEvent_index {line : String} {index : Nat} {e : TraceEvent}
    (read : lineEvent line index = .ok (some e)) : e.index = index := by
  simp only [lineEvent] at read
  split_ifs at read
  · simp at read
  split at read
  · simp at read
  split_ifs at read
  · split at read
    · simp only [bind, Except.bind, pure, Except.pure] at read
      split at read
      · cases read
      · split at read
        · cases read
        · cases read; rfl
    · simp at read
  · cases read; rfl

/-! ## Comparison -/

/-- `key_of(event)`. -/
def keyOf (event : TraceEvent) : String × Option String × Option String :=
  (event.ev, event.addr, event.value)

/-- `compare_events(mesen_events, nesium_events, context)`. -/
def compareEvents (mesenEvents nesiumEvents : List TraceEvent) (context : Int) :
    Run (CompareLine (String × Option String × Option String) TraceEvent) Nat :=
  compareEventsBy keyOf mesenEvents nesiumEvents context

/-- The parsed command line. -/
structure Args where
  mesen : String
  nesium : String
  context : Int := 4

/-- `main()`: parse both traces, print their sizes, compare. -/
def main (args : Args) (fs : TextFs) :
    Run (CompareLine (String × Option String × Option String) TraceEvent) Nat := do
  let mesenEvents ← Run.lift (readLines fs args.mesen >>= parseEvents)
  let nesiumEvents ← Run.lift (readLines fs args.nesium >>= parseEvents)
  Run.print (.loaded mesenEvents.length nesiumEvents.length)
  compareEvents mesenEvents nesiumEvents args.context

/-- When both traces parse, `main` returns `0` on equal key sequences and `1`
otherwise. -/
theorem main_result {args : Args} {fs : TextFs} {ms ns : List TraceEvent}
    (mesen : (readLines fs args.mesen >>= parseEvents) = .ok ms)
    (nesium : (readLines fs args.nesium >>= parseEvents) = .ok ns) :
    (main args fs).result = .ok (if ms.map keyOf = ns.map keyOf then 0 else 1) := by
  simp only [main, mesen, nesium, Run.lift_ok_bind, Run.print_bind]
  exact compareEventsBy_result _ ms ns args.context

end NesiumTools.NmiTrace
