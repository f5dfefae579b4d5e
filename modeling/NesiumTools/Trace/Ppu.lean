import NesiumTools.Py.Str
import NesiumTools.Trace.Events
import NesiumTools.Trace.Align

/-!
# `compare_ppu_reg_traces.py`

The PPU comparator keeps the `PPUREG|` lines whose `ev` is `write`, reads
their numeric fields (decimal timing, hexadecimal address, value and internal
registers; `-1` when absent or malformed), and compares the two write
sequences on a chosen set of fields, again by position.

The fields are chosen by name on the command line and validated by `main`
before any comparison; `PpuField` is the set of valid names, so
`first_mismatch` only ever sees fields `event_field_value` can read. Comparing
on `F` is comparing the `F`-projections of the events (`anyFieldDiffers_eq`),
so `firstMismatch_spec` reads off `Trace.firstDiffering_eq_none` and
`Trace.firstDiffering_eq_some`. A selection that is not a non-empty list of
valid names is refused before anything is printed (`main_refusesFields`).

`print_window` differs from the other tools' `print_context` only in its
header; both list the events within the radius of the centre
(`windows_nearRows`).
-/

namespace NesiumTools.PpuTrace

open Trace

/-- One register write of a PPU trace. -/
structure Event where
  raw : String
  src : String
  ev : String
  cpuCycle : Int
  frame : Int
  scanline : Int
  dot : Int
  addr : Int
  value : Int
  v : Int
  t : Int
  x : Int
  deriving DecidableEq, Repr

/-- `get_int(name, base)` inside `parse_line`: the field read by
`int(v, base)`, or `-1` when it is absent or `int` raises `ValueError`. -/
def getInt (fields : PyDict String String) (name : String) (base : Nat) : Int :=
  match fields.get name with
  | none => -1
  | some v =>
    match pyIntOf v base with
    | .ok n => n
    | .error _ => -1

/-- `parse_line(line)`. -/
def parseLine (line : String) : Option Event :=
  let line := pyStrip line
  if line = "" ∨ !pyStartsWith line "PPUREG|" then none else
  let fields : PyDict String String := ((pySplit '|' line).drop 1).foldl
    (fun fields part =>
      match splitFirst '=' part with
      | some (k, v) => fields.insert k v
      | none => fields)
    []
  if fields.get "ev" ≠ some "write" then none else
  some {
    raw := line
    src := (fields.get "src").getD ""
    ev := (fields.get "ev").getD ""
    cpuCycle := getInt fields "cpu_cycle" 10
    frame := getInt fields "frame" 10
    scanline := getInt fields "scanline" 10
    dot := getInt fields "dot" 10
    addr := getInt fields "addr" 16
    value := getInt fields "value" 16
    v := getInt fields "v" 16
    t := getInt fields "t" 16
    x := getInt fields "x" 16 }

/-- `load_events(path)` over the lines `splitlines()` gives. -/
def loadEvents (lines : List String) : List Event := lines.filterMap parseLine

/-! ## Comparison fields -/

/-- The names `--fields` accepts (`valid_fields`). -/
inductive PpuField where
  | cpuCycle | frame | scanline | dot | addr | value | v | t | x
  deriving DecidableEq, Repr

namespace PpuField

/-- The name of the field on the command line. -/
def name : PpuField → String
  | cpuCycle => "cpu_cycle"
  | frame => "frame"
  | scanline => "scanline"
  | dot => "dot"
  | addr => "addr"
  | value => "value"
  | v => "v"
  | t => "t"
  | x => "x"

/-- The field a command-line name selects, if it is one of `valid_fields`. -/
def ofName (s : String) : Option PpuField :=
  [cpuCycle, frame, scanline, dot, addr, value, v, t, x].find? (·.name = s)

theorem ofName_name (f : PpuField) : ofName f.name = some f := by
  cases f <;> rfl

end PpuField

/-- `valid_fields`. -/
def validFields : List String :=
  ["cpu_cycle", "frame", "scanline", "dot", "addr", "value", "v", "t", "x"]

theorem name_mem_validFields (f : PpuField) : f.name ∈ validFields := by
  cases f <;> decide

theorem validFields_eq : validFields = [PpuField.cpuCycle, .frame, .scanline, .dot, .addr, .value,
    .v, .t, .x].map PpuField.name := rfl

/-- `event_field_value(e, field)`. -/
def eventFieldValue (e : Event) : PpuField → Int
  | .cpuCycle => e.cpuCycle
  | .frame => e.frame
  | .scanline => e.scanline
  | .dot => e.dot
  | .addr => e.addr
  | .value => e.value
  | .v => e.v
  | .t => e.t
  | .x => e.x

/-- The values of an event on the fields `fields`, in order. -/
def project (fields : List PpuField) (e : Event) : List Int := fields.map (eventFieldValue e)

/-- `first_mismatch(a, b, fields)`. -/
def firstMismatch (a b : List Event) (fields : List PpuField) : Int × Option Event × Option Event :=
  let n := min a.length b.length
  match firstDiffering (fun ea eb => fields.any fun f => eventFieldValue ea f != eventFieldValue eb f)
      a b 0 with
  | some (i, ea, eb) => (i, some ea, some eb)
  | none => if a.length ≠ b.length then (n, a[n]?, b[n]?) else (-1, none, none)

/-- Some field of `fields` differs exactly when the projections differ. -/
theorem anyFieldDiffers_eq (fields : List PpuField) :
    (fun ea eb => fields.any fun f => eventFieldValue ea f != eventFieldValue eb f) =
      keysDiffer (project fields) := by
  funext ea eb
  induction fields with
  | nil => simp [project]
  | cons f fields ih =>
    by_cases same : eventFieldValue ea f = eventFieldValue eb f <;>
      simp_all [project, keysDiffer]

/-- `first_mismatch` finds nothing exactly when the `F`-projections of the two
traces are equal; otherwise it returns the first position where the
projections differ below both lengths, or the shorter length when they agree
there, with the event of each trace at that position, if any. -/
theorem firstMismatch_spec (a b : List Event) (F : List PpuField) :
    (firstMismatch a b F = (-1, none, none) ↔ a.map (project F) = b.map (project F)) ∧
      (a.map (project F) ≠ b.map (project F) →
        ∃ i : Nat, firstMismatch a b F = ((i : Int), a[i]?, b[i]?) ∧
          (FirstDiff (a.map (project F)) (b.map (project F)) i ∨
            i = min a.length b.length ∧ PrefixAgrees (a.map (project F)) (b.map (project F)))) := by
  unfold firstMismatch
  rw [anyFieldDiffers_eq]
  rcases found : firstDiffering (keysDiffer (project F)) a b 0 with _ | ⟨i, ea, eb⟩
  · have agree := (firstDiffering_eq_none (project F)).mp found
    by_cases length : a.length = b.length
    · have same : a.map (project F) = b.map (project F) :=
        eq_iff_prefixAgrees.mpr ⟨by simp [length], agree⟩
      simp [length, same]
    · have differ : a.map (project F) ≠ b.map (project F) := fun same =>
        length (by simpa using congrArg List.length same)
      refine ⟨?_, fun _ => ⟨min a.length b.length, by simp [length], .inr ⟨rfl, agree⟩⟩⟩
      simp only [length, differ, iff_false, if_true, ne_eq, not_false_eq_true, Prod.mk.injEq]
      exact fun ⟨negative, _⟩ => by omega
  · obtain ⟨atA, atB, first⟩ := firstDiffering_zero_eq_some (project F) found
    have differ : a.map (project F) ≠ b.map (project F) := fun same =>
      first.2.1 (by rw [same])
    exact ⟨by simp [differ], fun _ => ⟨i, by simp [atA, atB], .inl first⟩⟩

/-! ## `main` -/

/-- `print_window(label, events, center, radius)`: the header shows the
inclusive range `[max(0, center-radius)..min(len-1, center+radius)]`. -/
def printWindow (label : String) (events : List Event) (center radius : Int) : Window Event :=
  let start := max 0 (center - radius)
  ⟨label, start, min ((events.length : Int) - 1) (center + radius),
    windowRows events center.toNat start (min (events.length : Int) (center + radius + 1))⟩

/-- The three comparators show the same window around a centre that is an
index: `print_context` of the APU and NMI tools and `print_window` here both
list exactly the events within the radius of the centre, in order, and mark
the centre alone. -/
theorem windows_nearRows :
    (∀ {ε : Type} (name : String) (events : List ε) (center : Nat) (radius : Int),
      (printContext name events center radius).rows = nearRows events center radius) ∧
      ∀ (label : String) (events : List Event) (center : Nat) (radius : Int),
        (printWindow label events center radius).rows = nearRows events center radius :=
  ⟨fun _ events center radius => windowRows_clipped events center radius,
    fun _ events center radius => by
      rw [printWindow]
      dsimp only
      rw [Int.toNat_natCast]
      exact windowRows_clipped events center radius⟩

/-- What `main` prints. -/
inductive PpuLine where
  /-- `mesen writes : N` and `nesium writes: N`. -/
  | writes (label : String) (count : Nat)
  | compareFields (fields : List String)
  /-- `selected field sequence: exact match` -/
  | exactMatch
  /-- `first divergence at event #i` -/
  | divergence (index : Int)
  /-- `<end of stream>` for a trace that ran out. -/
  | endOfStream (label : String)
  | event (label : String) (e : Event)
  | window (w : Window Event)

/-- The line `main` prints for one trace at the divergence: its event, or
`<end of stream>` when the trace ran out. -/
def sideLine (label : String) : Option Event → PpuLine
  | none => .endOfStream label
  | some e => .event label e

/-- The parsed command line. -/
structure Args where
  mesen : String
  nesium : String
  window : Int := 8
  fields : String := "addr,value"
  strictTiming : Bool := false

/-- The fields of `--strict-timing`. -/
def strictTimingFields : List String :=
  ["cpu_cycle", "frame", "scanline", "dot", "addr", "value", "v", "t"]

/-- The field names `main` selects, before validation. -/
def selectedFields (args : Args) : List String :=
  if args.strictTiming then strictTimingFields
  else ((pySplit ',' args.fields).map pyStrip).filter (· ≠ "")

/-- `main()`. -/
def main (args : Args) (fs : TextFs) : Run PpuLine Nat := do
  let mesenEvents ← Run.lift (loadEvents <$> readLines fs args.mesen)
  let nesiumEvents ← Run.lift (loadEvents <$> readLines fs args.nesium)
  let fields := selectedFields args
  let invalid := fields.filter (· ∉ validFields)
  if invalid ≠ [] then Run.raise (.usage ("unsupported fields: " ++ ", ".intercalate invalid))
  if fields = [] then Run.raise (.usage "at least one comparison field is required")
  Run.print (.writes "mesen" mesenEvents.length)
  Run.print (.writes "nesium" nesiumEvents.length)
  Run.print (.compareFields fields)
  let (idx, a, b) := firstMismatch mesenEvents nesiumEvents (fields.filterMap PpuField.ofName)
  if idx < 0 then do
    Run.print .exactMatch
    pure 0
  else do
    Run.print (.divergence idx)
    Run.print (sideLine "mesen" a)
    Run.print (sideLine "nesium" b)
    Run.print (.window (printWindow "mesen" mesenEvents idx args.window))
    Run.print (.window (printWindow "nesium" nesiumEvents idx args.window))
    pure 1


theorem filterMap_ofName_names (F : List PpuField) :
    (F.map PpuField.name).filterMap PpuField.ofName = F := by
  induction F with
  | nil => rfl
  | cons f F ih => simp [PpuField.ofName_name, ih]

/-- Valid names are the names of the fields they select. -/
theorem map_name_filterMap_ofName :
    ∀ {fields : List String}, (∀ s ∈ fields, s ∈ validFields) →
      (fields.filterMap PpuField.ofName).map PpuField.name = fields
  | [], _ => rfl
  | s :: rest, valid => by
    obtain ⟨f, -, rfl⟩ := List.mem_map.mp (validFields_eq ▸ valid s (List.mem_cons_self _ _))
    rw [List.filterMap_cons_some (PpuField.ofName_name f), List.map_cons,
      map_name_filterMap_ofName fun t mem => valid t (List.mem_cons_of_mem _ mem)]

/-- With valid, non-empty selected fields `F`, `main` compares the parsed
traces on `F` and returns `0` when their `F`-projections are equal, `1`
otherwise. -/
theorem main_result {args : Args} {fs : TextFs} {linesA linesB : List String}
    {F : List PpuField} (nonempty : F ≠ []) (mesen : fs args.mesen = some linesA)
    (nesium : fs args.nesium = some linesB) (selected : selectedFields args = F.map PpuField.name) :
    (main args fs).result =
      .ok (if (loadEvents linesA).map (project F) = (loadEvents linesB).map (project F) then 0
        else 1) := by
  have valid : (F.map PpuField.name).filter (· ∉ validFields) = [] := by
    simp [List.filter_eq_nil_iff, name_mem_validFields]
  have named : F.map PpuField.name ≠ [] := by simpa using nonempty
  obtain ⟨same, found⟩ := firstMismatch_spec (loadEvents linesA) (loadEvents linesB) F
  simp only [main, readLines, mesen, nesium, selected, valid, named, filterMap_ofName_names,
    Functor.map, Except.map, Run.lift_ok_bind, ne_eq, not_true_eq_false, not_false_eq_true,
    if_false, Run.print_bind]
  by_cases agree : (loadEvents linesA).map (project F) = (loadEvents linesB).map (project F)
  · simp [same.mpr agree, agree, Bind.bind, Run.bind]
  · obtain ⟨i, at_i, -⟩ := found agree
    have nonneg : ¬ (i : Int) < 0 := by omega
    simp [at_i, agree, nonneg, Bind.bind, Run.bind]

theorem main_exitStatus {args : Args} {fs : TextFs} {linesA linesB : List String}
    {F : List PpuField} (nonempty : F ≠ []) (mesen : fs args.mesen = some linesA)
    (nesium : fs args.nesium = some linesB) (selected : selectedFields args = F.map PpuField.name) :
    exitStatus (main args fs).result = 0 ↔
      (loadEvents linesA).map (project F) = (loadEvents linesB).map (project F) := by
  rw [main_result nonempty mesen nesium selected]
  by_cases agree : (loadEvents linesA).map (project F) = (loadEvents linesB).map (project F) <;>
    simp [exitStatus, agree]

/-- With both traces readable, `main` refuses the field selection as
`parser.error` does, before printing anything, exactly when the selected
names are not a non-empty list of valid fields. -/
theorem main_refusesFields {args : Args} {fs : TextFs} {linesA linesB : List String}
    (mesen : fs args.mesen = some linesA) (nesium : fs args.nesium = some linesB) :
    (∃ message, main args fs = ⟨[], .error (.usage message)⟩) ↔
      ¬ ∃ F : List PpuField, F ≠ [] ∧ selectedFields args = F.map PpuField.name := by
  constructor
  · rintro ⟨message, refused⟩ ⟨F, nonempty, selected⟩
    have compared := main_result nonempty mesen nesium selected
    rw [refused] at compared
    cases compared
  intro notValid
  by_cases valid : (selectedFields args).filter (· ∉ validFields) = []
  · have named := map_name_filterMap_ofName fun s mem => by
      simpa using List.filter_eq_nil_iff.mp valid s mem
    have empty : selectedFields args = [] := by
      by_contra nonempty
      exact notValid ⟨_, fun none => nonempty (by rw [← named, none, List.map_nil]), named.symm⟩
    refine ⟨"at least one comparison field is required", ?_⟩
    simp only [main, readLines, mesen, nesium, Functor.map, Except.map, Run.lift_ok_bind, empty,
      List.filter_nil, ne_eq, not_true_eq_false, if_false, if_true, Run.raise_bind]
    rfl
  · refine ⟨"unsupported fields: " ++ ", ".intercalate ((selectedFields args).filter (· ∉ validFields)),
      ?_⟩
    simp only [main, readLines, mesen, nesium, Functor.map, Except.map, Run.lift_ok_bind, ne_eq,
      valid, not_false_eq_true, if_true, Run.raise_bind]
    rfl

theorem main_refusesFields_bogus :
    ∃ message, main ⟨"mesen.log", "nesium.log", 8, "addr, bogus", false⟩ (fun _ => some []) =
      ⟨[], .error (.usage message)⟩ :=
  (main_refusesFields rfl rfl).mpr fun ⟨F, _, selected⟩ => by
    have bogus : "bogus" ∈ F.map PpuField.name := by
      rw [← selected]
      decide
    obtain ⟨f, -, named⟩ := List.mem_map.mp bogus
    cases f <;> exact absurd named (by decide)

/-- The comparison contract of the PPU tool for a non-empty field list
`F = f :: rest`: `first_mismatch` finds nothing exactly when the
`F`-projections of the traces agree, and otherwise locates their first
disagreement (or the shorter length); `main` exits `0` exactly when the
projections of the two parsed traces agree. -/
theorem firstMismatch_contract (f : PpuField) (rest : List PpuField) :
    (∀ a b : List Event,
      (firstMismatch a b (f :: rest) = (-1, none, none) ↔
          a.map (project (f :: rest)) = b.map (project (f :: rest))) ∧
        (a.map (project (f :: rest)) ≠ b.map (project (f :: rest)) →
          ∃ i : Nat, firstMismatch a b (f :: rest) = ((i : Int), a[i]?, b[i]?) ∧
            (FirstDiff (a.map (project (f :: rest))) (b.map (project (f :: rest))) i ∨
              i = min a.length b.length ∧
                PrefixAgrees (a.map (project (f :: rest))) (b.map (project (f :: rest)))))) ∧
      ∀ (args : Args) (fs : TextFs) (linesA linesB : List String),
        fs args.mesen = some linesA → fs args.nesium = some linesB →
        selectedFields args = (f :: rest).map PpuField.name →
        (exitStatus (main args fs).result = 0 ↔
          (loadEvents linesA).map (project (f :: rest)) =
            (loadEvents linesB).map (project (f :: rest))) :=
  ⟨fun a b => firstMismatch_spec a b (f :: rest), fun _ _ _ _ mesen nesium selected =>
    main_exitStatus (List.cons_ne_nil f rest) mesen nesium selected⟩

end NesiumTools.PpuTrace
