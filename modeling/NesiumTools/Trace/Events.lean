import NesiumTools.Py.Runtime

/-!
# Numbering the events of a trace

`parse_events` of the APU and of the NMI tool reads a trace file line by line
and appends an event for each line it accepts, numbered by the length of the
list so far (`index=len(events)`). `numberEvents` is that loop for any reading
`lineEvent` of one line; the two tools differ only in the reading.

For a reading that leaves every rejected line alone, `numberEvents_filter`
drops the rejected lines from the input without changing the outcome, and
`numberEvents_accepted` says what a run over accepted lines that returns has
produced: one event per line, in file order, each read at its own position.
-/

namespace NesiumTools.Trace

variable {ε : Type}

/-- The loop of `parse_events`: each line is read by `lineEvent line
len(events)`, and an event it yields is appended. -/
def numberEvents (lineEvent : String → Nat → Except PyError (Option ε)) :
    List ε → List String → Except PyError (List ε)
  | events, [] => .ok events
  | events, line :: lines => do
    match ← lineEvent line events.length with
    | some e => numberEvents lineEvent (events ++ [e]) lines
    | none => numberEvents lineEvent events lines

section Reading

variable {lineEvent : String → Nat → Except PyError (Option ε)} {accepted : String → Bool}

/-- Rejected lines never reach the event list, so leaving them out of the
input changes nothing: not the events, nor an exception. -/
theorem numberEvents_filter
    (rejected : ∀ line k, accepted line = false → lineEvent line k = .ok none)
    (events : List ε) (lines : List String) :
    numberEvents lineEvent events lines = numberEvents lineEvent events (lines.filter accepted) := by
  induction lines generalizing events with
  | nil => rfl
  | cons line lines ih =>
    cases keep : accepted line with
    | false =>
      simp only [numberEvents, rejected line _ keep, List.filter_cons, keep]
      exact ih events
    | true =>
      simp only [numberEvents, List.filter_cons, keep, if_true]
      cases lineEvent line events.length with
      | error e => rfl
      | ok r => cases r <;> exact ih _

/-- A run over accepted lines that returns has appended one event per line,
the `k`-th read from the `k`-th line at position `len(events) + k`. -/
theorem numberEvents_accepted
    (yields : ∀ line k, accepted line → lineEvent line k ≠ .ok none)
    {events result : List ε} {lines : List String} (all : ∀ line ∈ lines, accepted line)
    (ok : numberEvents lineEvent events lines = .ok result) :
    ∃ added, result = events ++ added ∧ added.length = lines.length ∧
      ∀ k e line, added[k]? = some e → lines[k]? = some line →
        lineEvent line (events.length + k) = .ok (some e) := by
  induction lines generalizing events with
  | nil => exact ⟨[], by simpa [numberEvents] using ok.symm, rfl, by simp⟩
  | cons line lines ih =>
    have accepted_line := all line (.head _)
    simp only [numberEvents] at ok
    rcases read : lineEvent line events.length with e | _ | e <;> rw [read] at ok
    · cases ok
    · exact absurd read (yields _ _ accepted_line)
    · obtain ⟨added, rfl, length, reads⟩ := ih (fun l mem => all l (.tail _ mem)) ok
      refine ⟨e :: added, by simp, by simp [length], ?_⟩
      rintro (_ | k) e' line' hk hline
      · simp only [List.getElem?_cons_zero, Option.some.injEq] at hk hline
        subst hk hline
        simpa using read
      · have later := reads k e' line' (by simpa using hk) (by simpa using hline)
        rwa [List.length_append, List.length_singleton, Nat.add_assoc, Nat.add_comm 1 k] at later

/-- What a run of the loop that returns has produced: one event for each
accepted line and none for the others, in file order, the `k`-th read from
the `k`-th accepted line at position `k`. -/
theorem numberEvents_ok
    (rejected : ∀ line k, accepted line = false → lineEvent line k = .ok none)
    (yields : ∀ line k, accepted line → lineEvent line k ≠ .ok none)
    {lines : List String} {events : List ε} (ok : numberEvents lineEvent [] lines = .ok events) :
    events.length = (lines.filter accepted).length ∧
      ∀ k e, events[k]? = some e →
        ∃ line, (lines.filter accepted)[k]? = some line ∧ lineEvent line k = .ok (some e) := by
  rw [numberEvents_filter rejected] at ok
  obtain ⟨added, rfl, length, reads⟩ :=
    numberEvents_accepted yields (fun line mem => (List.mem_filter.mp mem).2) ok
  refine ⟨by simpa using length, fun k e at_k => ?_⟩
  have lt : k < (lines.filter accepted).length := by
    rw [← length]; simpa using (List.getElem?_eq_some_iff.mp (by simpa using at_k)).1
  refine ⟨_, List.getElem?_eq_getElem lt, ?_⟩
  simpa using reads k e _ (by simpa using at_k) (List.getElem?_eq_getElem lt)

/-- The numbering promise of a parser built on `numberEvents`: a run that
returns has one event per accepted line and none for the others, in file
order, the `k`-th carrying index `k` and read from the `k`-th accepted line;
and a rejected line inserted anywhere changes nothing. -/
def Numbers (parse : List String → Except PyError (List ε)) (accepted : String → Bool)
    (lineEvent : String → Nat → Except PyError (Option ε)) (index : ε → Nat) : Prop :=
  (∀ lines events, parse lines = .ok events →
    events.length = (lines.filter accepted).length ∧
      ∀ k e, events[k]? = some e → index e = k ∧
        ∃ line, (lines.filter accepted)[k]? = some line ∧ lineEvent line k = .ok (some e)) ∧
    ∀ pre post line, accepted line = false → parse (pre ++ line :: post) = parse (pre ++ post)

/-- `numberEvents` keeps the numbering promise for every reading that leaves
rejected lines alone, yields on accepted ones and numbers what it yields by
its position. -/
theorem numberEvents_numbers {index : ε → Nat}
    (rejected : ∀ line k, accepted line = false → lineEvent line k = .ok none)
    (yields : ∀ line k, accepted line → lineEvent line k ≠ .ok none)
    (indexed : ∀ line k e, lineEvent line k = .ok (some e) → index e = k) :
    Numbers (numberEvents lineEvent []) accepted lineEvent index := by
  refine ⟨fun lines events ok => ?_, fun pre post line skip => ?_⟩
  · obtain ⟨length, reads⟩ := numberEvents_ok rejected yields ok
    refine ⟨length, fun k e at_k => ?_⟩
    obtain ⟨line, at_line, read⟩ := reads k e at_k
    exact ⟨indexed line k e read, line, at_line, read⟩
  · rw [numberEvents_filter rejected [] (pre ++ line :: post),
      numberEvents_filter rejected [] (pre ++ post)]
    simp [List.filter_append, skip]

end Reading

/-- A file system of text files: the lines of each file that exists, as the
tool's reader yields them. -/
abbrev TextFs := String → Option (List String)

/-- Opening `path` for reading. -/
def readLines (fs : TextFs) (path : String) : Except PyError (List String) :=
  match fs path with
  | some lines => .ok lines
  | none => .error (.noSuchFile path)

end NesiumTools.Trace
