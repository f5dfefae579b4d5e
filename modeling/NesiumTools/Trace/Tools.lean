import NesiumTools.Trace.Apu
import NesiumTools.Trace.Nmi

/-!
# The APU and NMI comparators side by side

The two tools share their loops: `parse_events` is `Trace.numberEvents` over
each tool's reading of a line, and `compare_events` is
`Trace.compareEventsBy` over each tool's key. The results here are the shared
contracts instantiated at both tools.
-/

namespace NesiumTools.Trace

/-- Both parsers number exactly their accepted lines, in file order, and
ignore every rejected line wherever it stands. -/
theorem parseEvents_numbering :
    (∀ includeReadMem, Numbers (ApuTrace.parseEvents · includeReadMem)
      (ApuTrace.accepted includeReadMem) (ApuTrace.lineEvent includeReadMem)
      ApuTrace.TraceEvent.index) ∧
      Numbers NmiTrace.parseEvents NmiTrace.accepted NmiTrace.lineEvent
        NmiTrace.TraceEvent.index :=
  ⟨fun _ => numberEvents_numbers (fun _ => ApuTrace.lineEvent_rejected)
      (fun _ => ApuTrace.lineEvent_accepted) (fun _ _ _ => ApuTrace.lineEvent_index),
    numberEvents_numbers (fun _ => NmiTrace.lineEvent_rejected)
      (fun _ => NmiTrace.lineEvent_accepted) (fun _ _ _ => NmiTrace.lineEvent_index)⟩

end NesiumTools.Trace
