import NesiumTools.Frame.Reports
import NesiumTools.Trace.Tools
import NesiumTools.Trace.Ppu

/-!
# What the six tools' exit statuses say

Each tool ends with `raise SystemExit(main())`, and `exitStatus` reads the
status off the run of `main`. This module puts the six side by side.

* Inputs that do not fit (`frameTools_stop_at_misfit`): the RGB24 and palette
  comparators stop with an exception at the first listed frame whose dumps are
  missing or mis-sized, after the reports of the frames before it; the mask
  analyser stops on a missing mask, returns `1` on masks of different lengths,
  and only warns on two masks of the same unexpected length before comparing
  them.
* Inputs that fit (`exitStatus_of_comparison`): the RGB24 comparator and the mask
  analyser return `0` whatever their reports say; the palette locator returns
  `1` exactly when a frame has a bad pixel; the three trace comparators return
  `0` when the compared sequences agree and `1` otherwise.
-/

namespace NesiumTools

open Frame Trace

/-! ## Inputs that do not fit -/

/-- Frame `1` of a `1 x 1` RGB24 capture, without the dumps of frame `2`. -/
def frameOneOnly : BytesFs := fun path =>
  if path = "mesen_f1.rgb24" ∨ path = "nesium_f1.rgb24" then some [0, 0, 0] else none

/-- Two empty masks, one byte short of a `1 x 1` frame. -/
def emptyMasks : BytesFs := fun _ => some []

theorem rgb24_parseFramesCsv_one_two : Rgb24.parseFramesCsv "1,2" = .ok [1, 2] := by
  have read : (((pySplit ',' "1,2").map pyStrip).filter (· ≠ "")).mapM (pyIntOf · 10) =
      .ok [1, 2] := by rfl
  rw [Rgb24.parseFramesCsv, framesOfCsv_of_sorted read (by decide)]
  rfl

/-- Frame `1` is in place, black. -/
theorem frameOneOnly_read :
    ∀ g ∈ [(1 : Int)], Rgb24.DumpsRead ⟨"mesen", "nesium", "1,2", 1, 1⟩ frameOneOnly 1 1
      (fun _ => [0, 0, 0]) (fun _ => [0, 0, 0]) g := by
  simp only [List.mem_singleton, forall_eq]
  exact ⟨by rfl, by rfl, rfl, rfl⟩

theorem frameOneOnly_misfit : ¬ Rgb24.DumpsFit ⟨"mesen", "nesium", "1,2", 1, 1⟩ frameOneOnly 2 := by
  rintro ⟨a, b, mesen, -⟩
  cases mesen

/-- The RGB24 comparator prints the report of frame `1` before it fails on the
missing dumps of frame `2`, and the mask analyser compares two masks of the
wrong size and returns `0`. -/
theorem frameTools_report_before_failure :
    exitStatus (Rgb24.main ⟨"mesen", "nesium", "1,2", 1, 1⟩ frameOneOnly).result ≠ 0 ∧
      (Rgb24.main ⟨"mesen", "nesium", "1,2", 1, 1⟩ frameOneOnly).printed.map
        Rgb24.Rgb24Line.frameOf = [some 1] ∧
      Mask.main ⟨"a", "b", 1, 1, 20⟩ emptyMasks = ⟨[.sizeWarning 0 1 1 1, .totals 1 0], .ok 0⟩ := by
  obtain ⟨printed, e, failed⟩ := @Rgb24.main_of_misfit _ frameOneOnly 1 1 (fun _ => [0, 0, 0])
    (fun _ => [0, 0, 0]) rfl rfl [1] [] 2 rgb24_parseFramesCsv_one_two frameOneOnly_read
    frameOneOnly_misfit
  exact ⟨by rw [failed]; exact exitStatus_error_ne_zero e, by rw [printed]; rfl, by rfl⟩

/-- The frame tools on inputs that do not fit: the RGB24 and palette comparators
fail at the first listed frame whose dumps are missing or mis-sized, having
printed the reports of exactly the frames before it; the mask analyser fails
without a report on a missing mask, returns `1` with one line on masks of
different lengths, and on two masks of the same length other than
`ceil(width * height / 8)` warns, compares them and returns `0`. -/
theorem frameTools_stop_at_misfit :
    (∀ (args : Rgb24.Args) (fs : BytesFs) (width height : Nat)
        (mesenDump nesiumDump : Int → List UInt8) (pre post : List Int) (frame : Int),
        args.width = width → args.height = height →
        Rgb24.parseFramesCsv args.frames = .ok (pre ++ frame :: post) →
        (∀ g ∈ pre, Rgb24.DumpsRead args fs width height mesenDump nesiumDump g) →
        ¬ Rgb24.DumpsFit args fs frame →
        exitStatus (Rgb24.main args fs).result ≠ 0 ∧
          (Rgb24.main args fs).printed =
            pre.map (.stats ∘ Rgb24.frameReport width height mesenDump nesiumDump)) ∧
      (∀ (args : Palette.Args) (fs : BytesFs) (width height : Nat)
        (rgbDump idxDump emphDump : Int → List UInt8) (pre post : List Int) (frame : Int),
        args.width = width → args.height = height →
        Palette.parseFramesCsv args.frames = .ok (pre ++ frame :: post) →
        (∀ g ∈ pre, Palette.DumpsRead args fs width height rgbDump idxDump emphDump g) →
        ¬ Palette.DumpsFit args fs frame →
        exitStatus (Palette.main args fs).result ≠ 0 ∧
          (Palette.main args fs).printed = pre.flatMap fun f =>
            Palette.frameLines Palette.buildInverseRgbMap (rgbDump f) (idxDump f) (emphDump f) f
              width) ∧
      (∀ (args : Mask.Args) (fs : BytesFs), fs args.a = none ∨ fs args.b = none →
        exitStatus (Mask.main args fs).result ≠ 0 ∧ (Mask.main args fs).printed = []) ∧
      (∀ (args : Mask.Args) (fs : BytesFs) (dataA dataB : List UInt8),
        fs args.a = some dataA → fs args.b = some dataB → dataA.length ≠ dataB.length →
        Mask.main args fs = ⟨[.sizeMismatch dataA.length dataB.length], .ok 1⟩) ∧
      (∀ (args : Mask.Args) (fs : BytesFs) (width height : Nat) (dataA dataB : List UInt8),
        args.width = width → args.height = height → fs args.a = some dataA →
        fs args.b = some dataB → dataA.length = dataB.length →
        (dataA.length : Int) ≠ (width * height + 7) / 8 →
        (Mask.main args fs).result = .ok 0 ∧ ∃ diffPixels rest, (Mask.main args fs).printed =
          .sizeWarning dataA.length ((width * height + 7) / 8) width height ::
            .totals (width * height) diffPixels :: rest) := by
  refine ⟨fun args fs width height _ _ pre post frame wide tall parsed read misfit => ?_,
    fun args fs width height _ _ _ pre post frame wide tall parsed read misfit => ?_,
    fun args fs missing => ?_, fun args fs dataA dataB readA readB differ =>
      Mask.main_of_length_ne readA readB differ,
    fun args fs width height dataA dataB wide tall readA readB same unexpected => ?_⟩
  · obtain ⟨printed, e, failed⟩ := Rgb24.main_of_misfit wide tall parsed read misfit
    exact ⟨by rw [failed]; exact exitStatus_error_ne_zero e, printed⟩
  · obtain ⟨printed, e, failed⟩ := Palette.main_of_misfit wide tall parsed read misfit
    exact ⟨by rw [failed]; exact exitStatus_error_ne_zero e, printed⟩
  · obtain ⟨printed, e, failed⟩ := Mask.main_of_missing missing
    exact ⟨by rw [failed]; exact exitStatus_error_ne_zero e, printed⟩
  · obtain ⟨_, _, -, -, rest, run⟩ := Mask.main_of_sameLength wide tall readA readB same
    rw [wide, tall] at run
    simp only [run, unexpected, ne_eq, not_false_eq_true, if_true, List.singleton_append]
    exact ⟨trivial, _, rest, rfl⟩

/-- Frames `1` and `2` listed, the dumps of frame `2` missing: the comparator
fails, after the report of frame `1`. -/
theorem frameTools_stop_at_misfit_frameTwo :
    exitStatus (Rgb24.main ⟨"mesen", "nesium", "1,2", 1, 1⟩ frameOneOnly).result ≠ 0 ∧
      (Rgb24.main ⟨"mesen", "nesium", "1,2", 1, 1⟩ frameOneOnly).printed =
        [.stats (Rgb24.frameReport 1 1 (fun _ => [0, 0, 0]) (fun _ => [0, 0, 0]) 1)] :=
  frameTools_stop_at_misfit.1 ⟨"mesen", "nesium", "1,2", 1, 1⟩ frameOneOnly 1 1
    (fun _ => [0, 0, 0]) (fun _ => [0, 0, 0]) [1] [] 2 rfl rfl rgb24_parseFramesCsv_one_two
    frameOneOnly_read frameOneOnly_misfit

/-! ## Inputs that fit -/

/-- Frames `1` and `2` of a `1 x 1` RGB24 capture that differ in the blue byte
of frame `1`. -/
def frameOneDiffers : BytesFs := fun path =>
  if path = "nesium_f1.rgb24" then some [0, 0, 1]
  else if path = "mesen_f1.rgb24" ∨ path = "mesen_f2.rgb24" ∨ path = "nesium_f2.rgb24" then
    some [0, 0, 0]
  else none

/-- Masks of a `1 x 1` frame that differ in their one pixel. -/
def oneBitDiffers : BytesFs := fun path => if path = "a" then some [1] else some [0]

/-- The RGB24 comparator returns `0` though it reports a differing pixel in
frame `1`, and so does the mask analyser on masks that differ in their one
pixel. -/
theorem frameTools_ignore_differences :
    (Rgb24.main ⟨"mesen", "nesium", "1,2", 1, 1⟩ frameOneDiffers).result = .ok 0 ∧
      (∃ stats, .stats stats ∈ (Rgb24.main ⟨"mesen", "nesium", "1,2", 1, 1⟩ frameOneDiffers).printed ∧
        stats.pixelsDiff = 1) ∧
      (Mask.main ⟨"a", "b", 1, 1, 20⟩ oneBitDiffers).result = .ok 0 ∧
      (Mask.main ⟨"a", "b", 1, 1, 20⟩ oneBitDiffers).printed.head? = some (.totals 1 1) := by
  have one := @Rgb24.compareFrame_eq ⟨"mesen", "nesium", "1,2", 1, 1⟩ frameOneDiffers 1 1 rfl rfl 1
    [0, 0, 0] [0, 0, 1] (by rfl) (by rfl) rfl rfl
  have two := @Rgb24.compareFrame_eq ⟨"mesen", "nesium", "1,2", 1, 1⟩ frameOneDiffers 1 1 rfl rfl 2
    [0, 0, 0] [0, 0, 0] (by rfl) (by rfl) rfl rfl
  obtain ⟨pixelsA, pixelsB, unpackA, unpackB, rest, run⟩ :=
    @Mask.main_of_sameLength ⟨"a", "b", 1, 1, 20⟩ oneBitDiffers [1] [0] 1 1 rfl rfl (by rfl) (by rfl)
      rfl
  cases unpackA.symm.trans (by rfl : Mask.unpackMask [1] 1 1 = .ok [1])
  cases unpackB.symm.trans (by rfl : Mask.unpackMask [0] 1 1 = .ok [0])
  refine ⟨?_, ?_, by rw [run], by rw [run]; rfl⟩ <;>
    simp only [Rgb24.main, rgb24_parseFramesCsv_one_two, Run.lift_ok_bind, Rgb24.frameLoop, one,
      two, Run.mk_ok_bind, pure_bind, Run.print_bind, Run.printed_pure, Run.result_pure,
      List.cons_append, List.nil_append]
  exact ⟨_, List.mem_cons_self _ _, by decide⟩

/-- The six tools on inputs that fit: the RGB24 comparator returns `0` for any
listed frames whose dumps fit, and the mask analyser for any two masks of the
same length, whatever differences they report; the palette locator returns `1`
when some listed frame has a bad pixel and `0` otherwise; the APU and NMI
comparators return `0` when the key sequences of the parsed traces agree and
`1` otherwise, and the PPU comparator the same for the projections on its
fields. -/
theorem exitStatus_of_comparison :
    (∀ (args : Rgb24.Args) (fs : BytesFs) (width height : Nat) (frames : List Int),
        args.width = width → args.height = height → Rgb24.parseFramesCsv args.frames = .ok frames →
        (∀ f ∈ frames, Rgb24.DumpsFit args fs f) → (Rgb24.main args fs).result = .ok 0) ∧
      (∀ (args : Mask.Args) (fs : BytesFs) (width height : Nat) (dataA dataB : List UInt8),
        args.width = width → args.height = height → fs args.a = some dataA →
        fs args.b = some dataB → dataA.length = dataB.length → (Mask.main args fs).result = .ok 0) ∧
      (∀ (args : Palette.Args) (fs : BytesFs) (width height : Nat) (frames : List Int),
        args.width = width → args.height = height →
        Palette.parseFramesCsv args.frames = .ok frames → (∀ f ∈ frames, Palette.DumpsFit args fs f) →
        ((Palette.main args fs).result = .ok 1 ↔
            ∃ f ∈ frames, Palette.HasBadPixel Palette.buildInverseRgbMap args fs f) ∧
          ((Palette.main args fs).result = .ok 0 ↔
            ¬ ∃ f ∈ frames, Palette.HasBadPixel Palette.buildInverseRgbMap args fs f)) ∧
      (∀ (args : ApuTrace.Args) (fs : TextFs) (ms ns : List ApuTrace.TraceEvent),
        (readLines fs args.mesen >>= (ApuTrace.parseEvents · args.includeReadMem)) = .ok ms →
        (readLines fs args.nesium >>= (ApuTrace.parseEvents · args.includeReadMem)) = .ok ns →
        (ApuTrace.main args fs).result =
          .ok (if ms.map ApuTrace.eventKey = ns.map ApuTrace.eventKey then 0 else 1)) ∧
      (∀ (args : NmiTrace.Args) (fs : TextFs) (ms ns : List NmiTrace.TraceEvent),
        (readLines fs args.mesen >>= NmiTrace.parseEvents) = .ok ms →
        (readLines fs args.nesium >>= NmiTrace.parseEvents) = .ok ns →
        (NmiTrace.main args fs).result =
          .ok (if ms.map NmiTrace.keyOf = ns.map NmiTrace.keyOf then 0 else 1)) ∧
      (∀ (args : PpuTrace.Args) (fs : TextFs) (linesA linesB : List String)
        (F : List PpuTrace.PpuField), F ≠ [] → fs args.mesen = some linesA →
        fs args.nesium = some linesB → PpuTrace.selectedFields args = F.map PpuTrace.PpuField.name →
        (PpuTrace.main args fs).result =
          .ok (if (PpuTrace.loadEvents linesA).map (PpuTrace.project F) =
            (PpuTrace.loadEvents linesB).map (PpuTrace.project F) then 0 else 1)) := by
  refine ⟨fun args fs width height frames wide tall parsed fit =>
      (Rgb24.main_of_fit wide tall parsed fit).1,
    fun args fs width height dataA dataB wide tall readA readB same => ?_,
    fun args fs width height frames wide tall parsed fit => ?_,
    fun args fs ms ns mesen nesium => ApuTrace.main_result mesen nesium,
    fun args fs ms ns mesen nesium => NmiTrace.main_result mesen nesium,
    fun args fs linesA linesB F nonempty mesen nesium selected =>
      PpuTrace.main_result nonempty mesen nesium selected⟩
  · obtain ⟨_, _, -, -, rest, run⟩ := Mask.main_of_sameLength wide tall readA readB same
    rw [run]
  · obtain ⟨found, run, bad, -⟩ := Palette.main_of_fit wide tall parsed fit
    rw [run, ← bad]
    cases found <;> simp

/-- Frames `1` and `2` in place, differing in frame `1`: the comparator returns
`0`. -/
theorem exitStatus_of_comparison_frameOneDiffers :
    (Rgb24.main ⟨"mesen", "nesium", "1,2", 1, 1⟩ frameOneDiffers).result = .ok 0 :=
  exitStatus_of_comparison.1 ⟨"mesen", "nesium", "1,2", 1, 1⟩ frameOneDiffers 1 1 [1, 2] rfl rfl
    rgb24_parseFramesCsv_one_two fun f mem => by
      rcases List.mem_pair.mp mem with rfl | rfl
      · exact ⟨[0, 0, 0], [0, 0, 1], by rfl, by rfl, rfl, rfl⟩
      · exact ⟨[0, 0, 0], [0, 0, 0], by rfl, by rfl, rfl, rfl⟩

end NesiumTools
