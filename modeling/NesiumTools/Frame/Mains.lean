import NesiumTools.Frame.PaletteSpec
import NesiumTools.Frame.Rgb24Spec
import NesiumTools.Frame.MaskSpec

/-!
# How the frame tools end

The three frame tools check their inputs as they go. The RGB24 and palette
comparators take the listed frames in ascending order, and check, load and
report one frame before they look at the next; the mask analyser reads both
masks first.

* A frame whose dumps are all present and of the right size is reported, and
  a frame tool never fails on it (`Rgb24.compareFrame_of_fit`,
  `Palette.compareFrame_of_fit`): the pixel loops stay in range.
* A frame with a missing or mis-sized dump stops the tool with an exception
  before anything of that frame is printed (`Rgb24.compareFrame_of_misfit`,
  `Palette.compareFrame_of_misfit`), so the reports of the frames before it stay
  printed.
* The mask analyser stops with `1` and no report when the two masks differ in
  length, only warns when their common length is not `ceil(width * height / 8)`,
  and returns `0` whenever it gets to the comparison (`Mask.main_of_sameLength`).
-/

namespace NesiumTools

theorem exitStatus_error_ne_zero (e : PyError) : exitStatus (.error e) ≠ 0 := by
  cases e <;> simp [exitStatus]

namespace Mask

open Frame

/-! ## The mask analyser -/

section Main

variable {args : Args} {fs : BytesFs}

/-- A missing mask stops the analyser before it prints anything. -/
theorem main_of_missing (missing : fs args.a = none ∨ fs args.b = none) :
    (main args fs).printed = [] ∧ ∃ e, (main args fs).result = .error e := by
  rcases missing with absent | absent
  · simp [main, readBytes, absent]
  · cases readA : fs args.a <;> simp [main, readBytes, readA, absent]

/-- Masks of different lengths: one line and status `1`. -/
theorem main_of_length_ne {dataA dataB : List UInt8} (readA : fs args.a = some dataA)
    (readB : fs args.b = some dataB) (differ : dataA.length ≠ dataB.length) :
    main args fs = ⟨[.sizeMismatch dataA.length dataB.length], .ok 1⟩ := by
  simp [main, readBytes, readA, readB, differ]

/-- Masks of the same length on a frame of natural size: a warning when the
length is not `ceil(width * height / 8)`, then the count of the pixels whose
unpacked bits differ, and status `0`. -/
theorem main_of_sameLength {dataA dataB : List UInt8} {width height : Nat}
    (wide : args.width = width) (tall : args.height = height) (readA : fs args.a = some dataA)
    (readB : fs args.b = some dataB) (same : dataA.length = dataB.length) :
    ∃ pixelsA pixelsB, unpackMask dataA args.width args.height = .ok pixelsA ∧
      unpackMask dataB args.width args.height = .ok pixelsB ∧ ∃ rest, main args fs =
        ⟨(if (dataA.length : Int) ≠ (args.width * args.height + 7) / 8 then
            [.sizeWarning dataA.length ((args.width * args.height + 7) / 8) args.width args.height]
          else []) ++ .totals (args.width * args.height)
            ((List.range (width * height)).filter
              fun i => pixelsA.getD i 0 ≠ pixelsB.getD i 0).length :: rest, .ok 0⟩ := by
  obtain ⟨rest, run⟩ := main_of_maskDiff wide tall readA readB same
  refine ⟨_, _, unpackMask_eq .., unpackMask_eq .., ?_⟩
  rw [run, toNat_area wide tall, filter_unpacked]
  exact ⟨_, rfl⟩

end Main

end Mask

namespace Rgb24

open Frame

/-! ## The RGB24 comparator -/

/-- The frame a printed line reports on, if it is a per-frame report. -/
def Rgb24Line.frameOf : Rgb24Line → Option Int
  | .stats s => some s.frame
  | .total _ _ _ _ => none

/-- Both dumps of `frame` are present, at the paths `main` builds from the
normalised prefixes, and hold `width * height` pixels. -/
def DumpsFit (args : Args) (fs : BytesFs) (frame : Int) : Prop :=
  ∃ a b, fs (dumpPath (pyPath args.mesenPrefix) frame "rgb24") = some a ∧
    fs (dumpPath (pyPath args.nesiumPrefix) frame "rgb24") = some b ∧
    (a.length : Int) = args.width * args.height * 3 ∧ (b.length : Int) = args.width * args.height * 3

section Main

variable {args : Args} {fs : BytesFs}

theorem readRgb24_of_some {path : String} {data : List UInt8} (read : fs path = some data)
    (expectedBytes : Int) :
    readRgb24 fs path expectedBytes =
      if (data.length : Int) ≠ expectedBytes then
        .error (.valueError (path ++ ": rgb24 size mismatch, expected " ++ toString expectedBytes ++
          ", got " ++ toString data.length))
      else .ok data := by
  simp only [readRgb24, readBytes, read, bind, Except.bind]
  rfl

/-- A frame whose dumps fit is reported, on one line: the summary of the pixel
loop over them. -/
theorem compareFrame_eq {width height : Nat} (wide : args.width = width)
    (tall : args.height = height) {frame : Int} {a b : List UInt8}
    (mesen : fs (dumpPath (pyPath args.mesenPrefix) frame "rgb24") = some a)
    (nesium : fs (dumpPath (pyPath args.nesiumPrefix) frame "rgb24") = some b)
    (aLen : a.length = 3 * (width * height)) (bLen : b.length = 3 * (width * height)) :
    compareFrame args fs (args.width * args.height * 3) frame =
      ⟨[.stats (summarise frame width height (stateAfter a b width height (width * height)))],
        .ok (summarise frame width height (stateAfter a b width height (width * height)))⟩ := by
  have size (data : List UInt8) (len : data.length = 3 * (width * height)) :
      (data.length : Int) = args.width * args.height * 3 := by
    rw [len, wide, tall]; push_cast; ring
  simp [compareFrame, pathExists, mesen, nesium, readRgb24_of_some mesen, readRgb24_of_some nesium,
    size a aLen, size b bLen, wide, tall, computeFrameDiff_eq aLen bLen]

theorem compareFrame_of_fit {width height : Nat} (wide : args.width = width)
    (tall : args.height = height) {frame : Int} (fit : DumpsFit args fs frame) :
    ∃ stats, compareFrame args fs (args.width * args.height * 3) frame =
      ⟨[.stats stats], .ok stats⟩ ∧ stats.frame = frame := by
  obtain ⟨a, b, mesen, nesium, aLen, bLen⟩ := fit
  rw [wide, tall] at aLen bLen
  exact ⟨_, compareFrame_eq wide tall mesen nesium (by omega) (by omega), rfl⟩

/-- A frame with a missing or mis-sized dump stops the comparator before
anything of it is printed. -/
theorem compareFrame_of_misfit {frame : Int} (misfit : ¬ DumpsFit args fs frame) :
    (compareFrame args fs (args.width * args.height * 3) frame).printed = [] ∧
      ∃ e, (compareFrame args fs (args.width * args.height * 3) frame).result = .error e := by
  rcases mesen : fs (dumpPath (pyPath args.mesenPrefix) frame "rgb24") with _ | a
  · simp [compareFrame, pathExists, mesen]
  rcases nesium : fs (dumpPath (pyPath args.nesiumPrefix) frame "rgb24") with _ | b
  · simp [compareFrame, pathExists, mesen, nesium]
  by_cases aLen : (a.length : Int) = args.width * args.height * 3
  · by_cases bLen : (b.length : Int) = args.width * args.height * 3
    · exact absurd ⟨a, b, mesen, nesium, aLen, bLen⟩ misfit
    · simp [compareFrame, pathExists, mesen, nesium, readRgb24_of_some mesen,
        readRgb24_of_some nesium, aLen, bLen]
  · simp [compareFrame, pathExists, mesen, nesium, readRgb24_of_some mesen, aLen]

/-- Over frames whose dumps all fit, the frame loop reports each frame once,
in order. -/
theorem frameLoop_of_fit {width height : Nat} (wide : args.width = width)
    (tall : args.height = height) :
    ∀ frames : List Int, (∀ f ∈ frames, DumpsFit args fs f) →
      ∃ allStats : List FrameDiffStats,
        frameLoop args fs (args.width * args.height * 3) frames =
          ⟨allStats.map .stats, .ok allStats⟩ ∧ allStats.map (·.frame) = frames
  | [], _ => ⟨[], rfl, rfl⟩
  | f :: rest, fit => by
    obtain ⟨stats, frameRun, frameEq⟩ :=
      compareFrame_of_fit wide tall (fit f (List.mem_cons_self _ _))
    obtain ⟨later, restRun, restEq⟩ :=
      frameLoop_of_fit wide tall rest fun g mem => fit g (List.mem_cons_of_mem _ mem)
    exact ⟨stats :: later, by simp [frameLoop, frameRun, restRun], by simp [frameEq, restEq]⟩

/-- When the dumps of every listed frame fit, the comparator reports every
frame and returns `0`, whatever the reports say. -/
theorem main_of_fit {width height : Nat} (wide : args.width = width) (tall : args.height = height)
    {frames : List Int} (parsed : parseFramesCsv args.frames = .ok frames)
    (fit : ∀ f ∈ frames, DumpsFit args fs f) :
    (main args fs).result = .ok 0 ∧ (main args fs).printed.filterMap Rgb24Line.frameOf = frames := by
  obtain ⟨allStats, loop, framesEq⟩ := frameLoop_of_fit wide tall frames fit
  simp only [main, parsed, Run.lift_ok_bind, loop, Run.mk_ok_bind, Run.print_bind,
    Run.printed_pure, Run.result_pure, true_and]
  rw [← framesEq]
  simp only [List.filterMap_append, List.filterMap_map, List.filterMap_cons, Rgb24Line.frameOf,
    List.filterMap_nil, List.append_nil]
  exact congrFun (List.filterMap_eq_map fun s : FrameDiffStats => s.frame) allStats

end Main

end Rgb24

namespace Palette

open Frame

/-! ## The palette locator -/

/-- The frame a printed line reports on, if it is a per-frame report. -/
def PaletteLine.frameOf : PaletteLine → Option Int
  | .noMismatch frame _ _ _ => some frame
  | .firstMismatch m _ => some m.frame
  | .countersBeforeFirst _ _ _ => none

/-- The three dumps of `frame` are present and hold `width * height` pixels. -/
def DumpsFit (args : Args) (fs : BytesFs) (frame : Int) : Prop :=
  ∃ rgb idx emph, fs (dumpPath args.mesenPrefix frame "rgb24") = some rgb ∧
    fs (dumpPath args.nesiumPrefix frame "idx8") = some idx ∧
    fs (dumpPath args.nesiumPrefix frame "emph8") = some emph ∧
    (rgb.length : Int) = args.width * args.height * 3 ∧
    (idx.length : Int) = args.width * args.height ∧ (emph.length : Int) = args.width * args.height

/-- The dumps of `frame` are present and show a pixel whose NESium pair does
not produce its Mesen colour, by the reverse map `inverse`. -/
def HasBadPixel (inverse : PyDict Rgb (List (Nat × Nat))) (args : Args) (fs : BytesFs)
    (frame : Int) : Prop :=
  ∃ rgb idx emph, fs (dumpPath args.mesenPrefix frame "rgb24") = some rgb ∧
    fs (dumpPath args.nesiumPrefix frame "idx8") = some idx ∧
    fs (dumpPath args.nesiumPrefix frame "emph8") = some emph ∧
    ∃ i < idx.length, isBad inverse rgb idx emph i = true

/-- On a frame of natural size, the locator returns, and finds a mismatch
exactly when some pixel is bad. -/
theorem findFirstMismatch_of_frame (inverse : PyDict Rgb (List (Nat × Nat))) (frame : Int)
    {width height : Nat} {rgb idx emph : List UInt8} (rgbLen : rgb.length = 3 * (width * height))
    (idxLen : idx.length = width * height) (emphLen : emph.length = width * height) :
    ∃ result, findFirstMismatch frame rgb idx emph inverse width = .ok result ∧
      (result.1.isSome ↔ ∃ i < idx.length, isBad inverse rgb idx emph i = true) ∧
      ∀ m, result.1 = some m → m.frame = frame := by
  refine ⟨_, findFirstMismatch_of_size frame rgbLen idxLen emphLen, ?_⟩
  rcases (locatesFirstBad_scanOutcome frame width : LocatesFirstBad inverse rgb idx emph frame width _)
    with ⟨allGood, result⟩ | ⟨i, lt, bad, _, result⟩ <;> rw [result]
  · refine ⟨?_, by simp⟩
    simp only [Option.isSome_none, Bool.false_eq_true, false_iff, not_exists, not_and]
    exact fun i lt => by simp [allGood i lt]
  · exact ⟨by simpa using ⟨i, lt, bad⟩, fun m found => by cases found; rfl⟩

section Main

variable {args : Args} {fs : BytesFs} (inverse : PyDict Rgb (List (Nat × Nat)))

theorem loadDump_of_some {path : String} {data : List UInt8} (read : fs path = some data)
    (width height bytesPerPixel : Int) :
    loadDump fs path width height bytesPerPixel =
      if (data.length : Int) ≠ width * height * bytesPerPixel then
        .error (.valueError (path ++ ": expected " ++ toString (width * height * bytesPerPixel) ++
          " bytes, got " ++ toString data.length))
      else .ok data := by
  simp only [loadDump, readBytes, read, bind, Except.bind]
  rfl

/-- A frame whose dumps fit is reported, and counts as found exactly when it
has a bad pixel. -/
theorem compareFrame_of_fit {width height : Nat} (wide : args.width = width)
    (tall : args.height = height) {frame : Int} (fit : DumpsFit args fs frame) :
    ∃ found, (compareFrame args fs inverse frame).result = .ok found ∧
      (found = true ↔ HasBadPixel inverse args fs frame) ∧
      (compareFrame args fs inverse frame).printed.filterMap PaletteLine.frameOf = [frame] := by
  obtain ⟨rgb, idx, emph, readRgb, readIdx, readEmph, rgbLen, idxLen, emphLen⟩ := fit
  obtain ⟨result, locate, found, frameEq⟩ := findFirstMismatch_of_frame inverse frame
    (by rw [wide, tall] at rgbLen; omega : rgb.length = 3 * (width * height))
    (by rw [wide, tall] at idxLen; omega : idx.length = width * height)
    (by rw [wide, tall] at emphLen; omega : emph.length = width * height)
  rw [← wide] at locate
  have bad : HasBadPixel inverse args fs frame ↔ ∃ i < idx.length, isBad inverse rgb idx emph i := by
    simp [HasBadPixel, readRgb, readIdx, readEmph]
  rcases result with ⟨_ | m, unknownColors, idxMismatches, emphMismatches⟩ <;>
    simp only [compareFrame, pathExists, readRgb, readIdx, readEmph, Option.isSome_some,
      Bool.not_true, Bool.false_eq_true, if_false, pure_bind, loadRgb24, loadPlane,
      loadDump_of_some readRgb, loadDump_of_some readIdx, loadDump_of_some readEmph, mul_one, rgbLen,
      idxLen, emphLen, ne_eq, not_true_eq_false, Run.lift_ok_bind, locate, Run.print_bind, Run.printed_pure,
      Run.result_pure, List.filterMap_cons, List.filterMap_nil, PaletteLine.frameOf, bad] at found ⊢
  · exact ⟨false, rfl, by simpa using found, trivial⟩
  · exact ⟨true, rfl, by simpa using found, by rw [frameEq m rfl]⟩

/-- A frame whose dumps fit and in which the locator finds a mismatch prints the
mismatch and then, as `counters_before_first`, the counters the locator returned
with it. -/
theorem compareFrame_of_found {frame : Int} {rgb idx emph : List UInt8}
    (readRgb : fs (dumpPath args.mesenPrefix frame "rgb24") = some rgb)
    (readIdx : fs (dumpPath args.nesiumPrefix frame "idx8") = some idx)
    (readEmph : fs (dumpPath args.nesiumPrefix frame "emph8") = some emph)
    (rgbLen : (rgb.length : Int) = args.width * args.height * 3)
    (idxLen : (idx.length : Int) = args.width * args.height)
    (emphLen : (emph.length : Int) = args.width * args.height)
    {m : FirstMismatch} {unknownColors idxMismatches emphMismatches : Nat}
    (found : findFirstMismatch frame rgb idx emph inverse args.width =
      .ok (some m, unknownColors, idxMismatches, emphMismatches)) :
    compareFrame args fs inverse frame = ⟨[.firstMismatch m (m.candidates.take 8),
      .countersBeforeFirst unknownColors idxMismatches emphMismatches], .ok true⟩ := by
  simp only [compareFrame, pathExists, readRgb, readIdx, readEmph, Option.isSome_some,
    Bool.not_true, Bool.false_eq_true, if_false, pure_bind, loadRgb24, loadPlane,
    loadDump_of_some readRgb, loadDump_of_some readIdx, loadDump_of_some readEmph, mul_one, rgbLen,
    idxLen, emphLen, ne_eq, not_true_eq_false, Run.lift_ok_bind, found, Run.print_bind]
  rfl

/-- A frame with a missing or mis-sized dump stops the locator before anything
of it is printed. -/
theorem compareFrame_of_misfit {frame : Int} (misfit : ¬ DumpsFit args fs frame) :
    (compareFrame args fs inverse frame).printed = [] ∧
      ∃ e, (compareFrame args fs inverse frame).result = .error e := by
  rcases readRgb : fs (dumpPath args.mesenPrefix frame "rgb24") with _ | rgb
  · simp [compareFrame, pathExists, readRgb]
  rcases readIdx : fs (dumpPath args.nesiumPrefix frame "idx8") with _ | idx
  · simp [compareFrame, pathExists, readRgb, readIdx]
  rcases readEmph : fs (dumpPath args.nesiumPrefix frame "emph8") with _ | emph
  · simp [compareFrame, pathExists, readRgb, readIdx, readEmph]
  by_cases rgbLen : (rgb.length : Int) = args.width * args.height * 3
  · by_cases idxLen : (idx.length : Int) = args.width * args.height
    · by_cases emphLen : (emph.length : Int) = args.width * args.height
      · exact absurd ⟨rgb, idx, emph, readRgb, readIdx, readEmph, rgbLen, idxLen, emphLen⟩ misfit
      · simp [compareFrame, pathExists, readRgb, readIdx, readEmph, loadRgb24, loadPlane,
          loadDump_of_some readRgb, loadDump_of_some readIdx, loadDump_of_some readEmph, rgbLen,
          idxLen, emphLen]
    · simp [compareFrame, pathExists, readRgb, readIdx, readEmph, loadRgb24, loadPlane,
        loadDump_of_some readRgb, loadDump_of_some readIdx, rgbLen, idxLen]
  · simp [compareFrame, pathExists, readRgb, readIdx, readEmph, loadRgb24,
      loadDump_of_some readRgb, rgbLen]

/-- Over frames whose dumps all fit, the frame loop reports each frame, in
order, and ends with `found_any` set exactly when it was set before or some
frame has a bad pixel. -/
theorem frameLoop_of_fit {width height : Nat} (wide : args.width = width)
    (tall : args.height = height) :
    ∀ (frames : List Int) (foundAny : Bool), (∀ f ∈ frames, DumpsFit args fs f) →
      ∃ found, (frameLoop args fs inverse frames foundAny).result = .ok found ∧
        (found = true ↔ foundAny = true ∨ ∃ f ∈ frames, HasBadPixel inverse args fs f) ∧
        (frameLoop args fs inverse frames foundAny).printed.filterMap PaletteLine.frameOf = frames
  | [], foundAny, _ => ⟨foundAny, rfl, by simp, rfl⟩
  | frame :: rest, foundAny, fit => by
    obtain ⟨here, frameRun, hereBad, framePrinted⟩ :=
      compareFrame_of_fit inverse wide tall (fit frame (List.mem_cons_self _ _))
    obtain ⟨found, restRun, restBad, restPrinted⟩ := frameLoop_of_fit wide tall rest
      (foundAny || here) fun g mem => fit g (List.mem_cons_of_mem _ mem)
    refine ⟨found, ?_, ?_, ?_⟩
    · rw [frameLoop, Run.result_bind_ok _ frameRun, restRun]
    · rw [restBad, Bool.or_eq_true, hereBad]
      simp only [List.mem_cons, exists_eq_or_imp, or_assoc]
    · rw [frameLoop, Run.printed_bind_ok _ frameRun, List.filterMap_append, framePrinted,
        restPrinted, List.singleton_append]

/-- When the dumps of every listed frame fit, the locator reports every frame
and returns `1` exactly when some frame has a bad pixel, and `0` otherwise. -/
theorem main_of_fit {width height : Nat} (wide : args.width = width) (tall : args.height = height)
    {frames : List Int} (parsed : parseFramesCsv args.frames = .ok frames)
    (fit : ∀ f ∈ frames, DumpsFit args fs f) :
    ∃ found, (main args fs).result = .ok (if found then 1 else 0) ∧
      (found = true ↔ ∃ f ∈ frames, HasBadPixel buildInverseRgbMap args fs f) ∧
      (main args fs).printed.filterMap PaletteLine.frameOf = frames := by
  obtain ⟨found, loop, bad, printed⟩ :=
    frameLoop_of_fit buildInverseRgbMap wide tall frames false fit
  refine ⟨found, ?_, by simpa using bad, ?_⟩
  · simp only [main, parsed, Run.lift_ok_bind, Run.result_bind_ok _ loop, Run.result_pure]
  · simp [main, parsed, printed]

/-- One pixel in frame 0: Mesen shows the grey `0x666666` of index `0x00`, where
NESium used index `0x05` without emphasis. -/
def greyArgs : Args := ⟨"mesen", "nesium", "0", 1, 1⟩

def greyFs : BytesFs := fun path =>
  if path = "mesen_f0.rgb24" then some [0x66, 0x66, 0x66]
  else if path = "nesium_f0.idx8" then some [0x05]
  else if path = "nesium_f0.emph8" then some [0x00]
  else none

theorem main_countersBeforeFirst_grey :
    ∃ m idxMismatches emphMismatches, main greyArgs greyFs =
        ⟨[.firstMismatch m (m.candidates.take 8),
          .countersBeforeFirst 0 idxMismatches emphMismatches], .ok 1⟩ ∧
      m.pixelIndex = 0 ∧ idxMismatches + emphMismatches = 1 := by
  have bad : isBad buildInverseRgbMap [0x66, 0x66, 0x66] [0x05] [0x00] 0 = true := by
    rw [isBad_buildInverseRgbMap, decide_eq_true ⟨0, by decide, 0, by decide, rfl⟩]
    decide
  rcases (locatesFirstBad_scanOutcome 0 1 :
      LocatesFirstBad buildInverseRgbMap [0x66, 0x66, 0x66] [0x05] [0x00] 0 1 _)
    with ⟨allGood, -⟩ | ⟨i, lt, -, -, result⟩
  · exact absurd (allGood 0 (by decide)) (by rw [bad]; decide)
  obtain rfl : i = 0 := by simpa using lt
  have found := (findFirstMismatch_eq (by decide) (by decide) (by decide)).trans
    (congrArg Except.ok result)
  obtain ⟨sum, -⟩ := counters_of_found (by decide) (by decide) (by decide) found
  have read : (((pySplit ',' "0").map pyStrip).filter (· ≠ "")).mapM (pyIntOf · 10) = .ok [0] := by
    rfl
  have parsed : parseFramesCsv greyArgs.frames = .ok [0] := by
    rw [greyArgs, parseFramesCsv, framesOfCsv_of_sorted read (by decide)]
    rfl
  refine ⟨mismatchAt buildInverseRgbMap [0x66, 0x66, 0x66] [0x05] [0x00] 0 1 0, _, _, ?_, rfl, sum⟩
  simp only [main, parsed, Run.lift_ok_bind, frameLoop,
    @compareFrame_of_found greyArgs greyFs buildInverseRgbMap 0 _ _ _ rfl rfl rfl (by decide)
      (by decide) (by decide) _ _ _ _ found,
    Run.mk_ok_bind]
  rfl

end Main

end Palette

end NesiumTools
