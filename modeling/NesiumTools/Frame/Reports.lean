import NesiumTools.Frame.Mains

/-!
# The whole reports of the frame tools

`Mask.main_maskDiff` follows the mask analyser up to the bounding box of the
differing pixels, and `Rgb24.main_of_fit` and `Palette.main_of_fit` follow the
RGB24 comparator and the palette locator through their frames without reading
what they report. This module follows all three to their last line.

* `Mask.main_topRows`: on two masks of one length that differ somewhere, the
  analyser prints after the bounding box the number of rows holding a
  differing pixel, then the first `top_rows` of those rows (Python's
  `[:top_rows]`), each with its number of differing pixels, by that number
  descending and then by row.
* `Mask.main_swap`: giving the two masks the other way round changes nothing
  but the order of the two sizes in a size mismatch.
* `Rgb24.main_total`: when every listed frame's dumps are in place, the
  comparator reports each frame's pixel loop in frame order, and its `TOTAL`
  line adds up the differing pixels of all frames over all their pixels.
* `Palette.main_reports`: when every listed frame's dumps are in place, the
  palette locator prints for each frame, in frame order, either that it found
  no mismatch, with the unknown colours of the whole frame and both mismatch
  counters `0`, or the first bad pixel and the counters before it, where that
  pixel is already counted under its reason.
* `main_frameSet`: the RGB24 comparator and the palette locator read
  `--frames` as a set of frames; its order, repeats and blank tokens change
  nothing they print or return.
-/

namespace NesiumTools.Mask

open Frame Rgb24

/-- The number of the positions `ps` that lie in row `y` of a frame `width`
pixels wide. -/
def rowCount (width : Nat) (ps : List Nat) (y : Nat) : Nat :=
  (ps.filter fun i => i / width = y).length

/-- The bits of the two masks differ at the same positions whichever comes first. -/
theorem maskDiffPositions_comm (dataA dataB : List UInt8) (n : Nat) :
    maskDiffPositions dataB dataA n = maskDiffPositions dataA dataB n :=
  List.filter_congr fun _ _ => by simp only [ne_comm]

section Main

variable {args : Args} {fs : BytesFs} {width height : Nat} {dataA dataB : List UInt8}

/-- On masks of one length that differ somewhere, every line `main` prints. -/
theorem main_of_differ (wide : args.width = width) (tall : args.height = height)
    (readA : fs args.a = some dataA) (readB : fs args.b = some dataB)
    (same : dataA.length = dataB.length)
    (differ : maskDiffPositions dataA dataB (width * height) ≠ []) :
    let box := boxAfter width height (maskDiffPositions dataA dataB (width * height))
    let nonzeroRows := box.rowCounts.enum.filter fun row => row.2 > 0
    main args fs = ⟨warningLines args dataA.length ++
      .totals (args.width * args.height) (maskDiffPositions dataA dataB (width * height)).length ::
      .bbox box.minX box.maxX box.minY box.maxY :: .rowsWithDiff nonzeroRows.length ::
      .topRowsHeader :: (pySliceTo (nonzeroRows.mergeSort rankBefore) args.topRows).map
        (fun row => .topRow row.1 row.2), .ok 0⟩ := by
  have sameLength : (dataA.length = dataB.length) = True := eq_true same
  have some : (maskDiffPositions dataA dataB (width * height)).length ≠ 0 := by
    simpa only [ne_eq, List.length_eq_zero] using differ
  by_cases warn : (dataA.length : Int) ≠ (args.width * args.height + 7) / 8 <;>
    simp only [main, readBytes, readA, readB, sameLength, not_true_eq_false, if_false,
      Run.lift_ok_bind, unpackMask_eq, toNat_area wide tall, diffPositionsOf_unpacked, some, warn,
      ne_eq, if_true, Run.print_bind, pure_bind, not_false_eq_true, boxLoop_main wide tall,
      Run.printAll_bind, Run.printed_pure, Run.result_pure, warningLines, List.append_nil,
      List.nil_append, List.singleton_append, List.cons_append]

/-- On two masks of one length that differ somewhere, `main` prints the
optional size warning, the counts and the bounding box, then the number of
rows that hold a differing pixel, and the first `top_rows` of those rows, each
with its number of differing pixels, by that number descending and then by
row; and it returns `0`. -/
theorem main_topRows (wide : args.width = width) (tall : args.height = height)
    (readA : fs args.a = some dataA) (readB : fs args.b = some dataB)
    (same : dataA.length = dataB.length)
    (differ : maskDiffPositions dataA dataB (width * height) ≠ []) :
    let ps := maskDiffPositions dataA dataB (width * height)
    ∃ ranked, Ranked height (rowCount width ps) ranked ∧
      main args fs = ⟨warningLines args dataA.length ++
        .totals (args.width * args.height) ps.length ::
        .bbox (boxAfter width height ps).minX (boxAfter width height ps).maxX
          (boxAfter width height ps).minY (boxAfter width height ps).maxY ::
        .rowsWithDiff ranked.length :: .topRowsHeader ::
          (pySliceTo ranked args.topRows).map (fun row => .topRow row.1 row.2), .ok 0⟩ := by
  refine ⟨_, ranked_map_range height _, ?_⟩
  rw [main_of_differ wide tall readA readB same differ, List.length_mergeSort]
  rfl

/-- Two 8 x 2 masks that differ at pixel 1 of row 0 and at pixels 11 and 12 of
row 1, which ranks first. -/
def rowsFs : BytesFs := fun path =>
  if path = "a" then some [0x02, 0x1A] else if path = "b" then some [0x00, 0x02] else none

theorem main_topRows_twoRows :
    let ps := maskDiffPositions [0x02, 0x1A] [0x00, 0x02] (8 * 2)
    ∃ ranked, Ranked 2 (rowCount 8 ps) ranked ∧
      main ⟨"a", "b", 8, 2, 1⟩ rowsFs = ⟨warningLines ⟨"a", "b", 8, 2, 1⟩ 2 ++
        .totals (8 * 2) ps.length ::
        .bbox (boxAfter 8 2 ps).minX (boxAfter 8 2 ps).maxX
          (boxAfter 8 2 ps).minY (boxAfter 8 2 ps).maxY ::
        .rowsWithDiff ranked.length :: .topRowsHeader ::
          (pySliceTo ranked 1).map (fun row => .topRow row.1 row.2), .ok 0⟩ :=
  @main_topRows ⟨"a", "b", 8, 2, 1⟩ rowsFs 8 2 [0x02, 0x1A] [0x00, 0x02] rfl rfl rfl rfl rfl
    (by decide)

/-- Given the masks the other way round, `main` prints and returns the same,
but for the order of the two sizes in a size mismatch. -/
theorem main_swap (readA : fs args.a = some dataA) (readB : fs args.b = some dataB) :
    main ⟨args.b, args.a, args.width, args.height, args.topRows⟩ fs =
      if dataA.length = dataB.length then main args fs
      else ⟨[.sizeMismatch dataB.length dataA.length], .ok 1⟩ := by
  by_cases same : dataA.length = dataB.length
  · simp only [main, readBytes, readA, readB, same, if_true, Run.lift_ok_bind, unpackMask_eq,
      diffPositionsOf_unpacked, maskDiffPositions_comm]
  · have differ : dataB.length ≠ dataA.length := Ne.symm same
    simp [main, readBytes, readA, readB, same, differ]

theorem main_swap_twoRows :
    main ⟨"b", "a", 8, 2, 1⟩ rowsFs = main ⟨"a", "b", 8, 2, 1⟩ rowsFs :=
  @main_swap ⟨"a", "b", 8, 2, 1⟩ rowsFs [0x02, 0x1A] [0x00, 0x02] rfl rfl

end Main

end Mask

namespace Rgb24

open Frame

section Main

variable {args : Args} {fs : BytesFs} {width height : Nat}
  {mesenDump nesiumDump : Int → List UInt8}

/-- What the pixel loop of `compute_frame_diff` reports on the dumps of `frame`. -/
def frameReport (width height : Nat) (mesenDump nesiumDump : Int → List UInt8) (frame : Int) :
    FrameDiffStats :=
  summarise frame width height (stateAfter (mesenDump frame) (nesiumDump frame) width height
    (width * height))

/-- The dumps of `frame` are in place, at the paths `main` builds from the
normalised prefixes, and hold `width * height` pixels each. -/
def DumpsRead (args : Args) (fs : BytesFs) (width height : Nat)
    (mesenDump nesiumDump : Int → List UInt8) (frame : Int) : Prop :=
  fs (dumpPath (pyPath args.mesenPrefix) frame "rgb24") = some (mesenDump frame) ∧
    fs (dumpPath (pyPath args.nesiumPrefix) frame "rgb24") = some (nesiumDump frame) ∧
    (mesenDump frame).length = 3 * (width * height) ∧
    (nesiumDump frame).length = 3 * (width * height)

/-- The frame loop over frames whose dumps are read reports the pixel loop of
each, in order. -/
theorem frameLoop_eq (wide : args.width = width) (tall : args.height = height) :
    ∀ frames : List Int,
      (∀ f ∈ frames, DumpsRead args fs width height mesenDump nesiumDump f) →
      frameLoop args fs (args.width * args.height * 3) frames =
        ⟨frames.map (.stats ∘ frameReport width height mesenDump nesiumDump),
          .ok (frames.map (frameReport width height mesenDump nesiumDump))⟩
  | [], _ => rfl
  | f :: rest, read => by
    obtain ⟨mesen, nesium, mesenLen, nesiumLen⟩ := read f (List.mem_cons_self _ _)
    simp only [frameLoop, compareFrame_eq wide tall mesen nesium mesenLen nesiumLen,
      frameLoop_eq wide tall rest fun g mem => read g (List.mem_cons_of_mem _ mem), Run.mk_ok_bind,
      Run.printed_pure, Run.result_pure, List.map_cons, List.singleton_append, List.append_nil]
    rfl

/-- When every listed frame's dumps are in place and of the frame's size, the
comparator prints the report of each frame's pixel loop in frame order, then
the `TOTAL` line: the differing pixels of all frames, over `width * height`
pixels per frame, their percentage as the binary64 quotient times `100.0`, and
the number of frames; it returns `0`. -/
theorem main_total (wide : args.width = width) (tall : args.height = height) {frames : List Int}
    (parsed : parseFramesCsv args.frames = .ok frames)
    (read : ∀ f ∈ frames, DumpsRead args fs width height mesenDump nesiumDump f) :
    let totalDiff := (frames.map fun f =>
      (differing (mesenDump f) (nesiumDump f) (width * height)).length).sum
    let totalPixels : Int := frames.length * (width * height)
    main args fs = ⟨frames.map (.stats ∘ frameReport width height mesenDump nesiumDump) ++
      [.total totalDiff totalPixels
        (if totalPixels ≠ 0 then Float.ofNat totalDiff / Float.ofInt totalPixels * 100.0 else 0.0)
        frames.length],
      .ok 0⟩ := by
  have pixels :
      (frames.map fun f => (frameReport width height mesenDump nesiumDump f).pixelsTotal).sum =
        frames.length * (width * height) := by
    simp [frameReport, summarise, List.map_const', List.sum_replicate]
  simp only [main, parsed, Run.lift_ok_bind, frameLoop_eq wide tall frames read, Run.mk_ok_bind,
    Run.print_bind, Run.printed_pure, Run.result_pure, List.map_map, Function.comp_def, pixels,
    List.length_map]
  rfl

/-- The frame loop reaching a frame whose dumps do not fit fails there, having
printed the reports of exactly the frames before it. -/
theorem frameLoop_of_misfit (wide : args.width = width) (tall : args.height = height)
    {frame : Int} (misfit : ¬ DumpsFit args fs frame) (post : List Int) :
    ∀ pre : List Int, (∀ g ∈ pre, DumpsRead args fs width height mesenDump nesiumDump g) →
      (frameLoop args fs (args.width * args.height * 3) (pre ++ frame :: post)).printed =
          pre.map (.stats ∘ frameReport width height mesenDump nesiumDump) ∧
        ∃ e, (frameLoop args fs (args.width * args.height * 3) (pre ++ frame :: post)).result =
          .error e
  | [], _ => by
    obtain ⟨none, e, failed⟩ := compareFrame_of_misfit misfit
    rw [List.nil_append, frameLoop, Run.printed_bind_error _ failed, Run.result_bind_error _ failed,
      none]
    exact ⟨rfl, e, rfl⟩
  | g :: pre, read => by
    obtain ⟨mesen, nesium, mesenLen, nesiumLen⟩ := read g (List.mem_cons_self _ _)
    obtain ⟨printed, e, failed⟩ := frameLoop_of_misfit wide tall misfit post pre
      fun h mem => read h (List.mem_cons_of_mem _ mem)
    rw [List.cons_append, frameLoop, compareFrame_eq wide tall mesen nesium mesenLen nesiumLen,
      Run.mk_ok_bind]
    simp only [Run.printed_bind_error _ failed, Run.result_bind_error _ failed, printed]
    exact ⟨rfl, e, rfl⟩

/-- When a listed frame's dumps do not fit, the comparator fails there, having
printed the reports of exactly the frames before it. -/
theorem main_of_misfit (wide : args.width = width) (tall : args.height = height)
    {pre post : List Int} {frame : Int}
    (parsed : parseFramesCsv args.frames = .ok (pre ++ frame :: post))
    (read : ∀ g ∈ pre, DumpsRead args fs width height mesenDump nesiumDump g)
    (misfit : ¬ DumpsFit args fs frame) :
    (main args fs).printed = pre.map (.stats ∘ frameReport width height mesenDump nesiumDump) ∧
      ∃ e, (main args fs).result = .error e := by
  obtain ⟨printed, e, failed⟩ := frameLoop_of_misfit wide tall misfit post pre read
  simp only [main, parsed, Run.lift_ok_bind, Run.printed_bind_error _ failed,
    Run.result_bind_error _ failed, printed, true_and]
  exact ⟨e, rfl⟩

/-- Two one-pixel frames: equal in frame 0, one channel apart in frame 1. -/
def onePixelDump (frame : Int) (blue : UInt8) : List UInt8 :=
  if frame = 0 then [0, 0, 0] else [1, 2, blue]

def onePixelFs : BytesFs := fun path =>
  if path = "m_f0.rgb24" then some (onePixelDump 0 3)
  else if path = "n_f0.rgb24" then some (onePixelDump 0 4)
  else if path = "m_f1.rgb24" then some (onePixelDump 1 3)
  else if path = "n_f1.rgb24" then some (onePixelDump 1 4)
  else none

theorem main_total_onePixel :
    (main ⟨"m", "n", "0,1", 1, 1⟩ onePixelFs).result = .ok 0 ∧
      (main ⟨"m", "n", "0,1", 1, 1⟩ onePixelFs).printed.getLast? =
        some (.total 1 2 (Float.ofNat 1 / Float.ofInt 2 * 100.0) 2) := by
  have tokens : (((pySplit ',' "0,1").map pyStrip).filter (· ≠ "")).mapM (pyIntOf · 10) =
      .ok [0, 1] := by
    rfl
  have parsed : parseFramesCsv "0,1" = .ok [0, 1] := by
    rw [parseFramesCsv, framesOfCsv_of_sorted tokens (by decide)]
    rfl
  have run := @main_total ⟨"m", "n", "0,1", 1, 1⟩ onePixelFs 1 1 (onePixelDump · 3)
    (onePixelDump · 4) rfl rfl [0, 1] parsed (by
      intro f mem
      rcases List.mem_pair.mp mem with rfl | rfl <;> exact ⟨rfl, rfl, rfl, rfl⟩)
  simp only at run
  rw [run]
  have diff : ([0, 1].map fun f : Int =>
      (differing (onePixelDump f 3) (onePixelDump f 4) (1 * 1)).length).sum = 1 := by
    decide
  refine ⟨rfl, ?_⟩
  rw [List.getLast?_concat, diff]
  rfl

end Main

end NesiumTools.Rgb24

namespace NesiumTools.Palette

open Frame

/-- What the locator prints for a frame: the no-mismatch line with every
unknown pixel counted and both mismatch counters `0`; or the first bad pixel
and the counters before it, where the unknown pixels before it are counted and
the pixel itself is counted under its reason. -/
def frameLines (inverse : PyDict Rgb (List (Nat × Nat))) (rgb idx emph : List UInt8)
    (frame width : Int) : List PaletteLine :=
  match (List.range idx.length).find? (isBad inverse rgb idx emph) with
  | none => [.noMismatch frame (unknownBelow inverse rgb idx.length) 0 0]
  | some i =>
    let m := mismatchAt inverse rgb idx emph frame width i
    let missing := indexMissing inverse rgb idx emph i
    [.firstMismatch m (m.candidates.take 8),
      .countersBeforeFirst (unknownBelow inverse rgb i) (if missing then 1 else 0)
        (if missing then 0 else 1)]

section Main

variable {args : Args} {fs : BytesFs} {width height : Nat}
  {rgbDump idxDump emphDump : Int → List UInt8} (inverse : PyDict Rgb (List (Nat × Nat)))

/-- The three dumps of `frame` are in place and of the frame's size. -/
def DumpsRead (args : Args) (fs : BytesFs) (width height : Nat)
    (rgbDump idxDump emphDump : Int → List UInt8) (frame : Int) : Prop :=
  fs (dumpPath args.mesenPrefix frame "rgb24") = some (rgbDump frame) ∧
    fs (dumpPath args.nesiumPrefix frame "idx8") = some (idxDump frame) ∧
    fs (dumpPath args.nesiumPrefix frame "emph8") = some (emphDump frame) ∧
    (rgbDump frame).length = 3 * (width * height) ∧ (idxDump frame).length = width * height ∧
    (emphDump frame).length = width * height

theorem compareFrame_of_clean {frame : Int} {rgb idx emph : List UInt8}
    (readRgb : fs (dumpPath args.mesenPrefix frame "rgb24") = some rgb)
    (readIdx : fs (dumpPath args.nesiumPrefix frame "idx8") = some idx)
    (readEmph : fs (dumpPath args.nesiumPrefix frame "emph8") = some emph)
    (rgbLen : (rgb.length : Int) = args.width * args.height * 3)
    (idxLen : (idx.length : Int) = args.width * args.height)
    (emphLen : (emph.length : Int) = args.width * args.height)
    {unknownColors idxMismatches emphMismatches : Nat}
    (clean : findFirstMismatch frame rgb idx emph inverse args.width =
      .ok (none, unknownColors, idxMismatches, emphMismatches)) :
    compareFrame args fs inverse frame =
      ⟨[.noMismatch frame unknownColors idxMismatches emphMismatches], .ok false⟩ := by
  simp only [compareFrame, pathExists, readRgb, readIdx, readEmph, Option.isSome_some,
    Bool.not_true, Bool.false_eq_true, if_false, pure_bind, loadRgb24, loadPlane,
    loadDump_of_some readRgb, loadDump_of_some readIdx, loadDump_of_some readEmph, mul_one, rgbLen,
    idxLen, emphLen, ne_eq, not_true_eq_false, Run.lift_ok_bind, clean, Run.print_bind]
  rfl

theorem compareFrame_frameLines (wide : args.width = width) (tall : args.height = height)
    {frame : Int} (read : DumpsRead args fs width height rgbDump idxDump emphDump frame) :
    compareFrame args fs inverse frame =
      ⟨frameLines inverse (rgbDump frame) (idxDump frame) (emphDump frame) frame width,
        .ok ((List.range (width * height)).any
          (isBad inverse (rgbDump frame) (idxDump frame) (emphDump frame)))⟩ := by
  obtain ⟨readRgb, readIdx, readEmph, rgbLen, idxLen, emphLen⟩ := read
  have located : findFirstMismatch frame (rgbDump frame) (idxDump frame) (emphDump frame) inverse
      args.width = .ok (scanOutcome inverse (rgbDump frame) (idxDump frame) (emphDump frame) frame
        width (List.range (idxDump frame).length) 0 0 0) :=
    wide ▸ @findFirstMismatch_of_size inverse _ _ _ frame _ _ rgbLen idxLen emphLen
  have rgbLen' : ((rgbDump frame).length : Int) = args.width * args.height * 3 := by
    rw [rgbLen, wide, tall]; push_cast; ring
  have idxLen' : ((idxDump frame).length : Int) = args.width * args.height := by
    rw [idxLen, wide, tall]; push_cast; ring
  have emphLen' : ((emphDump frame).length : Int) = args.width * args.height := by
    rw [emphLen, wide, tall]; push_cast; ring
  rw [← idxLen]
  rcases (locatesFirstBad_scanOutcome frame width :
      LocatesFirstBad inverse (rgbDump frame) (idxDump frame) (emphDump frame) frame width _)
    with ⟨allGood, result⟩ | ⟨i, lt, bad, before, result⟩ <;> rw [result] at located
  · rw [compareFrame_of_clean inverse readRgb readIdx readEmph rgbLen' idxLen' emphLen' located,
      frameLines, List.find?_range_eq_none.mpr fun i lt => by simp [allGood i lt],
      List.any_eq_false.mpr fun i mem => by simp [allGood i (List.mem_range.mp mem)]]
  · rw [compareFrame_of_found inverse readRgb readIdx readEmph rgbLen' idxLen' emphLen' located,
      frameLines, List.find?_range_eq_some.mpr ⟨bad, List.mem_range.mpr lt, fun j lt => by simp [before j lt]⟩,
      List.any_eq_true.mpr ⟨i, List.mem_range.mpr lt, bad⟩]

/-- Over frames whose dumps are read, the frame loop prints each frame's lines
in frame order and sets `found_any` exactly when it was set or some frame has
a bad pixel. -/
theorem frameLoop_frameLines (wide : args.width = width) (tall : args.height = height) :
    ∀ (frames : List Int) (foundAny : Bool),
      (∀ f ∈ frames, DumpsRead args fs width height rgbDump idxDump emphDump f) →
      frameLoop args fs inverse frames foundAny =
        ⟨frames.flatMap fun f => frameLines inverse (rgbDump f) (idxDump f) (emphDump f) f width,
          .ok (foundAny || frames.any fun f =>
            (List.range (width * height)).any (isBad inverse (rgbDump f) (idxDump f) (emphDump f)))⟩
  | [], foundAny, _ => by rw [frameLoop, List.flatMap_nil, List.any_nil, Bool.or_false]; rfl
  | f :: rest, foundAny, read => by
    rw [frameLoop, compareFrame_frameLines inverse wide tall (read f (List.mem_cons_self _ _)),
      Run.mk_ok_bind, frameLoop_frameLines wide tall rest _ fun g mem =>
        read g (List.mem_cons_of_mem _ mem)]
    simp only [List.flatMap_cons, List.any_cons, Bool.or_assoc]

/-- When every listed frame's three dumps are in place and of the frame's size,
the palette locator prints each frame's lines in frame order: the no-mismatch
line with all unknown colours counted and both mismatch counters `0`, or the
first bad pixel and the counters before it. It returns `1` exactly when some
frame has a bad pixel. -/
theorem main_reports (wide : args.width = width) (tall : args.height = height)
    {frames : List Int} (parsed : parseFramesCsv args.frames = .ok frames)
    (read : ∀ f ∈ frames, DumpsRead args fs width height rgbDump idxDump emphDump f) :
    main args fs =
      ⟨frames.flatMap fun f =>
          frameLines buildInverseRgbMap (rgbDump f) (idxDump f) (emphDump f) f width,
        .ok (if frames.any (fun f => (List.range (width * height)).any
          (isBad buildInverseRgbMap (rgbDump f) (idxDump f) (emphDump f))) then 1 else 0)⟩ := by
  simp only [main, parsed, Run.lift_ok_bind,
    frameLoop_frameLines buildInverseRgbMap wide tall frames false read, Bool.false_or,
    Run.mk_ok_bind, Run.printed_pure, Run.result_pure, List.append_nil]

/-- The frame loop reaching a frame whose dumps do not fit fails there, having
printed the lines of exactly the frames before it. -/
theorem frameLoop_of_misfit (wide : args.width = width) (tall : args.height = height)
    {frame : Int} (misfit : ¬ DumpsFit args fs frame) (post : List Int) :
    ∀ (pre : List Int) (foundAny : Bool),
      (∀ g ∈ pre, DumpsRead args fs width height rgbDump idxDump emphDump g) →
      (frameLoop args fs inverse (pre ++ frame :: post) foundAny).printed =
          pre.flatMap (fun f => frameLines inverse (rgbDump f) (idxDump f) (emphDump f) f width) ∧
        ∃ e, (frameLoop args fs inverse (pre ++ frame :: post) foundAny).result = .error e
  | [], foundAny, _ => by
    obtain ⟨none, e, failed⟩ := compareFrame_of_misfit inverse misfit
    rw [List.nil_append, frameLoop, Run.printed_bind_error _ failed, Run.result_bind_error _ failed,
      none]
    exact ⟨rfl, e, rfl⟩
  | g :: pre, foundAny, read => by
    rw [List.cons_append, frameLoop, compareFrame_frameLines inverse wide tall
      (read g (List.mem_cons_self _ _)), Run.mk_ok_bind]
    obtain ⟨printed, e, failed⟩ := frameLoop_of_misfit wide tall misfit post pre
      (foundAny || (List.range (width * height)).any (isBad inverse (rgbDump g) (idxDump g) (emphDump g)))
      fun h mem => read h (List.mem_cons_of_mem _ mem)
    exact ⟨by rw [printed, List.flatMap_cons], e, failed⟩

/-- When a listed frame's dumps do not fit, the locator fails there, having
printed the lines of exactly the frames before it. -/
theorem main_of_misfit (wide : args.width = width) (tall : args.height = height)
    {pre post : List Int} {frame : Int}
    (parsed : parseFramesCsv args.frames = .ok (pre ++ frame :: post))
    (read : ∀ g ∈ pre, DumpsRead args fs width height rgbDump idxDump emphDump g)
    (misfit : ¬ DumpsFit args fs frame) :
    (main args fs).printed = pre.flatMap (fun f =>
        frameLines buildInverseRgbMap (rgbDump f) (idxDump f) (emphDump f) f width) ∧
      ∃ e, (main args fs).result = .error e := by
  obtain ⟨printed, e, failed⟩ :=
    frameLoop_of_misfit buildInverseRgbMap wide tall misfit post pre false read
  simp only [main, parsed, Run.lift_ok_bind, Run.printed_bind_error _ failed,
    Run.result_bind_error _ failed, printed, true_and]
  exact ⟨e, rfl⟩

/-- Two one-pixel frames of the grey `0x666666`: NESium shows it with index
`0x00` in frame 0 and with index `0x05` in frame 1. -/
def cleanThenGreyFs : BytesFs := fun path =>
  if path = "mesen_f0.rgb24" ∨ path = "mesen_f1.rgb24" then some [0x66, 0x66, 0x66]
  else if path = "nesium_f0.idx8" then some [0x00]
  else if path = "nesium_f1.idx8" then some [0x05]
  else if path = "nesium_f0.emph8" ∨ path = "nesium_f1.emph8" then some [0x00]
  else none

theorem main_reports_cleanThenGrey :
    (main ⟨"mesen", "nesium", "0,1", 1, 1⟩ cleanThenGreyFs).result = .ok 1 ∧
      (main ⟨"mesen", "nesium", "0,1", 1, 1⟩ cleanThenGreyFs).printed.length = 3 ∧
      (main ⟨"mesen", "nesium", "0,1", 1, 1⟩ cleanThenGreyFs).printed.head? =
        some (.noMismatch 0 0 0 0) := by
  have tokens : (((pySplit ',' "0,1").map pyStrip).filter (· ≠ "")).mapM (pyIntOf · 10) =
      .ok [0, 1] := by
    rfl
  have parsed : parseFramesCsv "0,1" = .ok [0, 1] := by
    rw [parseFramesCsv, framesOfCsv_of_sorted tokens (by decide)]
    rfl
  have run := @main_reports ⟨"mesen", "nesium", "0,1", 1, 1⟩ cleanThenGreyFs 1 1
    (fun _ => [0x66, 0x66, 0x66]) (fun f => if f = 0 then [0x00] else [0x05]) (fun _ => [0x00])
    rfl rfl [0, 1] parsed (by
      intro f mem
      rcases List.mem_pair.mp mem with rfl | rfl <;> exact ⟨rfl, rfl, rfl, rfl, rfl, rfl⟩)
  have known : isUnknown buildInverseRgbMap [0x66, 0x66, 0x66] 0 = false := by
    rw [isUnknown_buildInverseRgbMap, decide_eq_true ⟨0, by decide, 0, by decide, rfl⟩]
    rfl
  have good : isBad buildInverseRgbMap [0x66, 0x66, 0x66] [0x00] [0x00] 0 = false := by
    rw [isBad_buildInverseRgbMap, decide_eq_true ⟨0, by decide, 0, by decide, rfl⟩]
    decide
  have bad : isBad buildInverseRgbMap [0x66, 0x66, 0x66] [0x05] [0x00] 0 = true := by
    rw [isBad_buildInverseRgbMap, decide_eq_true ⟨0, by decide, 0, by decide, rfl⟩]
    decide
  rw [run]
  simp only [List.flatMap_cons, List.flatMap_nil, List.any_cons, List.any_nil, frameLines,
    show List.range (1 * 1) = [0] from rfl, List.length_singleton, show List.range 1 = [0] from rfl,
    List.find?_cons, List.find?_nil, Int.one_ne_zero, if_true, if_false, good, bad, unknownBelow,
    List.filter_cons, List.filter_nil, known]
  exact ⟨rfl, rfl, rfl⟩

end Main

end NesiumTools.Palette

namespace NesiumTools

open Frame

/-- The frame loops read every argument but `--frames`. -/
theorem Rgb24.frameLoop_frames (args : Rgb24.Args) (value : String) (fs : BytesFs)
    (expectedBytes : Int) :
    ∀ frames, Rgb24.frameLoop { args with frames := value } fs expectedBytes frames =
      Rgb24.frameLoop args fs expectedBytes frames
  | [] => rfl
  | _ :: rest => by
    simp only [Rgb24.frameLoop, Rgb24.frameLoop_frames args value fs expectedBytes rest]
    rfl

theorem Palette.frameLoop_frames (args : Palette.Args) (value : String) (fs : BytesFs)
    (inverse : PyDict Rgb (List (Nat × Nat))) :
    ∀ frames foundAny, Palette.frameLoop { args with frames := value } fs inverse frames foundAny =
      Palette.frameLoop args fs inverse frames foundAny
  | [], _ => rfl
  | _ :: rest, _ => by
    simp only [Palette.frameLoop, Palette.frameLoop_frames args value fs inverse rest]
    rfl

/-- Both frame tools read `--frames` as a set: two values whose tokens are all
integers and list the same ones, in any order, with any repeats and blank
tokens, give each tool the same run, the same lines and the same outcome. -/
theorem main_frameSet (rgbArgs : Rgb24.Args) (paletteArgs : Palette.Args) (fs : BytesFs)
    {value value' : String} {ints ints' : List Int}
    (read : (((pySplit ',' value).map pyStrip).filter (· ≠ "")).mapM (pyIntOf · 10) = .ok ints)
    (read' : (((pySplit ',' value').map pyStrip).filter (· ≠ "")).mapM (pyIntOf · 10) = .ok ints')
    (same : ∀ f, f ∈ ints ↔ f ∈ ints') :
    Rgb24.main { rgbArgs with frames := value } fs = Rgb24.main { rgbArgs with frames := value' } fs ∧
      Palette.main { paletteArgs with frames := value } fs =
        Palette.main { paletteArgs with frames := value' } fs := by
  have frames := framesOfCsv_eq_of_same read read' same
  constructor
  · simp only [Rgb24.main, Rgb24.parseFramesCsv, frames, Rgb24.frameLoop_frames]
  · simp only [Palette.main, Palette.parseFramesCsv, frames, Palette.frameLoop_frames]

/-- `0,1` and ` 1,0,,0` list the same frames. -/
theorem main_frameSet_reordered :
    Rgb24.main ⟨"m", "n", "0,1", 1, 1⟩ Rgb24.onePixelFs =
        Rgb24.main ⟨"m", "n", " 1,0,,0", 1, 1⟩ Rgb24.onePixelFs ∧
      Palette.main ⟨"m", "n", "0,1", 1, 1⟩ Rgb24.onePixelFs =
        Palette.main ⟨"m", "n", " 1,0,,0", 1, 1⟩ Rgb24.onePixelFs :=
  @main_frameSet ⟨"m", "n", "", 1, 1⟩ ⟨"m", "n", "", 1, 1⟩ Rgb24.onePixelFs "0,1" " 1,0,,0"
    [0, 1] [1, 0, 0] rfl rfl (fun f => by
      simp only [List.mem_cons, List.mem_singleton, List.not_mem_nil, or_false]
      tauto)

end NesiumTools
