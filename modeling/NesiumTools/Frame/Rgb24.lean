import NesiumTools.Frame.Files
import Mathlib.Data.Rat.Defs

/-!
# `diff_rgb24_frames.py`

The RGB24 comparator reads, for each listed frame, the Mesen and NESium dumps
of `width * height` pixels and summarises where and by how much they differ:
how many pixels differ, the mean and largest absolute difference per channel,
the bounding box of the differing pixels, the most frequent difference triples
and the rows and columns with the most differing pixels.

The pixel loop keeps its per-channel locals (`sum_abs_r`, ...) as triples in
`r, g, b` order. `pct_diff` and the means are Python floats computed by one
true division each (and, for `pct_diff`, a multiplication by `100.0`); they are
kept here as the exact rationals that Python rounds to binary64. The
percentage of the `TOTAL` line is kept as the binary64 value itself.

`main` opens the dumps at `Path(f"{Path(prefix)}_f{frame}.rgb24")`: the
prefix is normalised as a path before the frame is appended.
-/

namespace NesiumTools.Rgb24

open Frame

/-- A pixel of an RGB24 dump, its three bytes as Python ints. -/
abbrev Pixel := Nat × Nat × Nat

/-- A per-channel difference `(dr, dg, db)`. -/
abbrev Delta := Int × Int × Int

/-- `FrameDiffStats`. The tool's `pct_diff` is `pctDiff` rounded to binary64
twice, after the division and after the multiplication by `100.0`; each
`mean_abs_*` is the field rounded once. -/
structure FrameDiffStats where
  frame : Int
  pixelsTotal : Int
  pixelsDiff : Nat
  pctDiff : ℚ
  meanAbsR : ℚ
  meanAbsG : ℚ
  meanAbsB : ℚ
  maxAbsR : Nat
  maxAbsG : Nat
  maxAbsB : Nat
  bbox : Option (Int × Int × Int × Int)
  topDeltas : List (Delta × Nat)
  topRows : List (Nat × Nat)
  topCols : List (Nat × Nat)
  deriving DecidableEq, Repr

/-- `iter_pixels(buf)`: the triples at byte offsets `0, 3, 6, ...`; a trailing
partial triple raises `IndexError` when the generator reaches it. -/
def iterPixels (buf : List UInt8) : List (Except PyError Pixel) :=
  (List.range ((buf.length + 2) / 3)).map fun k => do
    let r ← pyIndex buf (3 * k : Nat)
    let g ← pyIndex buf (3 * k + 1 : Nat)
    let b ← pyIndex buf (3 * k + 2 : Nat)
    pure (r.toNat, g.toNat, b.toNat)

/-- `zip` of two generators: it stops when the first is exhausted, asks the
second only after the first has yielded, and passes on the first exception. -/
def pyZip {α β : Type} :
    List (Except PyError α) → List (Except PyError β) → List (Except PyError (α × β))
  | [], _ => []
  | .error e :: _, _ => [.error e]
  | .ok _ :: _, [] => []
  | .ok _ :: _, .error e :: _ => [.error e]
  | .ok x :: xs, .ok y :: ys => .ok (x, y) :: pyZip xs ys

/-- `counter[key] += 1` on a `Counter`. -/
def counterIncr {κ : Type} [DecidableEq κ] (counts : PyDict κ Nat) (key : κ) : PyDict κ Nat :=
  counts.insert key ((counts.get key).getD 0 + 1)

/-- The locals of the pixel loop of `compute_frame_diff`. -/
structure DiffState where
  pixelsDiff : Nat
  sumAbs : Nat × Nat × Nat
  maxAbs : Nat × Nat × Nat
  deltaCounts : PyDict Delta Nat
  rowCounts : List Nat
  colCounts : List Nat
  minX : Int
  minY : Int
  maxX : Int
  maxY : Int

/-- `if a > m: m = a`, channel by channel. -/
def raiseMax (m a : Nat × Nat × Nat) : Nat × Nat × Nat :=
  (if a.1 > m.1 then a.1 else m.1, if a.2.1 > m.2.1 then a.2.1 else m.2.1,
    if a.2.2 > m.2.2 then a.2.2 else m.2.2)

/-- One pass of the pixel loop at `idx`, comparing `pa` from `a` with `pb`
from `b`. -/
def diffStep (width : Int) (st : DiffState) (idx : Nat) (pa pb : Pixel) :
    Except PyError DiffState :=
  let d : Delta := ((pb.1 : Int) - pa.1, (pb.2.1 : Int) - pa.2.1, (pb.2.2 : Int) - pa.2.2)
  if d.1 = 0 ∧ d.2.1 = 0 ∧ d.2.2 = 0 then .ok st else do
    let abs : Nat × Nat × Nat := (d.1.natAbs, d.2.1.natAbs, d.2.2.natAbs)
    let (y, x) ← pyDivmod idx width
    let rowCounts ← pyIncr st.rowCounts y
    let colCounts ← pyIncr st.colCounts x
    pure ⟨st.pixelsDiff + 1, (st.sumAbs.1 + abs.1, st.sumAbs.2.1 + abs.2.1, st.sumAbs.2.2 + abs.2.2),
      raiseMax st.maxAbs abs, counterIncr st.deltaCounts d, rowCounts, colCounts,
      if x < st.minX then x else st.minX, if y < st.minY then y else st.minY,
      if x > st.maxX then x else st.maxX, if y > st.maxY then y else st.maxY⟩

/-- The pixel loop over `enumerate(zip(iter_pixels(a), iter_pixels(b)))`, from
index `idx` on. -/
def diffLoop (width : Int) :
    List (Except PyError (Pixel × Pixel)) → Nat → DiffState → Except PyError DiffState
  | [], _, st => .ok st
  | .error e :: _, _, _ => .error e
  | .ok (pa, pb) :: rest, idx, st => do
    let st ← diffStep width st idx pa pb
    diffLoop width rest (idx + 1) st

/-- `counter.most_common(n)`: by count, largest first, ties in insertion order
(`heapq.nlargest` is `sorted(..., reverse=True)[:n]`, which is stable). -/
def mostCommon {κ : Type} (counts : PyDict κ Nat) (n : Nat) : List (κ × Nat) :=
  (counts.mergeSort fun x y => y.2 ≤ x.2).take n

/-- `sorted(((i, c) for i, c in enumerate(counts) if c > 0), key=...)[:10]`. -/
def topRanked (counts : List Nat) : List (Nat × Nat) :=
  ((counts.enum.filter fun p => p.2 > 0).mergeSort rankBefore).take 10

/-- The rest of `compute_frame_diff` after the pixel loop: the record built
from the loop's locals. -/
def summarise (frame width height : Int) (st : DiffState) : FrameDiffStats :=
  let pixelsTotal := width * height
  let pctDiff : ℚ := if pixelsTotal ≠ 0 then (st.pixelsDiff : ℚ) / pixelsTotal * 100 else 0
  let mean (sum : Nat) : ℚ := if st.pixelsDiff = 0 then 0 else (sum : ℚ) / st.pixelsDiff
  ⟨frame, pixelsTotal, st.pixelsDiff, pctDiff, mean st.sumAbs.1, mean st.sumAbs.2.1,
    mean st.sumAbs.2.2, st.maxAbs.1, st.maxAbs.2.1, st.maxAbs.2.2,
    if st.pixelsDiff = 0 then none else some (st.minX, st.minY, st.maxX, st.maxY),
    mostCommon st.deltaCounts 10, topRanked st.rowCounts, topRanked st.colCounts⟩

/-- `compute_frame_diff(frame, a, b, width, height)`. -/
def computeFrameDiff (frame : Int) (a b : List UInt8) (width height : Int) :
    Except PyError FrameDiffStats := do
  let st ← diffLoop width (pyZip (iterPixels a) (iterPixels b)) 0
    ⟨0, (0, 0, 0), (0, 0, 0), [], List.replicate height.toNat 0, List.replicate width.toNat 0,
      width, height, -1, -1⟩
  pure (summarise frame width height st)

/-! ## `main` -/

/-- `parse_frames_csv(value)`: at least two distinct frames. -/
def parseFramesCsv (value : String) : Except PyError (List Int) := do
  let frames ← framesOfCsv value
  if frames.length < 2 then
    .error (.valueError ("need at least 2 distinct frames, got " ++ toString frames.length))
  else pure frames

/-- `read_rgb24(path, expected_bytes)`. -/
def readRgb24 (fs : BytesFs) (path : String) (expectedBytes : Int) :
    Except PyError (List UInt8) := do
  let data ← readBytes fs path
  if (data.length : Int) ≠ expectedBytes then
    .error (.valueError (path ++ ": rgb24 size mismatch, expected " ++ toString expectedBytes ++
      ", got " ++ toString data.length))
  else pure data

/-- What `main` prints. -/
inductive Rgb24Line where
  /-- `print_stats(stats)`: the lines summarising one frame. -/
  | stats (stats : FrameDiffStats)
  /-- `TOTAL: diff=.../... (...%) across n frames` -/
  | total (totalDiff : Nat) (totalPixels : Int) (pct : Float) (frames : Nat)

/-- The parsed command line. -/
structure Args where
  mesenPrefix : String
  nesiumPrefix : String
  frames : String := "60,180,360,600"
  width : Int := 256
  height : Int := 240

/-- The body of the frame loop of `main`: check, load and compare the two dumps
of `frame`, and print the summary. The prefixes are `Path(args.mesen_prefix)`
and `Path(args.nesium_prefix)`, which `main` builds before the loop. -/
def compareFrame (args : Args) (fs : BytesFs) (expectedBytes : Int) (frame : Int) :
    Run Rgb24Line FrameDiffStats := do
  let mesenPath := dumpPath (pyPath args.mesenPrefix) frame "rgb24"
  let nesiumPath := dumpPath (pyPath args.nesiumPrefix) frame "rgb24"
  if !pathExists fs mesenPath then Run.raise (.fileNotFound ("missing mesen dump: " ++ mesenPath))
  if !pathExists fs nesiumPath then
    Run.raise (.fileNotFound ("missing nesium dump: " ++ nesiumPath))
  let mesen ← Run.lift (readRgb24 fs mesenPath expectedBytes)
  let nesium ← Run.lift (readRgb24 fs nesiumPath expectedBytes)
  let stats ← Run.lift (computeFrameDiff frame mesen nesium args.width args.height)
  Run.print (.stats stats)
  pure stats

/-- The frame loop of `main`, collecting `all_stats`. -/
def frameLoop (args : Args) (fs : BytesFs) (expectedBytes : Int) :
    List Int → Run Rgb24Line (List FrameDiffStats)
  | [] => pure []
  | frame :: rest => do
    let stats ← compareFrame args fs expectedBytes frame
    let later ← frameLoop args fs expectedBytes rest
    pure (stats :: later)

/-- `main()`. -/
def main (args : Args) (fs : BytesFs) : Run Rgb24Line Nat := do
  let frames ← Run.lift (parseFramesCsv args.frames)
  let allStats ← frameLoop args fs (args.width * args.height * 3) frames
  let totalPixels : Int := (allStats.map (·.pixelsTotal)).sum
  let totalDiff : Nat := (allStats.map (·.pixelsDiff)).sum
  let pct : Float :=
    if totalPixels ≠ 0 then Float.ofNat totalDiff / Float.ofInt totalPixels * 100.0 else 0.0
  Run.print (.total totalDiff totalPixels pct allStats.length)
  pure 0

end NesiumTools.Rgb24
