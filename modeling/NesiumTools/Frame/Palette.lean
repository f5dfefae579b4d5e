import NesiumTools.Frame.Files

/-!
# `find_first_palette_index_diff.py`

Mesen dumps the colours it shows (`.rgb24`); NESium dumps, per pixel, the
palette index and emphasis bits it used (`.idx8`, `.emph8`). The tool
explains each Mesen colour by the `(index, emphasis)` pairs that produce it
under the 2C02 palette and the emphasis attenuation model, and reports the
first pixel whose NESium pair is not among them.

`applyEmphasis` computes in binary64 floating point, as the Python code does,
so it is modelled with `Float`. Nothing proved here looks inside it: the
reverse map is exact for any forward colour function (`Palette.Spec`).
-/

namespace NesiumTools.Palette

open Frame

/-- An RGB triple as Python ints. -/
abbrev Rgb := Nat × Nat × Nat

/-- `MESEN_2C02_64`: the Mesen2 RP2C02 palette, indices `0x00`-`0x3F`. -/
def mesen2C02_64 : List Rgb := [
  (0x66, 0x66, 0x66), (0x00, 0x2A, 0x88), (0x14, 0x12, 0xA7), (0x3B, 0x00, 0xA4),
  (0x5C, 0x00, 0x7E), (0x6E, 0x00, 0x40), (0x6C, 0x06, 0x00), (0x56, 0x1D, 0x00),
  (0x33, 0x35, 0x00), (0x0B, 0x48, 0x00), (0x00, 0x52, 0x00), (0x00, 0x4F, 0x08),
  (0x00, 0x40, 0x4D), (0x00, 0x00, 0x00), (0x00, 0x00, 0x00), (0x00, 0x00, 0x00),
  (0xAD, 0xAD, 0xAD), (0x15, 0x5F, 0xD9), (0x42, 0x40, 0xFF), (0x75, 0x27, 0xFE),
  (0xA0, 0x1A, 0xCC), (0xB7, 0x1E, 0x7B), (0xB5, 0x31, 0x20), (0x99, 0x4E, 0x00),
  (0x6B, 0x6D, 0x00), (0x38, 0x87, 0x00), (0x0C, 0x93, 0x00), (0x00, 0x8F, 0x32),
  (0x00, 0x7C, 0x8D), (0x00, 0x00, 0x00), (0x00, 0x00, 0x00), (0x00, 0x00, 0x00),
  (0xFF, 0xFE, 0xFF), (0x64, 0xB0, 0xFF), (0x92, 0x90, 0xFF), (0xC6, 0x76, 0xFF),
  (0xF3, 0x6A, 0xFF), (0xFE, 0x6E, 0xCC), (0xFE, 0x81, 0x70), (0xEA, 0x9E, 0x22),
  (0xBC, 0xBE, 0x00), (0x88, 0xD8, 0x00), (0x5C, 0xE4, 0x30), (0x45, 0xE0, 0x82),
  (0x48, 0xCD, 0xDE), (0x4F, 0x4F, 0x4F), (0x00, 0x00, 0x00), (0x00, 0x00, 0x00),
  (0xFF, 0xFE, 0xFF), (0xC0, 0xDF, 0xFF), (0xD3, 0xD2, 0xFF), (0xE8, 0xC8, 0xFF),
  (0xFB, 0xC2, 0xFF), (0xFE, 0xC4, 0xEA), (0xFE, 0xCC, 0xC5), (0xF7, 0xD8, 0xA5),
  (0xE4, 0xE5, 0x94), (0xCF, 0xEF, 0x96), (0xBD, 0xF4, 0xAB), (0xB3, 0xF3, 0xCC),
  (0xB5, 0xEB, 0xF2), (0xB8, 0xB8, 0xB8), (0x00, 0x00, 0x00), (0x00, 0x00, 0x00)]

/-- `int(max(0.0, min(255.0, c)))`: clamp, then truncate toward zero. -/
def clampTruncate (c : Float) : Nat := (max 0.0 (min 255.0 c)).toUInt8.toNat

/-- `apply_emphasis(rgb, color_index, emphasis)`: each set emphasis bit scales
two channels by `0.84`; indices with low nibble above `0x0D` pass through. -/
def applyEmphasis (rgb : Rgb) (colorIndex emphasis : Nat) : Rgb :=
  let emphasis := emphasis &&& 0x07
  if emphasis = 0 ∨ (colorIndex &&& 0x0F) > 0x0D then rgb else
  let r := Float.ofNat rgb.1
  let g := Float.ofNat rgb.2.1
  let b := Float.ofNat rgb.2.2
  let (g, b) := if emphasis &&& 0x01 ≠ 0 then (g * 0.84, b * 0.84) else (g, b)
  let (r, b) := if emphasis &&& 0x02 ≠ 0 then (r * 0.84, b * 0.84) else (r, b)
  let (r, g) := if emphasis &&& 0x04 ≠ 0 then (r * 0.84, g * 0.84) else (r, g)
  (clampTruncate r, clampTruncate g, clampTruncate b)

/-- `inverse.setdefault(rgb, []).append(pair)`. -/
def addCandidate (inverse : PyDict Rgb (List (Nat × Nat))) (rgb : Rgb) (pair : Nat × Nat) :
    PyDict Rgb (List (Nat × Nat)) :=
  inverse.insert rgb ((inverse.get rgb).getD [] ++ [pair])

/-- `build_inverse_rgb_map()`: every colour of the 64 indices under the 8
emphasis masks, with the pairs that produce it, in generation order. -/
def buildInverseRgbMap : PyDict Rgb (List (Nat × Nat)) :=
  (List.range 64).foldl
    (fun inverse idx =>
      let base := mesen2C02_64.getD idx (0, 0, 0)
      (List.range 8).foldl
        (fun inverse emph => addCandidate inverse (applyEmphasis base idx emph) (idx, emph))
        inverse)
    []

/-! ## The locator -/

/-- `FirstMismatch`. -/
structure FirstMismatch where
  frame : Int
  pixelIndex : Nat
  x : Int
  y : Int
  mesenRgb : Rgb
  candidates : List (Nat × Nat)
  actualIdx : Nat
  actualEmph : Nat
  reason : String
  deriving DecidableEq, Repr

/-- The loop of `find_first_mismatch` over the pixel indices still to scan,
with the three counters so far. -/
def scanPixels (frame : Int) (mesenRgb24 nesiumIdx nesiumEmph : List UInt8)
    (inverse : PyDict Rgb (List (Nat × Nat))) (width : Int) :
    List Nat → Nat → Nat → Nat → Except PyError (Option FirstMismatch × Nat × Nat × Nat)
  | [], unknownColors, idxMismatches, emphMismatches =>
    .ok (none, unknownColors, idxMismatches, emphMismatches)
  | i :: rest, unknownColors, idxMismatches, emphMismatches => do
    let r ← pyIndex mesenRgb24 (i * 3 : Nat)
    let g ← pyIndex mesenRgb24 (i * 3 + 1 : Nat)
    let b ← pyIndex mesenRgb24 (i * 3 + 2 : Nat)
    let rgb : Rgb := (r.toNat, g.toNat, b.toNat)
    let candidates := (inverse.get rgb).getD []
    if candidates.isEmpty then
      scanPixels frame mesenRgb24 nesiumIdx nesiumEmph inverse width rest
        (unknownColors + 1) idxMismatches emphMismatches
    else
      let actualIdx := (← pyIndex nesiumIdx i).toNat &&& 0x3F
      let actualEmph := (← pyIndex nesiumEmph i).toNat &&& 0x07
      if (actualIdx, actualEmph) ∈ candidates then
        scanPixels frame mesenRgb24 nesiumIdx nesiumEmph inverse width rest
          unknownColors idxMismatches emphMismatches
      else
        let expectedIdxs := candidates.map (·.1)
        let (idxMismatches, emphMismatches, reason) :=
          if actualIdx ∉ expectedIdxs then (idxMismatches + 1, emphMismatches, "palette_index")
          else (idxMismatches, emphMismatches + 1, "emphasis_bits")
        let (y, x) ← pyDivmod i width
        pure (some ⟨frame, i, x, y, rgb, candidates, actualIdx, actualEmph, reason⟩,
          unknownColors, idxMismatches, emphMismatches)

/-- `find_first_mismatch(frame, mesen_rgb24, nesium_idx, nesium_emph, inverse,
width)`. -/
def findFirstMismatch (frame : Int) (mesenRgb24 nesiumIdx nesiumEmph : List UInt8)
    (inverse : PyDict Rgb (List (Nat × Nat))) (width : Int) :
    Except PyError (Option FirstMismatch × Nat × Nat × Nat) :=
  scanPixels frame mesenRgb24 nesiumIdx nesiumEmph inverse width (List.range nesiumIdx.length)
    0 0 0

/-! ## `main` -/

/-- `load_rgb24` and `load_plane`: the dump, which must hold exactly
`width * height * bytesPerPixel` bytes. -/
def loadDump (fs : BytesFs) (path : String) (width height bytesPerPixel : Int) :
    Except PyError (List UInt8) := do
  let data ← readBytes fs path
  let expected := width * height * bytesPerPixel
  if (data.length : Int) ≠ expected then
    .error (.valueError (path ++ ": expected " ++ toString expected ++ " bytes, got " ++
      toString data.length))
  else pure data

/-- `load_rgb24(path, width, height)`. -/
def loadRgb24 (fs : BytesFs) (path : String) (width height : Int) : Except PyError (List UInt8) :=
  loadDump fs path width height 3

/-- `load_plane(path, width, height)`. -/
def loadPlane (fs : BytesFs) (path : String) (width height : Int) : Except PyError (List UInt8) :=
  loadDump fs path width height 1

/-- `parse_frames_csv(value)`: at least one frame. -/
def parseFramesCsv (value : String) : Except PyError (List Int) := do
  let frames ← framesOfCsv value
  if frames = [] then .error (.valueError "frame list must not be empty") else pure frames

/-- What `main` prints. -/
inductive PaletteLine where
  /-- `FRAME f: no mismatch found (unknown_colors=..., ...)` -/
  | noMismatch (frame : Int) (unknownColors idxMismatches emphMismatches : Nat)
  /-- The three lines describing a first mismatch; `shown` is what
  `fmt_candidates` prints (at most eight candidates). -/
  | firstMismatch (mismatch : FirstMismatch) (shown : List (Nat × Nat))
  /-- `counters_before_first: ...` -/
  | countersBeforeFirst (unknownColors idxMismatches emphMismatches : Nat)

/-- The parsed command line. -/
structure Args where
  mesenPrefix : String
  nesiumPrefix : String
  frames : String := "60"
  width : Int := 256
  height : Int := 240

/-- The body of the frame loop of `main`: check and load the three dumps of
`frame`, locate the first mismatch, print it; the value is whether one was
found. -/
def compareFrame (args : Args) (fs : BytesFs) (inverse : PyDict Rgb (List (Nat × Nat)))
    (frame : Int) : Run PaletteLine Bool := do
  let mesenPath := dumpPath args.mesenPrefix frame "rgb24"
  let idxPath := dumpPath args.nesiumPrefix frame "idx8"
  let emphPath := dumpPath args.nesiumPrefix frame "emph8"
  if !pathExists fs mesenPath then Run.raise (.fileNotFound ("missing Mesen frame: " ++ mesenPath))
  if !pathExists fs idxPath then
    Run.raise (.fileNotFound ("missing NESium index frame: " ++ idxPath))
  if !pathExists fs emphPath then
    Run.raise (.fileNotFound ("missing NESium emphasis frame: " ++ emphPath))
  let mesenRgb24 ← Run.lift (loadRgb24 fs mesenPath args.width args.height)
  let nesiumIdx ← Run.lift (loadPlane fs idxPath args.width args.height)
  let nesiumEmph ← Run.lift (loadPlane fs emphPath args.width args.height)
  let (mismatch, unknownColors, idxMismatches, emphMismatches) ←
    Run.lift (findFirstMismatch frame mesenRgb24 nesiumIdx nesiumEmph inverse args.width)
  match mismatch with
  | none => do
    Run.print (.noMismatch frame unknownColors idxMismatches emphMismatches)
    pure false
  | some mismatch => do
    Run.print (.firstMismatch mismatch (mismatch.candidates.take 8))
    Run.print (.countersBeforeFirst unknownColors idxMismatches emphMismatches)
    pure true

/-- The frame loop of `main`, with `found_any` so far. -/
def frameLoop (args : Args) (fs : BytesFs) (inverse : PyDict Rgb (List (Nat × Nat))) :
    List Int → Bool → Run PaletteLine Bool
  | [], foundAny => pure foundAny
  | frame :: rest, foundAny => do
    let found ← compareFrame args fs inverse frame
    frameLoop args fs inverse rest (foundAny || found)

/-- `main()`. -/
def main (args : Args) (fs : BytesFs) : Run PaletteLine Nat := do
  let frames ← Run.lift (parseFramesCsv args.frames)
  let foundAny ← frameLoop args fs buildInverseRgbMap frames false
  pure (if foundAny then 1 else 0)

end NesiumTools.Palette
