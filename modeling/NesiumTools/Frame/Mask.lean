import NesiumTools.Frame.Files

/-!
# `analyze_mask_diff.py`

The mask analyser compares two 1-bit-per-pixel masks of a `width * height`
frame, packed least significant bit first. It stops with status `1` when the
two files differ in length, only warns when their common length is not
`ceil(width * height / 8)`, and otherwise reports the differing pixels: their
number, their bounding box and the rows with the most of them. It returns `0`
whenever it gets that far.

`unpack_mask` fills a list of `width * height` zeros bit by bit; its inner
`break` ends the bits of the current byte, and every later byte breaks at once.
-/

namespace NesiumTools.Mask

open Frame

/-- The inner loop of `unpack_mask` over the bits `bits` of `byte`, from
`bit_index`. -/
def unpackBits (total : Int) (byte : UInt8) :
    List Nat → List Nat → Nat → Except PyError (List Nat × Nat)
  | [], pixels, bitIndex => .ok (pixels, bitIndex)
  | bit :: bits, pixels, bitIndex =>
    if (bitIndex : Int) ≥ total then .ok (pixels, bitIndex)
    else do
      let pixels ← pySet pixels bitIndex ((byte.toNat >>> bit) &&& 1)
      unpackBits total byte bits pixels (bitIndex + 1)

/-- The outer loop of `unpack_mask` over the bytes of the data. -/
def unpackBytes (total : Int) : List UInt8 → List Nat → Nat → Except PyError (List Nat × Nat)
  | [], pixels, bitIndex => .ok (pixels, bitIndex)
  | byte :: rest, pixels, bitIndex => do
    let (pixels, bitIndex) ← unpackBits total byte (List.range 8) pixels bitIndex
    unpackBytes total rest pixels bitIndex

/-- `unpack_mask(data, width, height)`. -/
def unpackMask (data : List UInt8) (width height : Int) : Except PyError (List Nat) := do
  let total := width * height
  let (pixels, _) ← unpackBytes total data (List.replicate total.toNat 0) 0
  pure pixels

/-- `[i for i in range(total) if pixels_a[i] != pixels_b[i]]` over the indices
`is`. -/
def diffPositionsOf (pixelsA pixelsB : List Nat) : List Nat → Except PyError (List Nat)
  | [] => .ok []
  | i :: rest => do
    let pa ← pyIndex pixelsA i
    let pb ← pyIndex pixelsB i
    let later ← diffPositionsOf pixelsA pixelsB rest
    pure (if pa ≠ pb then i :: later else later)

/-- The locals of the bounding-box loop of `main`. -/
structure BoxState where
  minX : Int
  maxX : Int
  minY : Int
  maxY : Int
  rowCounts : List Nat

/-- One pass of the bounding-box loop at position `idx`. -/
def boxStep (width : Int) (st : BoxState) (idx : Nat) : Except PyError BoxState := do
  let (y, x) ← pyDivmod idx width
  let rowCounts ← pyIncr st.rowCounts y
  pure ⟨if x < st.minX then x else st.minX, if x > st.maxX then x else st.maxX,
    if y < st.minY then y else st.minY, if y > st.maxY then y else st.maxY, rowCounts⟩

/-- The bounding-box loop of `main` over `diff_positions`. -/
def boxLoop (width : Int) : List Nat → BoxState → Except PyError BoxState
  | [], st => .ok st
  | idx :: rest, st => do
    let st ← boxStep width st idx
    boxLoop width rest st

/-- What `main` prints. -/
inductive MaskLine where
  /-- `size mismatch: len(a)=... len(b)=...` -/
  | sizeMismatch (lenA lenB : Nat)
  /-- `warning: file size ... differs from expected ... for WxH` -/
  | sizeWarning (size : Nat) (expected width height : Int)
  /-- `total_pixels=... diff_pixels=...` -/
  | totals (total : Int) (diffPixels : Nat)
  /-- `bbox=x[min_x,max_x] y[min_y,max_y]` -/
  | bbox (minX maxX minY maxY : Int)
  /-- `rows_with_diff=...` -/
  | rowsWithDiff (count : Nat)
  /-- `top_rows:` -/
  | topRowsHeader
  /-- `  y=... diff_pixels=...` -/
  | topRow (y diffPixels : Nat)
  deriving DecidableEq, Repr

/-- The parsed command line. -/
structure Args where
  a : String
  b : String
  width : Int := 256
  height : Int := 240
  topRows : Int := 20

/-- `main()`. -/
def main (args : Args) (fs : BytesFs) : Run MaskLine Nat := do
  let dataA ← Run.lift (readBytes fs args.a)
  let dataB ← Run.lift (readBytes fs args.b)
  if dataA.length ≠ dataB.length then
    Run.print (.sizeMismatch dataA.length dataB.length)
    return 1
  let expectedSize := (args.width * args.height + 7) / 8
  if (dataA.length : Int) ≠ expectedSize then
    Run.print (.sizeWarning dataA.length expectedSize args.width args.height)
  let pixelsA ← Run.lift (unpackMask dataA args.width args.height)
  let pixelsB ← Run.lift (unpackMask dataB args.width args.height)
  let total := args.width * args.height
  let diffPositions ← Run.lift (diffPositionsOf pixelsA pixelsB (List.range total.toNat))
  Run.print (.totals total diffPositions.length)
  if diffPositions.length = 0 then return 0
  let st ← Run.lift (boxLoop args.width diffPositions
    ⟨args.width, -1, args.height, -1, List.replicate args.height.toNat 0⟩)
  Run.print (.bbox st.minX st.maxX st.minY st.maxY)
  let nonzeroRows := st.rowCounts.enum.filter fun row => row.2 > 0
  Run.print (.rowsWithDiff nonzeroRows.length)
  Run.print .topRowsHeader
  Run.printAll ((pySliceTo (nonzeroRows.mergeSort rankBefore) args.topRows).map
    fun row => .topRow row.1 row.2)
  pure 0

end NesiumTools.Mask
