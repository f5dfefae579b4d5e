import NesiumTools.Frame.Rgb24Spec
import NesiumTools.Frame.Mask

/-!
# What the mask analyser computes

`unpack_mask` reads a mask least significant bit first: pixel `i` is bit
`i % 8` of byte `i / 8`, and `0` for a byte past the end of the data
(`maskBit`). Its two loops, with the inner `break` that also ends every later
byte at once, keep the pixel list equal to the bits read so far
(`prefixBits`), one bit at a time. The bounding-box loop of `main` likewise
keeps its locals equal to `boxAfter` of the positions it has seen.

* `unpackMask_eq`: `unpack_mask` is `maskBit` at every pixel of the frame.
* `unpackMask_bits`: hence the length and every pixel of what it returns, and
  that it undoes every packing of a list of bits.
* `diffPositionsOf_eq`: the loop collecting the differing positions is a filter,
  on the unpacked masks `maskDiffPositions` (`diffPositionsOf_unpacked`).
* `boxLoop_boxAfter`: the bounding-box loop ends in `boxAfter` of the differing
  positions, which bounds them tightly (`boxTight_boxAfter`).
* `main_maskDiff`: the positions `main` finds, their number as the population
  count of `a XOR b`, and the bounding box and row counts behind what it prints.
-/

namespace NesiumTools.Mask

open Frame Rgb24

/-! ## Unpacking -/

/-- Bit `i % 8` of byte `i / 8` of `data`, least significant first; `0` for a
byte past the end of the data. -/
def maskBit (data : List UInt8) (i : Nat) : Nat :=
  if i / 8 < data.length then ((data.getD (i / 8) 0).toNat >>> (i % 8)) &&& 1 else 0

/-- The pixels once the bits below `c` have been read: the mask's bits there,
the initial `0` elsewhere. -/
def prefixBits (data : List UInt8) (c i : Nat) : Nat := if i < c then maskBit data i else 0

/-- `data` holds the bits `bits` least significant bit first, eight to a byte,
in `ceil(len(bits) / 8)` bytes; the unused high bits of the last byte are
arbitrary. -/
structure PacksBits (data : List UInt8) (bits : List Nat) : Prop where
  length_eq : data.length = (bits.length + 7) / 8
  bit_eq : ∀ (i : Nat) (lt : i < bits.length), maskBit data i = bits[i]

section Unpack

variable {data : List UInt8} (total : Int)

theorem maskBit_of_past {i : Nat} (past : 8 * data.length ≤ i) : maskBit data i = 0 := by
  simp only [maskBit, ite_eq_right_iff]
  omega

theorem maskBit_byte {j k : Nat} (lt : j < data.length) (bit : k < 8) :
    maskBit data (8 * j + k) = ((data.getD j 0).toNat >>> k) &&& 1 := by
  have div : (8 * j + k) / 8 = j := by omega
  have mod : (8 * j + k) % 8 = k := by omega
  simp [maskBit, div, mod, lt]

/-- Reading bit `c` of the mask into a list that holds the bits below `c`. -/
theorem set_prefixBits (c n : Nat) :
    ((List.range n).map (prefixBits data c)).set c (maskBit data c) =
      (List.range n).map (prefixBits data (c + 1)) := by
  refine List.ext_getElem (by simp) fun i _ _ => ?_
  by_cases here : c = i
  · subst here; simp [prefixBits]
  · simp only [List.getElem_set, here, if_false, List.getElem_map, List.getElem_range, prefixBits]
    split_ifs <;> omega

/-- The bit loop over byte `j`, from bit `k` on, entered once the bits below
`8 * j + k` (or all `total` of them) are read, leaves once those below
`8 * j + 8` are. -/
theorem unpackBits_prefixBits {j : Nat} (lt : j < data.length) :
    ∀ (m k : Nat), k + m = 8 →
      unpackBits total (data.getD j 0) (List.range' k m)
          ((List.range total.toNat).map (prefixBits data (min (8 * j + k) total.toNat)))
          (min (8 * j + k) total.toNat) =
        .ok ((List.range total.toNat).map (prefixBits data (min (8 * j + 8) total.toNat)),
          min (8 * j + 8) total.toNat)
  | 0, k, eight => by
    obtain rfl : k = 8 := by omega
    rfl
  | m + 1, k, eight => by
    rw [List.range'_succ, unpackBits]
    by_cases room : 8 * j + k < total.toNat
    · have inRange : ¬ ((min (8 * j + k) total.toNat : Nat) : Int) ≥ total := by omega
      rw [if_neg inRange, min_eq_left room.le, pySet_natCast _ (by simpa using room),
        ← maskBit_byte lt (by omega), set_prefixBits]
      have later := unpackBits_prefixBits lt m (k + 1) (by omega)
      rw [show min (8 * j + (k + 1)) total.toNat = 8 * j + k + 1 by omega] at later
      exact later
    · have full : ((min (8 * j + k) total.toNat : Nat) : Int) ≥ total := by omega
      rw [if_pos full, min_eq_right (by omega), min_eq_right (by omega)]

/-- The byte loop over the bytes after `pre`, entered once the bits of `pre`
are read, ends with every bit of the data read. -/
theorem unpackBytes_prefixBits :
    ∀ (rest pre : List UInt8), pre ++ rest = data →
      unpackBytes total rest
          ((List.range total.toNat).map (prefixBits data (min (8 * pre.length) total.toNat)))
          (min (8 * pre.length) total.toNat) =
        .ok ((List.range total.toNat).map (prefixBits data (min (8 * data.length) total.toNat)),
          min (8 * data.length) total.toNat)
  | [], pre, whole => by
    rw [List.append_nil] at whole
    subst whole
    rfl
  | byte :: rest, pre, whole => by
    have lt : pre.length < data.length := by rw [← whole]; simp
    have at_ : data.getD pre.length 0 = byte := by
      rw [← whole, List.getD_eq_getElem?_getD, List.getElem?_append_right (le_refl _), Nat.sub_self]
      simp
    have bits := unpackBits_prefixBits total lt 8 0 rfl
    rw [at_, Nat.add_zero, ← List.range_eq_range'] at bits
    have later := unpackBytes_prefixBits rest (pre ++ [byte]) (by rw [← whole]; simp)
    rw [List.length_append, List.length_singleton, Nat.mul_succ] at later
    simp only [unpackBytes, bits, bind, Except.bind, later]

end Unpack

/-- `unpack_mask` gives pixel `i` of the frame the bit `maskBit data i`. -/
theorem unpackMask_eq (data : List UInt8) (width height : Int) :
    unpackMask data width height = .ok ((List.range (width * height).toNat).map (maskBit data)) := by
  have start : List.replicate (width * height).toNat 0 =
      (List.range (width * height).toNat).map (prefixBits data 0) := by
    rw [show prefixBits data 0 = fun _ => 0 from funext fun i => by simp [prefixBits],
      List.map_const', List.length_range]
  have loop := unpackBytes_prefixBits (width * height) data [] rfl
  simp only [List.nil_append, List.length_nil, Nat.mul_zero, Nat.zero_min] at loop
  have read : (List.range (width * height).toNat).map (prefixBits data
      (min (8 * data.length) (width * height).toNat)) = (List.range (width * height).toNat).map (maskBit data) := by
    refine List.map_congr_left fun i mem => ?_
    have lt := List.mem_range.mp mem
    by_cases inData : i < 8 * data.length
    · simp [prefixBits, inData, lt]
    · simp [prefixBits, inData, maskBit_of_past (not_lt.mp inData)]
  simp only [unpackMask, start, loop, read, bind, Except.bind, pure, Except.pure]

/-- On a frame of `width * height` pixels, `unpack_mask` returns one pixel per
pixel, pixel `i` being bit `i % 8` of byte `i / 8` of the data, or `0` past its
end; so it returns every list of bits from any least-significant-bit-first
packing of it. -/
theorem unpackMask_bits :
    (∀ (data : List UInt8) (width height : Nat), ∃ pixels,
        unpackMask data width height = .ok pixels ∧ pixels.length = width * height ∧
          ∀ (i : Nat) (lt : i < pixels.length), pixels[i] = maskBit data i) ∧
      ∀ (bits : List Nat) (data : List UInt8) (width height : Nat),
        bits.length = width * height → PacksBits data bits →
          unpackMask data width height = .ok bits := by
  have natural (width height : Nat) : ((width : Int) * height).toNat = width * height := by
    rw [← Nat.cast_mul, Int.toNat_natCast]
  refine ⟨fun data width height => ⟨_, unpackMask_eq data width height, by simp [natural],
    fun i _ => by simp⟩, fun bits data width height len packs => ?_⟩
  rw [unpackMask_eq, natural, ← len]
  exact congrArg Except.ok (List.ext_getElem (by simp) fun i _ lt => by simpa using packs.bit_eq i lt)

example : unpackMask [0xFD] (3 : Nat) (1 : Nat) = .ok [1, 0, 1] := by rfl

/-! ## The differing positions and their bounding box -/

/-- The positions below `n` at which the bits of the two masks differ, in
ascending order. -/
def maskDiffPositions (dataA dataB : List UInt8) (n : Nat) : List Nat :=
  (List.range n).filter fun i => maskBit dataA i ≠ maskBit dataB i

theorem lt_of_mem_maskDiffPositions {dataA dataB : List UInt8} {n p : Nat}
    (mem : p ∈ maskDiffPositions dataA dataB n) : p < n :=
  List.mem_range.mp (List.mem_of_mem_filter mem)

/-- Bit `i % 8` of byte `i / 8` of `a XOR b`, the bytes XORed pairwise. -/
def xorBit (dataA dataB : List UInt8) (i : Nat) : Nat :=
  (((dataA.getD (i / 8) 0).toNat ^^^ (dataB.getD (i / 8) 0).toNat) >>> (i % 8)) &&& 1

/-- The locals of the bounding-box loop of `main` once it has seen the
positions `ps`. -/
def boxAfter (width height : Nat) (ps : List Nat) : BoxState :=
  let xs := ps.map fun i => ((i % width : Nat) : Int)
  let ys := ps.map fun i => ((i / width : Nat) : Int)
  ⟨xs.foldl min width, xs.foldl max (-1), ys.foldl min height, ys.foldl max (-1),
    (List.range height).map fun y => (ps.filter fun i => i / width = y).length⟩

theorem shiftRight_and_one (x k : Nat) : (x >>> k) &&& 1 = if x.testBit k then 1 else 0 := by
  rw [Nat.and_one_is_mod, Nat.shiftRight_eq_div_pow, Nat.testBit_to_div_mod]
  rcases Nat.mod_two_eq_zero_or_one (x / 2 ^ k) with parity | parity <;> simp [parity]

/-- A bit of `a XOR b` is set exactly where the bits of the masks differ. -/
theorem xorBit_eq {dataA dataB : List UInt8} (same : dataA.length = dataB.length) (i : Nat) :
    xorBit dataA dataB i = if maskBit dataA i ≠ maskBit dataB i then 1 else 0 := by
  by_cases inData : i / 8 < dataA.length
  · simp only [xorBit, maskBit, inData, same ▸ inData, if_true, shiftRight_and_one,
      Nat.testBit_xor]
    cases (dataA.getD (i / 8) 0).toNat.testBit (i % 8) <;>
      cases (dataB.getD (i / 8) 0).toNat.testBit (i % 8) <;> rfl
  · have pastB : ¬ i / 8 < dataB.length := same ▸ inData
    simp [xorBit, maskBit, inData, pastB, List.getD_eq_getElem?_getD,
      List.getElem?_eq_none (not_lt.mp inData), List.getElem?_eq_none (not_lt.mp pastB)]

/-- The number of differing positions is the population count of `a XOR b`
over the first `n` bits. -/
theorem length_maskDiffPositions {dataA dataB : List UInt8} (same : dataA.length = dataB.length)
    (n : Nat) :
    (maskDiffPositions dataA dataB n).length = ((List.range n).map (xorBit dataA dataB)).sum := by
  rw [maskDiffPositions, funext (xorBit_eq same)]
  induction List.range n with
  | nil => rfl
  | cons i is ih =>
    rw [List.filter_cons, List.map_cons, List.sum_cons, ← ih]
    by_cases differ : maskBit dataA i = maskBit dataB i <;> simp [differ, Nat.add_comm]

example : maskDiffPositions [0x20] [0x00] 8 = [5] := by decide

section Box

variable {width height : Nat}

theorem boxAfter_nil : boxAfter width height [] =
    ⟨width, -1, height, -1, List.replicate height 0⟩ := by
  simp [boxAfter, List.map_const']

/-- One pass of the loop at a position of the frame adds it to what the locals
describe. -/
theorem boxStep_boxAfter {p : Nat} (ps : List Nat) (inFrame : p < width * height) :
    boxStep width (boxAfter width height ps) p = .ok (boxAfter width height (ps ++ [p])) := by
  have pos : 0 < width := Nat.pos_of_ne_zero fun zero => by simp [zero] at inFrame
  have row : p / width < height := (Nat.div_lt_iff_lt_mul pos).mpr (by rwa [Nat.mul_comm])
  simp only [boxStep, boxAfter, pyDivmod_of_pos p (Int.ofNat_pos.mpr pos), ← Int.natCast_div,
    ← Int.natCast_mod, pyIncr_natCast (show p / width < ((List.range height).map _).length by
      simpa using row), map_range_modify, bind, Except.bind, pure, Except.pure, if_lt_eq_min,
    if_gt_eq_max, List.map_append, List.map_cons, List.map_nil, List.foldl_append,
    List.foldl_cons, List.foldl_nil, List.filter_append, List.length_append]
  congr 2
  refine List.map_congr_left fun y _ => ?_
  by_cases here : p / width = y <;> simp [here]

/-- The loop over the positions after `pre`, from `boxAfter pre`, ends in
`boxAfter` of all of them. -/
theorem boxLoop_boxAfter :
    ∀ (rest pre : List Nat), (∀ p ∈ rest, p < width * height) →
      boxLoop width rest (boxAfter width height pre) = .ok (boxAfter width height (pre ++ rest))
  | [], pre, _ => by rw [List.append_nil]; rfl
  | p :: rest, pre, inFrame => by
    have later := boxLoop_boxAfter rest (pre ++ [p]) fun q mem => inFrame q (.tail _ mem)
    rw [List.append_assoc, List.singleton_append] at later
    simp only [boxLoop, boxStep_boxAfter pre (inFrame p (.head _)), bind, Except.bind, later]

theorem boxTight_boxAfter {ps : List Nat} (nonempty : ps ≠ [])
    (inFrame : ∀ i ∈ ps, i < width * height) :
    BoxTight width ps (boxAfter width height ps).minX (boxAfter width height ps).minY
      (boxAfter width height ps).maxX (boxAfter width height ps).maxY :=
  boxTight_folds nonempty inFrame

end Box

/-! ## What `main` reports -/

/-- The size warning `main` prints before comparing masks of `size` bytes. -/
def warningLines (args : Args) (size : Nat) : List MaskLine :=
  if (size : Int) ≠ (args.width * args.height + 7) / 8 then
    [.sizeWarning size ((args.width * args.height + 7) / 8) args.width args.height]
  else []

/-- What `main` reports on the masks `dataA` and `dataB` of a `width * height`
frame: the differing positions it computes are `maskDiffPositions`, their number,
printed after the optional warning, is the population count of `a XOR b` over the
frame's bits, and when there are some, the bounding-box loop counts them row by row
and `main` prints their tight bounding box next. -/
structure ReportsDiff (args : Args) (fs : BytesFs) (width height : Nat)
    (dataA dataB : List UInt8) : Prop where
  positions_eq : ∃ pixelsA pixelsB, unpackMask dataA args.width args.height = .ok pixelsA ∧
    unpackMask dataB args.width args.height = .ok pixelsB ∧
    diffPositionsOf pixelsA pixelsB (List.range (width * height)) =
      .ok (maskDiffPositions dataA dataB (width * height))
  count_eq : (maskDiffPositions dataA dataB (width * height)).length =
    ((List.range (width * height)).map (xorBit dataA dataB)).sum
  count_printed : ∃ rest, (main args fs).printed = warningLines args dataA.length ++
    .totals (args.width * args.height) (maskDiffPositions dataA dataB (width * height)).length :: rest
  box_printed : maskDiffPositions dataA dataB (width * height) ≠ [] → ∃ st rest,
    boxLoop args.width (maskDiffPositions dataA dataB (width * height))
        ⟨args.width, -1, args.height, -1, List.replicate args.height.toNat 0⟩ = .ok st ∧
      BoxTight width (maskDiffPositions dataA dataB (width * height)) st.minX st.minY st.maxX
        st.maxY ∧
      st.rowCounts = (List.range height).map
        (fun y => ((maskDiffPositions dataA dataB (width * height)).filter fun i => i / width = y).length) ∧
      (main args fs).printed = warningLines args dataA.length ++
        .totals (args.width * args.height) (maskDiffPositions dataA dataB (width * height)).length ::
          .bbox st.minX st.maxX st.minY st.maxY :: rest

/-- The differing positions are the indices whose pixels differ. -/
theorem diffPositionsOf_eq (pixelsA pixelsB : List Nat) :
    ∀ is : List Nat, (∀ i ∈ is, i < pixelsA.length ∧ i < pixelsB.length) →
      diffPositionsOf pixelsA pixelsB is =
        .ok (is.filter fun i => pixelsA.getD i 0 ≠ pixelsB.getD i 0)
  | [], _ => rfl
  | i :: rest, inRange => by
    have here := inRange i (List.mem_cons_self _ _)
    simp only [diffPositionsOf, pyIndex_getD 0 here.1, pyIndex_getD 0 here.2,
      diffPositionsOf_eq pixelsA pixelsB rest fun j mem => inRange j (List.mem_cons_of_mem _ mem), bind,
      Except.bind, pure, Except.pure, List.filter_cons]
    split <;> simp_all

/-- Read off the unpacked masks, the pixels whose bits differ are
`maskDiffPositions`. -/
theorem filter_unpacked (dataA dataB : List UInt8) (n : Nat) :
    (List.range n).filter (fun i => ((List.range n).map (maskBit dataA)).getD i 0 ≠
      ((List.range n).map (maskBit dataB)).getD i 0) = maskDiffPositions dataA dataB n :=
  List.filter_congr fun i mem => by simp [List.getD_eq_getElem?_getD, List.mem_range.mp mem]

theorem diffPositionsOf_unpacked (dataA dataB : List UInt8) (n : Nat) :
    diffPositionsOf ((List.range n).map (maskBit dataA)) ((List.range n).map (maskBit dataB))
      (List.range n) = .ok (maskDiffPositions dataA dataB n) := by
  rw [diffPositionsOf_eq _ _ _ fun i mem => by simpa using mem, filter_unpacked]

section Main

variable {args : Args} {fs : BytesFs} {width height : Nat} {dataA dataB : List UInt8}

theorem toNat_area (wide : args.width = width) (tall : args.height = height) :
    (args.width * args.height).toNat = width * height := by
  rw [wide, tall, ← Nat.cast_mul, Int.toNat_natCast]

/-- The bounding-box loop of `main`, from its initial locals, ends in `boxAfter`
of the differing positions. -/
theorem boxLoop_main (wide : args.width = width) (tall : args.height = height) :
    boxLoop args.width (maskDiffPositions dataA dataB (width * height))
        ⟨args.width, -1, args.height, -1, List.replicate args.height.toNat 0⟩ =
      .ok (boxAfter width height (maskDiffPositions dataA dataB (width * height))) := by
  rw [wide, tall, Int.toNat_natCast, ← boxAfter_nil]
  exact boxLoop_boxAfter _ [] fun _ => lt_of_mem_maskDiffPositions

/-- On masks of the same length, `main` prints the optional warning, then the
count of the differing positions, then, when there are some, the bounding box
of `boxAfter`, and returns `0`. -/
theorem main_of_maskDiff (wide : args.width = width) (tall : args.height = height)
    (readA : fs args.a = some dataA) (readB : fs args.b = some dataB)
    (same : dataA.length = dataB.length) :
    ∃ rest, main args fs = ⟨warningLines args dataA.length ++
      .totals (args.width * args.height) (maskDiffPositions dataA dataB (width * height)).length ::
        (if maskDiffPositions dataA dataB (width * height) = [] then []
        else .bbox (boxAfter width height (maskDiffPositions dataA dataB (width * height))).minX
          (boxAfter width height (maskDiffPositions dataA dataB (width * height))).maxX
          (boxAfter width height (maskDiffPositions dataA dataB (width * height))).minY
          (boxAfter width height (maskDiffPositions dataA dataB (width * height))).maxY :: rest),
      .ok 0⟩ := by
  have sameLength : (dataA.length = dataB.length) = True := eq_true same
  by_cases none : maskDiffPositions dataA dataB (width * height) = [] <;>
    by_cases warn : (dataA.length : Int) ≠ (args.width * args.height + 7) / 8 <;>
    simp only [main, readBytes, readA, readB, sameLength, not_true_eq_false, if_false,
      Run.lift_ok_bind, unpackMask_eq, toNat_area wide tall, diffPositionsOf_unpacked, none, warn,
      if_true, Run.print_bind, pure_bind, not_false_eq_true, Run.printed_pure, Run.result_pure,
      ne_eq, List.length_nil, List.length_eq_zero, boxLoop_main wide tall, Run.printAll_bind,
      warningLines] <;>
    first | exact ⟨[], rfl⟩ | exact ⟨_, rfl⟩

/-- On two masks of the same length, `main` finds the positions where their bits
differ, prints how many there are (the population count of `a XOR b`) and, when
there are some, their tight bounding box, with the per-row counts of the loop. -/
theorem main_maskDiff (wide : args.width = width) (tall : args.height = height)
    (readA : fs args.a = some dataA) (readB : fs args.b = some dataB)
    (same : dataA.length = dataB.length) : ReportsDiff args fs width height dataA dataB where
  positions_eq := ⟨_, _, unpackMask_eq .., unpackMask_eq .., by
    rw [toNat_area wide tall]; exact diffPositionsOf_unpacked ..⟩
  count_eq := length_maskDiffPositions same _
  count_printed := by
    obtain ⟨rest, run⟩ := main_of_maskDiff wide tall readA readB same
    exact ⟨_, by rw [run]⟩
  box_printed nonempty := by
    obtain ⟨rest, run⟩ := main_of_maskDiff wide tall readA readB same
    exact ⟨_, rest, boxLoop_main wide tall, boxTight_boxAfter nonempty fun _ =>
      lt_of_mem_maskDiffPositions, rfl, by rw [run, if_neg nonempty]⟩

/-- Two one-byte masks of an 8 x 1 frame that differ at pixel 5. -/
def pixelFiveFs : BytesFs := fun path => if path = "a" then some [0x20] else some [0x00]

theorem main_maskDiff_pixelFive :
    (⟨"a", "b", 8, 1, 20⟩ : Args).width = (8 : Nat) ∧ (⟨"a", "b", 8, 1, 20⟩ : Args).height = (1 : Nat) ∧
      pixelFiveFs "a" = some [0x20] ∧ pixelFiveFs "b" = some [0x00] ∧
      ([0x20] : List UInt8).length = ([0x00] : List UInt8).length ∧
      ReportsDiff ⟨"a", "b", 8, 1, 20⟩ pixelFiveFs 8 1 [0x20] [0x00] :=
  ⟨rfl, rfl, rfl, rfl, rfl, main_maskDiff rfl rfl rfl rfl rfl⟩

end Main

end NesiumTools.Mask
