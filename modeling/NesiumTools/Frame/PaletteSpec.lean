import NesiumTools.Frame.Palette

/-!
# What `find_first_mismatch` computes

`find_first_mismatch` scans the pixels in order. A pixel whose colour the
reverse map does not know is counted and skipped, a pixel whose NESium pair is
among its colour's candidates is skipped, and the first other pixel, a *bad*
one, stops the scan. `scanPixels_eq` says this of every list of in-range pixel
indices at once: the pixel that stops the scan is the `List.find?` of the bad
ones, and the pixels counted as unknown are those of the `List.takeWhile`
prefix before it. `findFirstMismatch_locates` reads it off over a whole frame.

The reverse map of the 2C02 palette is exact: a pair is a candidate for a
colour iff it produces that colour (`mem_candidates_buildInverseRgbMap`), and
this follows for any forward colour function from how `setdefault(...).append`
accumulates (`candidates_foldl_addCandidate`). Composed with the scan, the
tool reports exactly the pixels whose colour is a palette colour other than
the one their own pair produces (`findFirstMismatch_buildInverseRgbMap`).
-/

namespace NesiumTools.Palette

open Frame

/-! ## Pixels as the scan reads them -/

section Pixels

variable (inverse : PyDict Rgb (List (Nat × Nat))) (rgb idx emph : List UInt8)

/-- The colour of pixel `i` of an RGB24 dump. -/
def pixelRgb (i : Nat) : Rgb :=
  ((rgb.getD (i * 3) 0).toNat, (rgb.getD (i * 3 + 1) 0).toNat, (rgb.getD (i * 3 + 2) 0).toNat)

/-- The pairs the reverse map gives for pixel `i`'s colour. -/
def candidatesAt (i : Nat) : List (Nat × Nat) := (inverse.get (pixelRgb rgb i)).getD []

/-- NESium's pair for pixel `i`: six index bits and three emphasis bits. -/
def actualAt (i : Nat) : Nat × Nat :=
  ((idx.getD i 0).toNat &&& 0x3F, (emph.getD i 0).toNat &&& 0x07)

/-- Pixel `i`'s colour is unknown to the reverse map. -/
def isUnknown (i : Nat) : Bool := (candidatesAt inverse rgb i).isEmpty

/-- Pixel `i`'s colour is known, and NESium's pair is not among its candidates. -/
def isBad (i : Nat) : Bool :=
  !isUnknown inverse rgb i && !decide (actualAt idx emph i ∈ candidatesAt inverse rgb i)

/-- NESium's palette index is not the index of any candidate of pixel `i`. -/
def indexMissing (i : Nat) : Bool :=
  !decide ((actualAt idx emph i).1 ∈ (candidatesAt inverse rgb i).map (·.1))

/-- The record of a bad pixel `i`, field by field as the locator should fill it:
`(y, x) = divmod(i, width)`, which for a positive width is Lean's `/` and `%`. -/
def mismatchAt (frame width : Int) (i : Nat) : FirstMismatch :=
  ⟨frame, i, (i : Int) % width, (i : Int) / width, pixelRgb rgb i, candidatesAt inverse rgb i,
    (actualAt idx emph i).1, (actualAt idx emph i).2,
    if indexMissing inverse rgb idx emph i then "palette_index" else "emphasis_bits"⟩

/-- The scan of the pixels `is` from counters `unknownColors`, `idxMismatches`
and `emphMismatches`: stop at the first bad pixel, count the unknown pixels
before it, and count the stopping pixel under its reason. -/
def scanOutcome (frame width : Int) (is : List Nat) (unknownColors idxMismatches emphMismatches : Nat) :
    Option FirstMismatch × Nat × Nat × Nat :=
  let unknownColors :=
    unknownColors + ((is.takeWhile (!isBad inverse rgb idx emph ·)).filter (isUnknown inverse rgb)).length
  match is.find? (isBad inverse rgb idx emph) with
  | none => (none, unknownColors, idxMismatches, emphMismatches)
  | some i =>
    if indexMissing inverse rgb idx emph i then
      (some (mismatchAt inverse rgb idx emph frame width i), unknownColors, idxMismatches + 1,
        emphMismatches)
    else
      (some (mismatchAt inverse rgb idx emph frame width i), unknownColors, idxMismatches,
        emphMismatches + 1)

end Pixels

/-! ## The scan -/

section Scan

variable {inverse : PyDict Rgb (List (Nat × Nat))} {rgb idx emph : List UInt8} {frame width : Int}

theorem scanOutcome_cons_of_good {i : Nat} (rest : List Nat) (u im em : Nat)
    (good : isBad inverse rgb idx emph i = false) :
    scanOutcome inverse rgb idx emph frame width (i :: rest) u im em =
      scanOutcome inverse rgb idx emph frame width rest
        (u + if isUnknown inverse rgb i then 1 else 0) im em := by
  have find : (i :: rest).find? (isBad inverse rgb idx emph) = rest.find? (isBad inverse rgb idx emph) :=
    List.find?_cons_of_neg rest (by simp [good])
  have take : (i :: rest).takeWhile (!isBad inverse rgb idx emph ·) =
      i :: rest.takeWhile (!isBad inverse rgb idx emph ·) :=
    List.takeWhile_cons_of_pos (by simp [good])
  cases found : rest.find? (isBad inverse rgb idx emph) <;>
    by_cases unknown : isUnknown inverse rgb i <;>
    simp [scanOutcome, find, take, found, unknown, List.filter_cons, Nat.add_assoc, Nat.add_comm 1]

theorem scanOutcome_cons_of_bad {i : Nat} (rest : List Nat) (u im em : Nat)
    (bad : isBad inverse rgb idx emph i = true) :
    scanOutcome inverse rgb idx emph frame width (i :: rest) u im em =
      if indexMissing inverse rgb idx emph i then
        (some (mismatchAt inverse rgb idx emph frame width i), u, im + 1, em)
      else (some (mismatchAt inverse rgb idx emph frame width i), u, im, em + 1) := by
  simp [scanOutcome, bad]

/-- The loop of `find_first_mismatch` over in-range pixels is `scanOutcome`. -/
theorem scanPixels_eq (pos : 0 < width) (rgbLen : 3 * idx.length ≤ rgb.length)
    (emphLen : idx.length ≤ emph.length) :
    ∀ (is : List Nat), (∀ i ∈ is, i < idx.length) → ∀ u im em,
      scanPixels frame rgb idx emph inverse width is u im em =
        .ok (scanOutcome inverse rgb idx emph frame width is u im em)
  | [], _, u, im, em => by simp [scanPixels, scanOutcome]
  | i :: rest, inRange, u, im, em => by
    have lt : i < idx.length := inRange i (List.mem_cons_self _ _)
    have ih := scanPixels_eq pos rgbLen emphLen rest fun j mem => inRange j (List.mem_cons_of_mem _ mem)
    have candidates : (inverse.get ((rgb.getD (i * 3) 0).toNat, (rgb.getD (i * 3 + 1) 0).toNat,
        (rgb.getD (i * 3 + 2) 0).toNat)).getD [] = candidatesAt inverse rgb i := rfl
    have actual : ((idx.getD i 0).toNat &&& 0x3F, (emph.getD i 0).toNat &&& 0x07) =
        actualAt idx emph i := rfl
    simp only [scanPixels, pyIndex_getD 0 (show i * 3 < rgb.length by omega),
      pyIndex_getD 0 (show i * 3 + 1 < rgb.length by omega),
      pyIndex_getD 0 (show i * 3 + 2 < rgb.length by omega), pyIndex_getD 0 lt,
      pyIndex_getD 0 (show i < emph.length by omega), pyDivmod_of_pos i pos, bind, Except.bind,
      candidates, actual]
    by_cases unknown : isUnknown inverse rgb i
    · have good : isBad inverse rgb idx emph i = false := by simp [isBad, unknown]
      rw [scanOutcome_cons_of_good rest u im em good, if_pos unknown, ← ih]
      simp only [isUnknown] at unknown
      rw [if_pos unknown]
    · simp only [isUnknown, Bool.not_eq_true] at unknown
      rw [if_neg (by simp [unknown])]
      split
      · rename_i explained
        have good : isBad inverse rgb idx emph i = false := by simp [isBad, explained]
        rw [ih, scanOutcome_cons_of_good rest u im em good, isUnknown, unknown]
        rfl
      · rename_i unexplained
        have bad : isBad inverse rgb idx emph i = true := by
          simp [isBad, isUnknown, unknown, unexplained]
        have source : (idx.getD i 0).toNat &&& 0x3F ∉ (candidatesAt inverse rgb i).map (·.1) ↔
            indexMissing inverse rgb idx emph i := by simp [indexMissing, actualAt]
        rw [scanOutcome_cons_of_bad rest u im em bad]
        by_cases missing : indexMissing inverse rgb idx emph i <;>
          simp only [mismatchAt, missing, source, if_true, if_false, Bool.false_eq_true] <;> rfl

end Scan

/-! ## A whole frame -/

theorem takeWhile_range'_of_find? {p : Nat → Bool} :
    ∀ {s n i : Nat}, (List.range' s n).find? p = some i →
      (List.range' s n).takeWhile (!p ·) = List.range' s (i - s)
  | _, 0, _, found => by simp at found
  | s, n + 1, i, found => by
    rw [List.range'_succ] at found ⊢
    by_cases stop : p s
    · rw [List.find?_cons_of_pos _ stop, Option.some.injEq] at found
      subst found
      simp [stop]
    · rw [List.find?_cons_of_neg _ stop] at found
      have later : s + 1 ≤ i := (List.mem_range'_1.mp (List.mem_of_find?_eq_some found)).1
      rw [List.takeWhile_cons_of_pos (by simpa using stop), takeWhile_range'_of_find? found,
        show i - s = i - (s + 1) + 1 by omega, List.range'_succ]

theorem takeWhile_range_of_find? {p : Nat → Bool} {n i : Nat}
    (found : (List.range n).find? p = some i) : (List.range n).takeWhile (!p ·) = List.range i := by
  rw [List.range_eq_range'] at found ⊢
  rw [takeWhile_range'_of_find? found, Nat.sub_zero, List.range_eq_range']

section Frame

variable (inverse : PyDict Rgb (List (Nat × Nat))) (rgb idx emph : List UInt8)

/-- The number of pixels below `n` whose colour the reverse map does not know. -/
def unknownBelow (n : Nat) : Nat := ((List.range n).filter (isUnknown inverse rgb)).length

/-- The result of `find_first_mismatch` on a frame of `idx.length` pixels: no
record when no pixel is bad, with every unknown pixel counted; otherwise the
record of the least bad pixel, the unknown pixels before it, and that pixel
counted under its reason. -/
def LocatesFirstBad (frame width : Int) (result : Option FirstMismatch × Nat × Nat × Nat) : Prop :=
  ((∀ i < idx.length, isBad inverse rgb idx emph i = false) ∧
      result = (none, unknownBelow inverse rgb idx.length, 0, 0)) ∨
    ∃ i < idx.length, isBad inverse rgb idx emph i = true ∧
      (∀ j < i, isBad inverse rgb idx emph j = false) ∧
      result = (some (mismatchAt inverse rgb idx emph frame width i), unknownBelow inverse rgb i,
        if indexMissing inverse rgb idx emph i then 1 else 0,
        if indexMissing inverse rgb idx emph i then 0 else 1)

variable {inverse rgb idx emph}

theorem locatesFirstBad_scanOutcome (frame width : Int) :
    LocatesFirstBad inverse rgb idx emph frame width
      (scanOutcome inverse rgb idx emph frame width (List.range idx.length) 0 0 0) := by
  cases found : (List.range idx.length).find? (isBad inverse rgb idx emph) with
  | none =>
    have allGood : ∀ i < idx.length, isBad inverse rgb idx emph i = false := by
      simpa using List.find?_eq_none.mp found
    have whole : (List.range idx.length).takeWhile (!isBad inverse rgb idx emph ·) =
        List.range idx.length :=
      List.takeWhile_eq_self_iff.mpr fun i mem => by simp [allGood i (List.mem_range.mp mem)]
    refine .inl ⟨allGood, ?_⟩
    simp only [scanOutcome, found, whole, unknownBelow, Nat.zero_add]
  | some i =>
    have prefix_ := takeWhile_range_of_find? found
    refine .inr ⟨i, List.mem_range.mp (List.mem_of_find?_eq_some found), List.find?_some found,
      fun j before => ?_, ?_⟩
    · have good := List.mem_takeWhile_imp (prefix_ ▸ List.mem_range.mpr before)
      simpa using good
    · simp only [scanOutcome, found, prefix_, unknownBelow, Nat.zero_add]
      split <;> rfl

theorem findFirstMismatch_eq {frame width : Int} (pos : 0 < width)
    (rgbLen : 3 * idx.length ≤ rgb.length) (emphLen : idx.length ≤ emph.length) :
    findFirstMismatch frame rgb idx emph inverse width =
      .ok (scanOutcome inverse rgb idx emph frame width (List.range idx.length) 0 0 0) :=
  scanPixels_eq pos rgbLen emphLen _ (fun _ => List.mem_range.mp) 0 0 0

/-- On dumps of a frame's size, `find_first_mismatch` is the scan of all
pixels, also on a frame without columns. -/
theorem findFirstMismatch_of_size (frame : Int) {width height : Nat}
    (rgbLen : rgb.length = 3 * (width * height)) (idxLen : idx.length = width * height)
    (emphLen : emph.length = width * height) :
    findFirstMismatch frame rgb idx emph inverse width =
      .ok (scanOutcome inverse rgb idx emph frame width (List.range idx.length) 0 0 0) := by
  rcases Nat.eq_zero_or_pos width with zero | pos
  · obtain rfl : idx = [] := List.eq_nil_of_length_eq_zero (by simp [idxLen, zero])
    subst zero
    rfl
  · exact findFirstMismatch_eq (by omega) (by omega) (by omega)

/-- On every frame whose dumps are long enough and every positive width,
`find_first_mismatch` returns, and its result locates the first bad pixel. -/
theorem findFirstMismatch_locates (frame width : Int) (pos : 0 < width)
    (rgbLen : 3 * idx.length ≤ rgb.length) (emphLen : idx.length ≤ emph.length) :
    ∃ result, findFirstMismatch frame rgb idx emph inverse width = .ok result ∧
      LocatesFirstBad inverse rgb idx emph frame width result :=
  ⟨_, findFirstMismatch_eq pos rgbLen emphLen, locatesFirstBad_scanOutcome frame width⟩

theorem findFirstMismatch_locates_grey :
    (0 : Int) < 2 ∧
      3 * ([0x00, 0x05] : List UInt8).length ≤ ([0x66, 0x66, 0x66, 0, 0, 0] : List UInt8).length ∧
      ([0x00, 0x05] : List UInt8).length ≤ ([0x00, 0x00] : List UInt8).length ∧
      ∃ result, findFirstMismatch 7 [0x66, 0x66, 0x66, 0, 0, 0] [0x00, 0x05] [0x00, 0x00]
          [((0x66, 0x66, 0x66), [(0x00, 0)])] 2 = .ok result ∧
        LocatesFirstBad [((0x66, 0x66, 0x66), [(0x00, 0)])] [0x66, 0x66, 0x66, 0, 0, 0] [0x00, 0x05]
          [0x00, 0x00] 7 2 result :=
  ⟨by decide, by decide, by decide, findFirstMismatch_locates 7 2 (by decide) (by decide) (by decide)⟩

/-- A mismatch `find_first_mismatch` returns is already counted: the counter of
its reason is `1`, though no pixel before it is a mismatch. -/
theorem counters_of_found {frame width : Int} (pos : 0 < width)
    (rgbLen : 3 * idx.length ≤ rgb.length) (emphLen : idx.length ≤ emph.length)
    {m : FirstMismatch} {unknownColors idxMismatches emphMismatches : Nat}
    (found : findFirstMismatch frame rgb idx emph inverse width =
      .ok (some m, unknownColors, idxMismatches, emphMismatches)) :
    idxMismatches + emphMismatches = 1 ∧ ∀ j < m.pixelIndex, isBad inverse rgb idx emph j = false := by
  rw [findFirstMismatch_eq pos rgbLen emphLen, Except.ok.injEq] at found
  rcases (locatesFirstBad_scanOutcome frame width : LocatesFirstBad inverse rgb idx emph frame width _)
    with ⟨-, result⟩ | ⟨i, -, -, before, result⟩ <;> rw [result] at found
  · cases found
  · simp only [Prod.mk.injEq, Option.some.injEq] at found
    obtain ⟨rfl, -, rfl, rfl⟩ := found
    exact ⟨by split <;> rfl, before⟩

end Frame

/-! ## The reverse map of the 2C02 palette -/

/-- `setdefault(rgb, []).append(pair)` over a list of pairs leaves under each
colour its old candidates, then the pairs of the list that produce it, in
order. -/
theorem candidates_foldl_addCandidate (forward : Nat × Nat → Rgb) (rgb : Rgb) :
    ∀ (pairs : List (Nat × Nat)) (inverse : PyDict Rgb (List (Nat × Nat))),
      ((pairs.foldl (fun inverse pair => addCandidate inverse (forward pair) pair) inverse).get
          rgb).getD [] = (inverse.get rgb).getD [] ++ pairs.filter (forward · = rgb)
  | [], _ => by simp
  | pair :: pairs, inverse => by
    rw [List.foldl_cons, candidates_foldl_addCandidate forward rgb pairs, List.filter_cons]
    by_cases same : forward pair = rgb
    · subst same
      simp [addCandidate]
    · simp [addCandidate, same, Ne.symm same]

/-- The colour palette index `k` shows under emphasis `e`. -/
def forwardRgb (k e : Nat) : Rgb := applyEmphasis (mesen2C02_64.getD k (0, 0, 0)) k e

theorem buildInverseRgbMap_eq_foldl :
    buildInverseRgbMap = (((List.range 64).map fun k => (List.range 8).map (k, ·)).flatten).foldl
      (fun inverse pair => addCandidate inverse (forwardRgb pair.1 pair.2) pair) [] := by
  simp [buildInverseRgbMap, List.foldl_flatten, List.foldl_map, forwardRgb]

/-- The reverse map lists a pair under a colour iff the pair produces it. -/
theorem mem_candidates_buildInverseRgbMap {rgb : Rgb} {k e : Nat} :
    (k, e) ∈ (buildInverseRgbMap.get rgb).getD [] ↔ k < 64 ∧ e < 8 ∧ forwardRgb k e = rgb := by
  rw [buildInverseRgbMap_eq_foldl,
    candidates_foldl_addCandidate (fun pair => forwardRgb pair.1 pair.2)]
  simp only [PyDict.get_nil, Option.getD_none, List.nil_append, List.mem_filter]
  simp [List.mem_flatten, and_assoc]

/-- A colour some palette index shows under some emphasis. -/
def IsPaletteColor (rgb : Rgb) : Prop := ∃ k < 64, ∃ e < 8, forwardRgb k e = rgb

instance : DecidablePred IsPaletteColor := fun _ =>
  inferInstanceAs (Decidable (∃ k, k < 64 ∧ ∃ e, e < 8 ∧ _))

/-- Pixel `i`'s colour is the one NESium's pair for it produces. -/
def Consistent (rgb idx emph : List UInt8) (i : Nat) : Prop :=
  pixelRgb rgb i = forwardRgb (actualAt idx emph i).1 (actualAt idx emph i).2

instance (rgb idx emph : List UInt8) (i : Nat) : Decidable (Consistent rgb idx emph i) :=
  inferInstanceAs (Decidable (_ = _))

section Exact

variable {rgb idx emph : List UInt8}

theorem actualAt_lt (i : Nat) : (actualAt idx emph i).1 < 64 ∧ (actualAt idx emph i).2 < 8 :=
  ⟨Nat.and_lt_two_pow _ (n := 6) (by decide), Nat.and_lt_two_pow _ (n := 3) (by decide)⟩

theorem isUnknown_buildInverseRgbMap (i : Nat) :
    isUnknown buildInverseRgbMap rgb i = !decide (IsPaletteColor (pixelRgb rgb i)) := by
  rw [isUnknown, candidatesAt, Bool.eq_iff_iff]
  simp only [List.isEmpty_iff, List.eq_nil_iff_forall_not_mem, Bool.not_eq_true',
    decide_eq_false_iff_not, IsPaletteColor, not_exists, not_and, Prod.forall,
    mem_candidates_buildInverseRgbMap]
  exact ⟨fun none k lt e elt => none k e lt elt, fun none k e lt elt => none k lt e elt⟩

theorem mem_candidatesAt_buildInverseRgbMap (i : Nat) :
    actualAt idx emph i ∈ candidatesAt buildInverseRgbMap rgb i ↔ Consistent rgb idx emph i := by
  rw [candidatesAt, ← Prod.mk.eta (p := actualAt idx emph i), mem_candidates_buildInverseRgbMap,
    Consistent, eq_comm]
  simp [actualAt_lt]

theorem isBad_buildInverseRgbMap (i : Nat) :
    isBad buildInverseRgbMap rgb idx emph i =
      (decide (IsPaletteColor (pixelRgb rgb i)) && !decide (Consistent rgb idx emph i)) := by
  simp [isBad, isUnknown_buildInverseRgbMap, mem_candidatesAt_buildInverseRgbMap]

end Exact

end NesiumTools.Palette
