import NesiumTools.Frame.Rgb24

/-!
# What `compute_frame_diff` computes

On two dumps of `width * height` pixels each, the pixel loop of
`compute_frame_diff` sees pixel `i` of both dumps at index `i`
(`pyZip_iterPixels`). Its locals after the first `n` pixels are `stateAfter n`,
a function of the differing pixels below `n` alone: their number, the sums and
maxima of the absolute differences, the `Counter` of their difference triples
(`tally`), the per-row and per-column counts and the running bounding box.

* `diffStep_stateAfter`: one pass of the loop takes `stateAfter n` to
  `stateAfter (n + 1)`, and never subscripts a count list out of range.
* `diffLoop_stateAfter`: so the whole loop ends in `stateAfter (width * height)`.
* `computeFrameDiff_summarises`: the record returned, field by field.
* `computeFrameDiff_swap`: comparing the dumps the other way round negates every
  difference triple and changes nothing else, not even the order of
  `top_deltas`.
-/

namespace NesiumTools.Rgb24

open Frame

/-! ## The pixels the loop sees -/

/-- Pixel `i` of a dump. -/
def pixelAt (buf : List UInt8) (i : Nat) : Pixel :=
  ((buf.getD (3 * i) 0).toNat, (buf.getD (3 * i + 1) 0).toNat, (buf.getD (3 * i + 2) 0).toNat)

theorem iterPixels_eq {buf : List UInt8} {n : Nat} (len : buf.length = 3 * n) :
    iterPixels buf = (List.range n).map fun i => .ok (pixelAt buf i) := by
  rw [iterPixels, show (buf.length + 2) / 3 = n by omega]
  refine List.map_congr_left fun k mem => ?_
  have lt := List.mem_range.mp mem
  simp only [pyIndex_getD 0 (show 3 * k < buf.length by omega),
    pyIndex_getD 0 (show 3 * k + 1 < buf.length by omega),
    pyIndex_getD 0 (show 3 * k + 2 < buf.length by omega), bind, Except.bind, pure, Except.pure,
    pixelAt]

theorem pyZip_map_ok {γ α β : Type} (f : γ → α) (g : γ → β) :
    ∀ xs : List γ, pyZip (xs.map fun i => .ok (f i)) (xs.map fun i => .ok (g i)) =
      xs.map fun i => .ok (f i, g i)
  | [] => rfl
  | _ :: xs => by simp [pyZip, pyZip_map_ok f g xs]

theorem pyZip_iterPixels {a b : List UInt8} {n : Nat} (aLen : a.length = 3 * n)
    (bLen : b.length = 3 * n) :
    pyZip (iterPixels a) (iterPixels b) =
      (List.range n).map fun i => .ok (pixelAt a i, pixelAt b i) := by
  rw [iterPixels_eq aLen, iterPixels_eq bLen, pyZip_map_ok]

/-! ## `Counter` -/

section Counter

variable {κ : Type} [DecidableEq κ]

/-- The `Counter` that `counter[key] += 1` builds from an empty one over `keys`. -/
def tally (keys : List κ) : PyDict κ Nat := keys.foldl counterIncr []

theorem tally_append_singleton (keys : List κ) (key : κ) :
    tally (keys ++ [key]) = counterIncr (tally keys) key := by
  simp [tally, List.foldl_append]

theorem get_foldl_counterIncr (key : κ) :
    ∀ (keys : List κ) (counts : PyDict κ Nat), (keys.foldl counterIncr counts).get key =
      if key ∈ keys then some ((counts.get key).getD 0 + keys.count key) else counts.get key
  | [], _ => by simp
  | k :: keys, counts => by
    rw [List.foldl_cons, get_foldl_counterIncr key keys]
    by_cases same : k = key
    · subst same
      by_cases mem : k ∈ keys <;>
        simp [counterIncr, mem, List.count_eq_zero_of_not_mem, Nat.add_assoc, Nat.add_comm 1]
    · simp [counterIncr, PyDict.get_insert_ne _ _ (Ne.symm same), same, Ne.symm same]

/-- `tally keys` gives each key of `keys` its multiplicity, and no other key. -/
theorem get_tally (keys : List κ) (key : κ) :
    (tally keys).get key = if key ∈ keys then some (keys.count key) else none := by
  simp [tally, get_foldl_counterIncr]

theorem nodup_keys_tally (keys : List κ) : ((tally keys).map Prod.fst).Nodup := by
  induction keys using List.reverseRecOn with
  | nil => simp [tally]
  | append_singleton keys key ih =>
    rw [tally_append_singleton, counterIncr, PyDict.keys_insert]
    split
    · exact ih
    · rename_i absent
      exact ih.append (List.nodup_singleton key) (List.disjoint_singleton.mpr absent)

theorem count_eq_length_filter (keys : List κ) (key : κ) :
    keys.count key = (keys.filter (· = key)).length := by
  rw [List.count, List.countP_eq_length_filter]
  rfl

/-- The entries of `tally keys` are the keys of `keys`, each with its
multiplicity. -/
theorem mem_tally (keys : List κ) (key : κ) (count : Nat) :
    (key, count) ∈ tally keys ↔ key ∈ keys ∧ count = keys.count key := by
  rw [PyDict.mem_iff_get (nodup_keys_tally keys), get_tally]
  split <;> simp [*, eq_comm]

end Counter

theorem map_range_modify (f : Nat → Nat) (m j : Nat) :
    ((List.range m).map f).modify (· + 1) j =
      (List.range m).map fun k => f k + if j = k then 1 else 0 := by
  refine List.ext_getElem (by simp) fun k _ _ => ?_
  by_cases same : j = k
  · subst same; simp
  · simp [List.getElem_modify, same]

theorem raiseMax_eq (m a : Nat × Nat × Nat) :
    raiseMax m a = (max m.1 a.1, max m.2.1 a.2.1, max m.2.2 a.2.2) := by
  simp only [raiseMax, Prod.mk.injEq]
  refine ⟨?_, ?_, ?_⟩ <;> split <;> omega

theorem if_lt_eq_min (x m : Int) : (if x < m then x else m) = min m x := by
  split <;> omega

theorem if_gt_eq_max (x m : Int) : (if x > m then x else m) = max m x := by
  split <;> omega

/-! ## The loop's locals after `n` pixels -/

/-- The three colour channels, in the order of a pixel's bytes. -/
inductive Channel where
  | r
  | g
  | b
  deriving DecidableEq, Repr

/-- Channel `c` of a triple. -/
def Channel.pick {α : Type} : Channel → α × α × α → α
  | .r, t => t.1
  | .g, t => t.2.1
  | .b, t => t.2.2

section Pixels

variable (a b : List UInt8)

/-- `b`'s pixel `i` minus `a`'s, channel by channel. -/
def deltaAt (i : Nat) : Delta :=
  (((pixelAt b i).1 : Int) - (pixelAt a i).1, ((pixelAt b i).2.1 : Int) - (pixelAt a i).2.1,
    ((pixelAt b i).2.2 : Int) - (pixelAt a i).2.2)

/-- `|d_c(i)|`. -/
def absDelta (c : Channel) (i : Nat) : Nat := (c.pick (deltaAt a b i)).natAbs

/-- The differing pixels below `n`, in order. -/
def differing (n : Nat) : List Nat := (List.range n).filter fun i => deltaAt a b i ≠ (0, 0, 0)

/-- The sum of `|d_c(i)|` over the pixels below `n`. -/
def sumAbsBelow (c : Channel) (n : Nat) : Nat := ((List.range n).map (absDelta a b c)).sum

/-- The largest `|d_c(i)|` over the pixels below `n`, and `0` when there is none. -/
def maxAbsBelow (c : Channel) (n : Nat) : Nat :=
  ((List.range n).map (absDelta a b c)).foldl max 0

/-- The number of differing pixels below `n` whose `key` (row or column) is `k`. -/
def countWhere (n : Nat) (key : Nat → Nat) (k : Nat) : Nat :=
  ((differing a b n).filter fun i => key i = k).length

/-- The locals of the pixel loop after the first `n` pixels. -/
def stateAfter (width height n : Nat) : DiffState :=
  let xs := (differing a b n).map fun i => ((i % width : Nat) : Int)
  let ys := (differing a b n).map fun i => ((i / width : Nat) : Int)
  ⟨(differing a b n).length,
    (sumAbsBelow a b .r n, sumAbsBelow a b .g n, sumAbsBelow a b .b n),
    (maxAbsBelow a b .r n, maxAbsBelow a b .g n, maxAbsBelow a b .b n),
    tally ((differing a b n).map (deltaAt a b)),
    (List.range height).map (countWhere a b n (· / width)),
    (List.range width).map (countWhere a b n (· % width)),
    xs.foldl min width, ys.foldl min height, xs.foldl max (-1), ys.foldl max (-1)⟩

variable {a b}

theorem differing_succ (n : Nat) :
    differing a b (n + 1) =
      differing a b n ++ if deltaAt a b n = (0, 0, 0) then [] else [n] := by
  by_cases same : deltaAt a b n = (0, 0, 0) <;>
    simp [differing, List.range_succ, same, -Prod.mk_zero_zero]

theorem sumAbsBelow_succ (c : Channel) (n : Nat) :
    sumAbsBelow a b c (n + 1) = sumAbsBelow a b c n + absDelta a b c n := by
  simp [sumAbsBelow, List.range_succ]

theorem maxAbsBelow_succ (c : Channel) (n : Nat) :
    maxAbsBelow a b c (n + 1) = max (maxAbsBelow a b c n) (absDelta a b c n) := by
  simp [maxAbsBelow, List.range_succ, List.foldl_append]

theorem absDelta_of_same {n : Nat} (same : deltaAt a b n = (0, 0, 0)) (c : Channel) :
    absDelta a b c n = 0 := by
  cases c <;> simp [absDelta, Channel.pick, same]

theorem countWhere_succ (n : Nat) (key : Nat → Nat) :
    countWhere a b (n + 1) key =
      fun k => countWhere a b n key k + if deltaAt a b n ≠ (0, 0, 0) ∧ key n = k then 1 else 0 := by
  funext k
  by_cases same : deltaAt a b n = (0, 0, 0) <;>
    by_cases at_ : key n = k <;> simp [countWhere, differing_succ, same, at_, -Prod.mk_zero_zero]

theorem stateAfter_succ_of_same {width height n : Nat} (same : deltaAt a b n = (0, 0, 0)) :
    stateAfter a b width height (n + 1) = stateAfter a b width height n := by
  simp only [stateAfter, differing_succ, same, if_true, List.append_nil, sumAbsBelow_succ,
    maxAbsBelow_succ, absDelta_of_same same, Nat.add_zero, Nat.max_zero, countWhere_succ,
    ne_eq, not_true_eq_false, false_and, if_false]

/-- One pass of the loop at a pixel of the frame takes `stateAfter n` to
`stateAfter (n + 1)`. -/
theorem diffStep_stateAfter {width height n : Nat} (lt : n < width * height) :
    diffStep width (stateAfter a b width height n) n (pixelAt a n) (pixelAt b n) =
      .ok (stateAfter a b width height (n + 1)) := by
  have pos : 0 < width := Nat.pos_of_ne_zero fun zero => by simp [zero] at lt
  have row : n / width < height := (Nat.div_lt_iff_lt_mul pos).mpr (by rwa [Nat.mul_comm])
  have col : n % width < width := Nat.mod_lt n pos
  have zero : (((pixelAt b n).1 : Int) - (pixelAt a n).1 = 0 ∧
      ((pixelAt b n).2.1 : Int) - (pixelAt a n).2.1 = 0 ∧
      ((pixelAt b n).2.2 : Int) - (pixelAt a n).2.2 = 0) ↔ deltaAt a b n = (0, 0, 0) := by
    simp [deltaAt, Prod.ext_iff]
  by_cases same : deltaAt a b n = (0, 0, 0)
  · simp only [diffStep, zero, same, if_true, stateAfter_succ_of_same same]
  · simp only [diffStep, zero, if_false, pyDivmod_of_pos n (Int.ofNat_pos.mpr pos),
      ← Int.natCast_div, ← Int.natCast_mod, stateAfter,
      pyIncr_natCast (show n / width < ((List.range height).map _).length by simpa using row),
      pyIncr_natCast (show n % width < ((List.range width).map _).length by simpa using col),
      map_range_modify, bind, Except.bind, pure, Except.pure,
      differing_succ, same, if_false, List.length_append, List.map_append, List.map_cons,
      List.map_nil, tally_append_singleton, List.foldl_append, List.foldl_cons, List.foldl_nil,
      sumAbsBelow_succ, maxAbsBelow_succ, countWhere_succ, raiseMax_eq, if_lt_eq_min,
      if_gt_eq_max, ne_eq, not_false_eq_true, true_and, List.length_singleton]
    rfl

/-- The loop over pixels `n` to `n + m - 1` of a frame, from `stateAfter n`, ends
in `stateAfter (n + m)`. -/
theorem diffLoop_stateAfter {width height : Nat} :
    ∀ (m n : Nat), n + m ≤ width * height →
      diffLoop width ((List.range' n m).map fun i => .ok (pixelAt a i, pixelAt b i)) n
        (stateAfter a b width height n) = .ok (stateAfter a b width height (n + m))
  | 0, _, _ => rfl
  | m + 1, n, le => by
    rw [List.range'_succ, List.map_cons, diffLoop, diffStep_stateAfter (by omega)]
    simp only [bind, Except.bind]
    rw [diffLoop_stateAfter m (n + 1) (by omega), Nat.add_right_comm, Nat.add_assoc]

theorem stateAfter_zero (width height : Nat) :
    stateAfter a b width height 0 = ⟨0, (0, 0, 0), (0, 0, 0), [], List.replicate height 0,
      List.replicate width 0, width, height, -1, -1⟩ := by
  have none : ∀ key, countWhere a b 0 key = fun _ => 0 := fun _ => funext fun _ => rfl
  simp [stateAfter, differing, sumAbsBelow, maxAbsBelow, none, tally, List.map_const']

/-- On two dumps of `width * height` pixels, `compute_frame_diff` returns the
summary of `stateAfter (width * height)`. -/
theorem computeFrameDiff_eq {frame : Int} {width height : Nat}
    (aLen : a.length = 3 * (width * height)) (bLen : b.length = 3 * (width * height)) :
    computeFrameDiff frame a b width height =
      .ok (summarise frame width height (stateAfter a b width height (width * height))) := by
  have run : diffLoop width ((List.range' 0 (width * height)).map
      fun i => .ok (pixelAt a i, pixelAt b i)) 0 (stateAfter a b width height 0) = _ :=
    diffLoop_stateAfter (width * height) 0 (by omega)
  rw [stateAfter_zero, Nat.zero_add] at run
  simp only [computeFrameDiff, pyZip_iterPixels aLen bLen, List.range_eq_range',
    Int.toNat_natCast, run, bind, Except.bind, pure, Except.pure]

end Pixels

/-! ## Running extrema -/

section Extrema

variable {α : Type} [LinearOrder α]

/-- A running maximum from `init` bounds `init` and every element, and is one of them. -/
theorem foldl_max_spec (l : List α) (init : α) :
    init ≤ l.foldl max init ∧ (∀ x ∈ l, x ≤ l.foldl max init) ∧
      (l.foldl max init = init ∨ l.foldl max init ∈ l) := by
  induction l generalizing init with
  | nil => simp
  | cons y l ih =>
    obtain ⟨initLe, le, attained⟩ := ih (max init y)
    refine ⟨(le_max_left init y).trans initLe, ?_, ?_⟩
    · simpa using ⟨(le_max_right init y).trans initLe, le⟩
    · rcases attained with same | mem
      · rcases max_choice init y with first | second
        · exact .inl (same.trans first)
        · exact .inr (by rw [List.foldl_cons, same, second]; exact List.mem_cons_self y l)
      · exact .inr (List.mem_cons_of_mem y mem)

/-- A running minimum from `init` is bounded by `init` and every element, and is
one of them. -/
theorem foldl_min_spec (l : List α) (init : α) :
    l.foldl min init ≤ init ∧ (∀ x ∈ l, l.foldl min init ≤ x) ∧
      (l.foldl min init = init ∨ l.foldl min init ∈ l) := by
  induction l generalizing init with
  | nil => simp
  | cons y l ih =>
    obtain ⟨leInit, le, attained⟩ := ih (min init y)
    refine ⟨leInit.trans (min_le_left init y), ?_, ?_⟩
    · simpa using ⟨leInit.trans (min_le_right init y), le⟩
    · rcases attained with same | mem
      · rcases min_choice init y with first | second
        · exact .inl (same.trans first)
        · exact .inr (by rw [List.foldl_cons, same, second]; exact List.mem_cons_self y l)
      · exact .inr (List.mem_cons_of_mem y mem)

/-- A running minimum from a strict upper bound of a non-empty list is attained. -/
theorem foldl_min_attained {l : List Nat} (f : Nat → Nat) (bound : Nat)
    (below : ∀ i ∈ l, f i < bound) (nonempty : l ≠ []) :
    (∀ i ∈ l, (l.map fun i => (f i : Int)).foldl min (bound : Int) ≤ f i) ∧
      ∃ i ∈ l, (l.map fun i => (f i : Int)).foldl min (bound : Int) = f i := by
  obtain ⟨_, le, attained⟩ := foldl_min_spec (l.map fun i => (f i : Int)) bound
  obtain ⟨j, mem⟩ := List.exists_mem_of_ne_nil l nonempty
  refine ⟨fun i mem => le _ (List.mem_map_of_mem _ mem), ?_⟩
  rcases attained with same | mem'
  · have := le _ (List.mem_map_of_mem _ mem)
    have := below j mem
    omega
  · simpa [eq_comm] using mem'

/-- A running maximum from `-1` of a non-empty list of naturals is attained. -/
theorem foldl_max_attained {l : List Nat} (f : Nat → Nat) (nonempty : l ≠ []) :
    (∀ i ∈ l, (f i : Int) ≤ (l.map fun i => (f i : Int)).foldl max (-1)) ∧
      ∃ i ∈ l, (l.map fun i => (f i : Int)).foldl max (-1) = f i := by
  obtain ⟨_, le, attained⟩ := foldl_max_spec (l.map fun i => (f i : Int)) (-1)
  obtain ⟨j, mem⟩ := List.exists_mem_of_ne_nil l nonempty
  refine ⟨fun i mem => le _ (List.mem_map_of_mem _ mem), ?_⟩
  rcases attained with same | mem'
  · have := le _ (List.mem_map_of_mem _ mem)
    omega
  · simpa [eq_comm] using mem'

end Extrema

/-! ## Rankings -/

/-- `ranked` lists the pairs `(k, count k)` with `k < n` and a positive count,
each once, by count descending and then `k` ascending. -/
def Ranked (n : Nat) (count : Nat → Nat) (ranked : List (Nat × Nat)) : Prop :=
  (∀ k c, (k, c) ∈ ranked ↔ k < n ∧ 0 < c ∧ c = count k) ∧
    ranked.Pairwise (fun p q => q.2 < p.2 ∨ (q.2 = p.2 ∧ p.1 < q.1))

/-- `top` is the first ten of the pairs `(k, count k)` with `k < n` and a positive
count, by count descending and then `k` ascending. -/
def TopTen (n : Nat) (count : Nat → Nat) (top : List (Nat × Nat)) : Prop :=
  ∃ ranked : List (Nat × Nat), (∀ k c, (k, c) ∈ ranked ↔ k < n ∧ 0 < c ∧ c = count k) ∧
    ranked.Pairwise (fun p q => q.2 < p.2 ∨ (q.2 = p.2 ∧ p.1 < q.1)) ∧ top = ranked.take 10

/-- `sorted(((i, c) for i, c in enumerate(counts) if c > 0), key=lambda t: (-t[1], t[0]))`
over the counts of `0, ..., n - 1`. -/
theorem ranked_map_range (n : Nat) (count : Nat → Nat) :
    Ranked n count
      ((((List.range n).map count).enum.filter fun p => p.2 > 0).mergeSort rankBefore) := by
  refine ⟨fun k c => ?_, ?_⟩
  · rw [(List.mergeSort_perm _ _).mem_iff, List.mem_filter, List.mem_enum_iff_getElem?]
    simp only [List.getElem?_map, List.getElem?_range]
    by_cases lt : k < n
    · simp [lt, List.getElem?_range, eq_comm, and_comm]
    · simp [lt, List.getElem?_eq_none_iff.mpr (show (List.range n).length ≤ k by simpa using lt)]
  · have distinct : (((List.range n).map count).enum.filter fun p => p.2 > 0).map Prod.fst |>.Nodup :=
      ((List.filter_sublist _).map Prod.fst).nodup (by simpa using List.nodup_range _)
    rw [← ((List.mergeSort_perm _ rankBefore).map Prod.fst).nodup_iff, List.Nodup,
      List.pairwise_map] at distinct
    refine ((List.sorted_mergeSort rankBefore_trans rankBefore_total _).and distinct).imp ?_
    simp only [rankBefore, Bool.or_eq_true, Bool.and_eq_true, decide_eq_true_eq]
    omega

theorem topRanked_map_range (n : Nat) (count : Nat → Nat) :
    TopTen n count (topRanked ((List.range n).map count)) :=
  ⟨_, (ranked_map_range n count).1, (ranked_map_range n count).2, rfl⟩

/-- `most_common(10)`: the first ten entries of the counter in an order by
count, largest first. -/
theorem mostCommon_ranked {κ : Type} (counts : PyDict κ Nat) :
    ∃ ranked : List (κ × Nat), ranked.Perm counts ∧ ranked.Pairwise (fun p q => q.2 ≤ p.2) ∧
      mostCommon counts 10 = ranked.take 10 := by
  refine ⟨_, List.mergeSort_perm _ _, ?_, rfl⟩
  refine (List.sorted_mergeSort (fun _ _ _ => ?_) (fun _ _ => ?_) _).imp (by simp) <;>
    simp only [decide_eq_true_eq, Bool.or_eq_true] <;> omega

/-! ## The record -/

/-- The `max_abs` field of channel `c`. -/
def FrameDiffStats.maxAbs (stats : FrameDiffStats) : Channel → Nat
  | .r => stats.maxAbsR
  | .g => stats.maxAbsG
  | .b => stats.maxAbsB

/-- The `mean_abs` field of channel `c`. -/
def FrameDiffStats.meanAbs (stats : FrameDiffStats) : Channel → ℚ
  | .r => stats.meanAbsR
  | .g => stats.meanAbsG
  | .b => stats.meanAbsB

/-- `(x0, y0, x1, y1)` is the tight bounding box of the pixels `ps` of a frame
with rows of `width` pixels: every pixel lies in it, and each edge passes
through one. -/
def BoxTight (width : Nat) (ps : List Nat) (x0 y0 x1 y1 : Int) : Prop :=
  (∀ i ∈ ps, x0 ≤ (i % width : Nat) ∧ ((i % width : Nat) : Int) ≤ x1 ∧
      y0 ≤ (i / width : Nat) ∧ ((i / width : Nat) : Int) ≤ y1) ∧
    (∃ i ∈ ps, x0 = (i % width : Nat)) ∧ (∃ i ∈ ps, y0 = (i / width : Nat)) ∧
    (∃ i ∈ ps, x1 = (i % width : Nat)) ∧ (∃ i ∈ ps, y1 = (i / width : Nat))

/-- `stats` is the comparison of the dumps `a` and `b` of frame `frame`, of
`width * height` pixels each. -/
structure Summarises (frame : Int) (a b : List UInt8) (width height : Nat)
    (stats : FrameDiffStats) : Prop where
  frame_eq : stats.frame = frame
  pixelsTotal_eq : stats.pixelsTotal = width * height
  pixelsDiff_eq : stats.pixelsDiff = (differing a b (width * height)).length
  pctDiff_eq : stats.pctDiff = (stats.pixelsDiff : ℚ) / (width * height : Nat) * 100
  maxAbs_spec : ∀ c, (∀ i < width * height, absDelta a b c i ≤ stats.maxAbs c) ∧
    (stats.maxAbs c = 0 ∨ ∃ i < width * height, stats.maxAbs c = absDelta a b c i)
  meanAbs_eq : ∀ c, stats.meanAbs c =
    if stats.pixelsDiff = 0 then 0 else (sumAbsBelow a b c (width * height) : ℚ) / stats.pixelsDiff
  bbox_eq_none : stats.bbox = none ↔ stats.pixelsDiff = 0
  bbox_tight : ∀ x0 y0 x1 y1, stats.bbox = some (x0, y0, x1, y1) →
    BoxTight width (differing a b (width * height)) x0 y0 x1 y1
  topDeltas_ranked : ∃ ranked : List (Delta × Nat),
    (∀ d c, (d, c) ∈ ranked ↔ d ≠ (0, 0, 0) ∧ 0 < c ∧
      c = ((List.range (width * height)).filter fun i => deltaAt a b i = d).length) ∧
    ranked.Pairwise (fun p q => q.2 ≤ p.2) ∧ stats.topDeltas = ranked.take 10
  topRows_ranked : TopTen height (countWhere a b (width * height) (· / width)) stats.topRows
  topCols_ranked : TopTen width (countWhere a b (width * height) (· % width)) stats.topCols

section Record

variable {a b : List UInt8}

theorem maxAbsBelow_spec (c : Channel) (n : Nat) :
    (∀ i < n, absDelta a b c i ≤ maxAbsBelow a b c n) ∧
      (maxAbsBelow a b c n = 0 ∨ ∃ i < n, maxAbsBelow a b c n = absDelta a b c i) := by
  obtain ⟨_, le, attained⟩ := foldl_max_spec ((List.range n).map (absDelta a b c)) 0
  refine ⟨fun i lt => le _ (List.mem_map_of_mem _ (List.mem_range.mpr lt)), ?_⟩
  simpa [maxAbsBelow, eq_comm] using attained

/-- The running extrema of the columns and rows of a non-empty list of positions
in a `width * height` frame, started as the loops start them, bound the
positions tightly. -/
theorem boxTight_folds {width height : Nat} {ps : List Nat} (nonempty : ps ≠ [])
    (inFrame : ∀ i ∈ ps, i < width * height) :
    BoxTight width ps ((ps.map fun i => ((i % width : Nat) : Int)).foldl min width)
      ((ps.map fun i => ((i / width : Nat) : Int)).foldl min height)
      ((ps.map fun i => ((i % width : Nat) : Int)).foldl max (-1))
      ((ps.map fun i => ((i / width : Nat) : Int)).foldl max (-1)) := by
  obtain ⟨j, mem⟩ := List.exists_mem_of_ne_nil ps nonempty
  have pos : 0 < width := Nat.pos_of_ne_zero fun zero => by simpa [zero] using inFrame j mem
  obtain ⟨minX, minXAt⟩ := foldl_min_attained (· % width) width
    (fun i _ => Nat.mod_lt i pos) nonempty
  obtain ⟨minY, minYAt⟩ := foldl_min_attained (· / width) height
    (fun i mem => (Nat.div_lt_iff_lt_mul pos).mpr (by have := inFrame i mem; rwa [Nat.mul_comm]))
    nonempty
  obtain ⟨maxX, maxXAt⟩ := foldl_max_attained (· % width) nonempty
  obtain ⟨maxY, maxYAt⟩ := foldl_max_attained (· / width) nonempty
  exact ⟨fun i mem => ⟨minX i mem, maxX i mem, minY i mem, maxY i mem⟩,
    by simpa [eq_comm] using minXAt, by simpa [eq_comm] using minYAt,
    by simpa [eq_comm] using maxXAt, by simpa [eq_comm] using maxYAt⟩

theorem boxTight_stateAfter {width height : Nat} (nonempty : differing a b (width * height) ≠ []) :
    BoxTight width (differing a b (width * height)) (stateAfter a b width height (width * height)).minX
      (stateAfter a b width height (width * height)).minY
      (stateAfter a b width height (width * height)).maxX
      (stateAfter a b width height (width * height)).maxY :=
  boxTight_folds nonempty fun _ mem => List.mem_range.mp (List.mem_of_mem_filter mem)

/-- The `Counter` of the loop holds each non-zero difference triple with the
number of pixels that have it. -/
theorem mem_tally_deltas {n : Nat} (d : Delta) (c : Nat) :
    (d, c) ∈ tally ((differing a b n).map (deltaAt a b)) ↔
      d ≠ (0, 0, 0) ∧ 0 < c ∧ c = ((List.range n).filter fun i => deltaAt a b i = d).length := by
  rw [mem_tally, count_eq_length_filter]
  by_cases zero : d = (0, 0, 0)
  · subst zero
    simp [differing, -Prod.mk_zero_zero]
  · have same : ((differing a b n).map (deltaAt a b)).filter (· = d) =
        ((List.range n).filter fun i => deltaAt a b i = d).map (deltaAt a b) := by
      simp only [differing, List.filter_map, List.filter_filter]
      congr 1
      refine List.filter_congr fun i _ => ?_
      by_cases at_ : deltaAt a b i = d <;> simp [at_, zero, -Prod.mk_zero_zero]
    have mem : d ∈ (differing a b n).map (deltaAt a b) ↔
        0 < ((List.range n).filter fun i => deltaAt a b i = d).length := by
      rw [List.length_pos_iff_exists_mem]
      simp only [differing, List.mem_map, List.mem_filter, List.mem_range, decide_eq_true_eq]
      exact ⟨fun ⟨i, ⟨lt, _⟩, at_⟩ => ⟨i, lt, at_⟩,
        fun ⟨i, lt, at_⟩ => ⟨i, ⟨lt, at_ ▸ zero⟩, at_⟩⟩
    rw [same, List.length_map, mem]
    exact ⟨fun ⟨pos, eq⟩ => ⟨zero, eq ▸ pos, eq⟩, fun ⟨_, pos, eq⟩ => ⟨eq ▸ pos, eq⟩⟩

/-- On two dumps of `width * height` pixels, `compute_frame_diff` returns, so
no count list is subscripted out of range, and its record summarises the
comparison. -/
theorem computeFrameDiff_summarises (frame : Int) (width height : Nat)
    (aLen : a.length = 3 * (width * height)) (bLen : b.length = 3 * (width * height)) :
    ∃ stats, computeFrameDiff frame a b width height = .ok stats ∧
      Summarises frame a b width height stats := by
  refine ⟨_, computeFrameDiff_eq aLen bLen, ?_⟩
  obtain ⟨ranked, perm, sorted, top⟩ :=
    mostCommon_ranked (tally ((differing a b (width * height)).map (deltaAt a b)))
  refine ⟨rfl, rfl, rfl, ?_, fun c => ?_, fun c => ?_, ?_, fun x0 y0 x1 y1 box => ?_,
    ⟨ranked, fun d c => perm.mem_iff.trans (mem_tally_deltas d c), sorted, top⟩,
    topRanked_map_range _ _, topRanked_map_range _ _⟩
  · simp only [summarise]
    split
    · push_cast; rfl
    · rename_i zero
      have empty : width * height = 0 := by exact_mod_cast not_not.mp zero
      simp [empty]
  · cases c <;> exact maxAbsBelow_spec _ _
  · cases c <;> rfl
  · simp only [summarise]
    split <;> simp_all
  · simp only [summarise] at box
    by_cases zero : (stateAfter a b width height (width * height)).pixelsDiff = 0
    · simp [zero] at box
    · simp only [zero, if_false, Option.some.injEq, Prod.mk.injEq] at box
      obtain ⟨rfl, rfl, rfl, rfl⟩ := box
      exact boxTight_stateAfter (List.ne_nil_of_length_pos (Nat.pos_of_ne_zero zero))

theorem computeFrameDiff_summarises_twoPixels :
    ([0, 0, 0, 10, 20, 30] : List UInt8).length = 3 * (2 * 1) ∧
      ([0, 0, 0, 5, 25, 30] : List UInt8).length = 3 * (2 * 1) ∧
      ∃ stats, computeFrameDiff 3 [0, 0, 0, 10, 20, 30] [0, 0, 0, 5, 25, 30] (2 : Nat) (1 : Nat) =
        .ok stats ∧ Summarises 3 [0, 0, 0, 10, 20, 30] [0, 0, 0, 5, 25, 30] 2 1 stats :=
  ⟨rfl, rfl, computeFrameDiff_summarises 3 2 1 rfl rfl⟩

end Record

/-! ## Comparing the other way round -/

/-- A difference triple with every channel negated. -/
def negDelta (d : Delta) : Delta := (-d.1, -d.2.1, -d.2.2)

theorem negDelta_injective : Function.Injective negDelta := by
  intro d d' same
  simpa [negDelta, Prod.ext_iff] using same

section Relabel

variable {κ κ' : Type} [DecidableEq κ] [DecidableEq κ'] {f : κ → κ'}

theorem get_relabel (inj : Function.Injective f) (counts : PyDict κ Nat) (key : κ) :
    PyDict.get (counts.map fun e => (f e.1, e.2)) (f key) = counts.get key := by
  induction counts with
  | nil => rfl
  | cons e counts ih =>
    rcases e with ⟨k, v⟩
    simp [PyDict.get_cons, inj.eq_iff, ih]

/-- Renaming the keys of a `Counter` injectively commutes with `counter[key] += 1`. -/
theorem counterIncr_relabel (inj : Function.Injective f) (counts : PyDict κ Nat) (key : κ) :
    counterIncr (counts.map fun e => (f e.1, e.2)) (f key) =
      (counterIncr counts key).map fun e => (f e.1, e.2) := by
  have present : ((counts.map fun e => (f e.1, e.2)).any fun e => e.1 = f key) =
      counts.any fun e => e.1 = key := by
    induction counts with
    | nil => rfl
    | cons e counts ih => simp [inj.eq_iff, ih]
  rw [counterIncr, counterIncr, PyDict.insert, PyDict.insert, present, get_relabel inj]
  by_cases found : (counts.any fun e => e.1 = key) = true
  · rw [if_pos found, if_pos found, List.map_map, List.map_map]
    exact List.map_congr_left fun e _ => by by_cases same : e.1 = key <;> simp [same, inj.eq_iff]
  · rw [if_neg found, if_neg found, List.map_append, List.map_singleton]

theorem tally_map (inj : Function.Injective f) (keys : List κ) :
    tally (keys.map f) = (tally keys).map fun e => (f e.1, e.2) := by
  induction keys using List.reverseRecOn with
  | nil => rfl
  | append_singleton keys key ih =>
    rw [List.map_append, List.map_singleton, tally_append_singleton, tally_append_singleton, ih,
      counterIncr_relabel inj]

end Relabel

/-- `most_common` ranks by counts alone, so it commutes with renaming the keys. -/
theorem mostCommon_relabel {κ κ' : Type} (f : κ → κ') (counts : PyDict κ Nat) (n : Nat) :
    mostCommon (counts.map fun e => (f e.1, e.2)) n =
      (mostCommon counts n).map fun e => (f e.1, e.2) := by
  rw [mostCommon, mostCommon, List.map_take,
    List.map_mergeSort (r := fun x y => decide (y.2 ≤ x.2)) (s := fun x y => decide (y.2 ≤ x.2))
      (f := fun e : κ × Nat => (f e.1, e.2)) fun _ _ _ _ => rfl]

section Swap

variable {a b : List UInt8}

theorem deltaAt_swap : deltaAt b a = negDelta ∘ deltaAt a b := by
  funext i
  simp only [deltaAt, negDelta, Function.comp_apply, neg_sub]

theorem differing_swap (n : Nat) : differing b a n = differing a b n := by
  simp only [differing, deltaAt_swap (a := a) (b := b), Function.comp_apply]
  congr 1
  funext i
  simp [negDelta, Prod.ext_iff, -Prod.mk_zero_zero]

theorem countWhere_swap (n : Nat) : countWhere b a n = countWhere a b n := by
  funext key k
  simp only [countWhere, differing_swap (a := a) (b := b)]

theorem absDelta_swap : absDelta b a = absDelta a b := by
  funext c i
  cases c <;> simp [absDelta, Channel.pick, deltaAt_swap (a := a) (b := b), negDelta]

/-- Swapping the dumps keeps every local of the pixel loop but the `Counter`,
whose keys it negates in place. -/
theorem stateAfter_swap (width height n : Nat) :
    stateAfter b a width height n =
      { stateAfter a b width height n with
        deltaCounts := (stateAfter a b width height n).deltaCounts.map
          fun e => (negDelta e.1, e.2) } := by
  simp only [stateAfter, differing_swap (a := a) (b := b), sumAbsBelow, maxAbsBelow,
    countWhere_swap (a := a) (b := b),
    absDelta_swap (a := a) (b := b), deltaAt_swap (a := a) (b := b), ← List.map_map,
    tally_map negDelta_injective]

/-- Comparing `b` with `a` gives the record of comparing `a` with `b`, with every
difference triple of `top_deltas` negated, in the same order and with the same
counts. -/
theorem computeFrameDiff_swap (frame : Int) (width height : Nat)
    (aLen : a.length = 3 * (width * height)) (bLen : b.length = 3 * (width * height)) :
    ∃ stats, computeFrameDiff frame a b width height = .ok stats ∧
      computeFrameDiff frame b a width height =
        .ok { stats with topDeltas := stats.topDeltas.map fun e => (negDelta e.1, e.2) } := by
  refine ⟨_, computeFrameDiff_eq aLen bLen, ?_⟩
  rw [computeFrameDiff_eq bLen aLen, stateAfter_swap]
  simp only [summarise, mostCommon_relabel]

theorem computeFrameDiff_swap_onePixel :
    ([0, 0, 0] : List UInt8).length = 3 * (1 * 1) ∧ ([0, 0, 7] : List UInt8).length = 3 * (1 * 1) ∧
      ∃ stats, computeFrameDiff 0 [0, 0, 0] [0, 0, 7] (1 : Nat) (1 : Nat) = .ok stats ∧
        computeFrameDiff 0 [0, 0, 7] [0, 0, 0] (1 : Nat) (1 : Nat) =
          .ok { stats with topDeltas := stats.topDeltas.map fun e => (negDelta e.1, e.2) } :=
  ⟨rfl, rfl, computeFrameDiff_swap 0 1 1 rfl rfl⟩

end Swap

end NesiumTools.Rgb24
