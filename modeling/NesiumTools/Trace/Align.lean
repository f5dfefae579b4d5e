import NesiumTools.Py.Runtime

/-!
# Positional alignment of two traces

The three trace comparators walk both event lists by shared position up to
the shorter length and stop at the first position whose events differ; there
is no resynchronisation. `firstDiffering` is that loop for any comparison of
two events, and `compareEventsBy` is `compare_events` of the APU and NMI tools
for any key function (`(ev, addr, value)` and `key_of`).

An event comparison here is always "the keys differ", so the loop is
characterised by the key lists alone: it finds nothing exactly when the common
prefixes of the key lists agree (`firstDiffering_eq_none`), and what it finds
is their first disagreement (`firstDiffering_eq_some`).
`compareEventsBy_contract` lifts that to the report and the status of
`compare_events`.

`print_context` clips the window `[center - radius, center + radius]` to the
list at both ends; `windowRows_clipped` says that what it lists is then
exactly the events within the radius of the centre (`nearRows`).
-/

namespace NesiumTools.Trace

variable {α ε κ : Type}

/-! ## First disagreement of two lists -/

/-- Position `i` lies below both lengths, the lists differ there, and they
agree everywhere before it. -/
def FirstDiff (xs ys : List κ) (i : Nat) : Prop :=
  i < min xs.length ys.length ∧ xs[i]? ≠ ys[i]? ∧ ∀ j < i, xs[j]? = ys[j]?

/-- The lists agree at every position below both lengths. -/
def PrefixAgrees (xs ys : List κ) : Prop :=
  ∀ j < min xs.length ys.length, xs[j]? = ys[j]?

theorem prefixAgrees_cons {x y : κ} {xs ys : List κ} :
    PrefixAgrees (x :: xs) (y :: ys) ↔ x = y ∧ PrefixAgrees xs ys := by
  constructor
  · intro agree
    refine ⟨by simpa using agree 0 (by simp only [List.length_cons]; omega), fun j lt => ?_⟩
    simpa using agree (j + 1) (by simp only [List.length_cons]; omega)
  · rintro ⟨rfl, agree⟩ (_ | j) lt
    · simp
    · simp only [List.length_cons] at lt
      simpa using agree j (by omega)

/-- Equal lists are equally long lists agreeing on their common prefix. -/
theorem eq_iff_prefixAgrees {xs ys : List κ} :
    xs = ys ↔ xs.length = ys.length ∧ PrefixAgrees xs ys := by
  constructor
  · rintro rfl; exact ⟨rfl, fun _ _ => rfl⟩
  · rintro ⟨length, agree⟩
    apply List.ext_getElem? fun j => ?_
    by_cases lt : j < xs.length
    · exact agree j (by omega)
    · rw [List.getElem?_eq_none (by omega), List.getElem?_eq_none (by omega)]

/-! ## The scan -/

/-- The loop `for idx in range(min(len(a), len(b)))` of the comparators: the
first index at which `differ` holds, with the two events there. -/
def firstDiffering (differ : α → α → Bool) : List α → List α → Nat → Option (Nat × α × α)
  | a :: as, b :: bs, idx =>
    if differ a b then some (idx, a, b) else firstDiffering differ as bs (idx + 1)
  | _, _, _ => none

section Keyed

variable [DecidableEq κ] (key : α → κ)

/-- Two events compare unequal: `key(m) != key(n)`. -/
def keysDiffer (x y : α) : Bool := decide (key x ≠ key y)

@[simp] theorem keysDiffer_eq_true {x y : α} : keysDiffer key x y = true ↔ key x ≠ key y := by
  simp [keysDiffer]

@[simp] theorem keysDiffer_eq_false {x y : α} : keysDiffer key x y = false ↔ key x = key y := by
  simp [keysDiffer]

theorem firstDiffering_eq_none {as bs : List α} {idx : Nat} :
    firstDiffering (keysDiffer key) as bs idx = none ↔
      PrefixAgrees (as.map key) (bs.map key) := by
  induction as generalizing bs idx with
  | nil => simp [firstDiffering, PrefixAgrees]
  | cons a as ih =>
    cases bs with
    | nil => simp [firstDiffering, PrefixAgrees]
    | cons b bs =>
      by_cases same : key a = key b <;>
        simp [firstDiffering, same, ih, prefixAgrees_cons, List.map_cons]

theorem firstDiffering_eq_some {as bs : List α} {idx i : Nat} {x y : α}
    (found : firstDiffering (keysDiffer key) as bs idx = some (i, x, y)) :
    idx ≤ i ∧ as[i - idx]? = some x ∧ bs[i - idx]? = some y ∧
      FirstDiff (as.map key) (bs.map key) (i - idx) := by
  induction as generalizing bs idx with
  | nil => simp [firstDiffering] at found
  | cons a as ih =>
    cases bs with
    | nil => simp [firstDiffering] at found
    | cons b bs =>
      by_cases same : key a = key b
      · have still : keysDiffer key a b = false := (keysDiffer_eq_false key).mpr same
        simp only [firstDiffering, still, Bool.false_eq_true, if_false] at found
        obtain ⟨le, hx, hy, lt, ne, before⟩ := ih found
        have shift : i - idx = i - (idx + 1) + 1 := by omega
        refine ⟨by omega, by rw [shift]; simpa using hx, by rw [shift]; simpa using hy,
          ?_, ?_, ?_⟩
        · rw [shift]; simp at lt ⊢; omega
        · rw [shift]; simpa using ne
        · rintro (_ | j) lt'
          · simp [same]
          · simpa using before j (by omega)
      · have stop : keysDiffer key a b = true := (keysDiffer_eq_true key).mpr same
        simp only [firstDiffering, stop, if_true, Option.some.injEq, Prod.mk.injEq] at found
        obtain ⟨rfl, rfl, rfl⟩ := found
        refine ⟨le_refl _, by simp, by simp, ?_, by simp [same], by simp⟩
        simp only [Nat.sub_self, List.length_map, List.length_cons]
        omega

/-- The first disagreement the scan reports from position `0`. -/
theorem firstDiffering_zero_eq_some {as bs : List α} {i : Nat} {x y : α}
    (found : firstDiffering (keysDiffer key) as bs 0 = some (i, x, y)) :
    as[i]? = some x ∧ bs[i]? = some y ∧ FirstDiff (as.map key) (bs.map key) i := by
  simpa using firstDiffering_eq_some key found

end Keyed

/-! ## `compare_events` -/

/-- What `print_context` prints: the name, the half-open range, and the
events in it with the centre marked. -/
structure Window (ε : Type) where
  name : String
  start : Int
  stop : Int
  rows : List (Nat × Bool × ε)

/-- The rows of `for idx in range(start, stop)`, each event with its index and
whether it is the centre. -/
def windowRows (events : List ε) (center : Nat) (start stop : Int) : List (Nat × Bool × ε) :=
  ((List.range (stop - start).toNat).map (start.toNat + ·)).filterMap fun idx =>
    events[idx]?.map fun e => (idx, idx = center, e)

/-- `print_context(name, events, center, radius)`. -/
def printContext (name : String) (events : List ε) (center : Nat) (radius : Int) : Window ε :=
  let start := max 0 ((center : Int) - radius)
  let stop := min (events.length : Int) (center + radius + 1)
  ⟨name, start, stop, windowRows events center start stop⟩

/-! ### What a window shows -/

/-- The rows a window of radius `radius` around `center` should show: every
event whose index lies within `radius` of the centre, in order, with its index
and marked exactly when it is the centre. -/
def nearRows (events : List ε) (center : Nat) (radius : Int) : List (Nat × Bool × ε) :=
  (events.enum.filter fun p => (center : Int) - radius ≤ p.1 ∧ (p.1 : Int) ≤ center + radius).map
    fun p => (p.1, decide (p.1 = center), p.2)

theorem filterMap_enumFrom {β : Type} (f : Nat → ε → Option β) : ∀ (events : List ε) (offset : Nat),
    (events.enumFrom offset).filterMap (fun p => f p.1 p.2) =
      (List.range' offset events.length).filterMap fun i => events[i - offset]?.bind (f i)
  | [], _ => rfl
  | e :: events, offset => by
    have shift : ∀ i ∈ List.range' (offset + 1) events.length,
        (e :: events)[i - offset]?.bind (f i) = events[i - (offset + 1)]?.bind (f i) := by
      intro i mem
      have later := (List.mem_range'_1.mp mem).1
      rw [show i - offset = i - (offset + 1) + 1 by omega, List.getElem?_cons_succ]
    rw [List.enumFrom_cons, List.length_cons, List.range'_succ, List.filterMap_cons,
      List.filterMap_cons, List.filterMap_congr shift, ← filterMap_enumFrom f events (offset + 1),
      Nat.sub_self, List.getElem?_cons_zero, Option.some_bind]

/-- A loop over `range(start, start + count)` inside `range(n)` is the loop
over `range(n)` that skips the indices outside. -/
theorem filterMap_range' {β : Type} (f : Nat → Option β) {start count n : Nat}
    (inside : start + count ≤ n) :
    (List.range' start count).filterMap f =
      (List.range n).filterMap fun i => if start ≤ i ∧ i < start + count then f i else none := by
  have front := List.range'_append_1 0 start count
  have whole := List.range'_append_1 0 (start + count) (n - (start + count))
  rw [Nat.zero_add, Nat.add_comm count] at front
  rw [Nat.zero_add, Nat.sub_add_cancel inside] at whole
  have below : (List.range' 0 start).filterMap
      (fun i => if start ≤ i ∧ i < start + count then f i else none) = [] :=
    List.filterMap_eq_nil_iff.mpr fun i mem => if_neg (by simp at mem; omega)
  have above : (List.range' (start + count) (n - (start + count))).filterMap
      (fun i => if start ≤ i ∧ i < start + count then f i else none) = [] :=
    List.filterMap_eq_nil_iff.mpr fun i mem => if_neg (by simp at mem; omega)
  rw [List.range_eq_range', ← whole, ← front, List.filterMap_append, List.filterMap_append, below,
    above, List.nil_append, List.append_nil]
  exact List.filterMap_congr fun i mem => (if_pos (by simp at mem; omega)).symm

/-- Between bounds inside the list, the rows are the enumerated events
between them. -/
theorem windowRows_eq (events : List ε) (center : Nat) {start stop : Int} (low : 0 ≤ start)
    (high : stop ≤ events.length) :
    windowRows events center start stop =
      (events.enum.filter fun p => start ≤ p.1 ∧ (p.1 : Int) < stop).map
        fun p => (p.1, decide (p.1 = center), p.2) := by
  by_cases empty : stop ≤ start
  · have none : (stop - start).toNat = 0 := by omega
    simp only [windowRows, none, List.range_zero, List.map_nil, List.filterMap_nil]
    rw [List.filter_eq_nil_iff.mpr fun p _ => by simp only [decide_eq_true_eq]; omega, List.map_nil]
  rw [windowRows, ← List.range'_eq_map_range, filterMap_range' _ (n := events.length) (by omega),
    ← List.filterMap_eq_map, List.filterMap_filter, List.enum_eq_enumFrom]
  simp only [Function.comp_apply, decide_eq_true_eq]
  refine Eq.trans ?_ (filterMap_enumFrom (fun i e =>
    if start ≤ i ∧ (i : Int) < stop then some (i, decide (i = center), e) else none) events 0).symm
  rw [List.range_eq_range']
  refine List.filterMap_congr fun i _ => ?_
  rw [Nat.sub_zero]
  by_cases inside : start ≤ i ∧ (i : Int) < stop
  · rw [if_pos (by omega)]
    cases events[i]? <;> simp [inside]
  · rw [if_neg (by omega)]
    cases events[i]? <;> simp [inside]

/-- Clipped to the list at both ends, the window is the events within the
radius of the centre. -/
theorem windowRows_clipped (events : List ε) (center : Nat) (radius : Int) :
    windowRows events center (max 0 (center - radius)) (min events.length (center + radius + 1)) =
      nearRows events center radius := by
  rw [windowRows_eq _ _ (Int.le_max_left _ _) (Int.min_le_left _ _), nearRows]
  congr 1
  refine List.filter_congr fun p mem => ?_
  have := List.fst_lt_of_mem_enum mem
  simp only [decide_eq_decide]
  omega

/-- The lines `compare_events` (and the `main` around it) prints; `κ` is the
compared key, `ε` the event. -/
inductive CompareLine (κ ε : Type) where
  /-- `Loaded comparable events: mesen=... nesium=...` -/
  | loaded (mesenEvents nesiumEvents : Nat)
  /-- `First mismatch found:` with the index and both keys. -/
  | firstMismatch (index : Nat) (mesen nesium : κ)
  | blank
  | context (window : Window ε)
  /-- `Event count mismatch:` with both counts. -/
  | countMismatch (mesenEvents nesiumEvents : Nat)
  /-- `No mismatch found across {common} comparable events.` -/
  | noMismatch (common : Nat)

/-- `compare_events(mesen_events, nesium_events, context)` for the key
`key`. -/
def compareEventsBy [DecidableEq κ] (key : ε → κ) (mesenEvents nesiumEvents : List ε)
    (context : Int) : Run (CompareLine κ ε) Nat :=
  let common := min mesenEvents.length nesiumEvents.length
  match firstDiffering (keysDiffer key) mesenEvents nesiumEvents 0 with
  | some (idx, m, n) => do
    Run.print (.firstMismatch idx (key m) (key n))
    Run.print .blank
    Run.print (.context (printContext "mesen" mesenEvents idx context))
    Run.print .blank
    Run.print (.context (printContext "nesium" nesiumEvents idx context))
    pure 1
  | none =>
    if mesenEvents.length ≠ nesiumEvents.length then do
      Run.print (.countMismatch mesenEvents.length nesiumEvents.length)
      pure 1
    else do
      Run.print (.noMismatch common)
      pure 0

/-- The contract of a `compare_events` with key `key`: it returns `0`
exactly when the key sequences are equal; when the keys disagree below both
lengths it returns `1` and reports the first disagreement; when they agree
there, it returns `1` exactly when the lengths differ, and then reports the
two counts. -/
def CompareContract [DecidableEq κ] (key : ε → κ)
    (compare : List ε → List ε → Int → Run (CompareLine κ ε) Nat) : Prop :=
  ∀ ms ns context,
    ((compare ms ns context).result = .ok 0 ↔ ms.map key = ns.map key) ∧
      (¬ PrefixAgrees (ms.map key) (ns.map key) →
        (compare ms ns context).result = .ok 1 ∧
          ∃ i m n rest, (compare ms ns context).printed = .firstMismatch i m n :: rest ∧
            FirstDiff (ms.map key) (ns.map key) i) ∧
      (PrefixAgrees (ms.map key) (ns.map key) →
        ((compare ms ns context).result = .ok 1 ↔ ms.length ≠ ns.length) ∧
          (ms.length ≠ ns.length →
            (compare ms ns context).printed = [.countMismatch ms.length ns.length]))

theorem compareEventsBy_contract [DecidableEq κ] (key : ε → κ) :
    CompareContract key (compareEventsBy key) := by
  intro ms ns context
  rw [eq_iff_prefixAgrees, List.length_map, List.length_map]
  rcases found : firstDiffering (keysDiffer key) ms ns 0 with _ | ⟨i, m, n⟩
  · have agree := (firstDiffering_eq_none key).mp found
    by_cases length : ms.length = ns.length <;>
      simp [compareEventsBy, found, agree, length]
  · obtain ⟨-, -, first⟩ := firstDiffering_zero_eq_some key found
    have disagree : ¬ PrefixAgrees (ms.map key) (ns.map key) := fun agree =>
      first.2.1 (agree i first.1)
    simp [compareEventsBy, found, disagree, first]

/-- `compare_events` returns `0` on equal key sequences and `1` otherwise. -/
theorem compareEventsBy_result [DecidableEq κ] (key : ε → κ) (ms ns : List ε) (context : Int) :
    (compareEventsBy key ms ns context).result = .ok (if ms.map key = ns.map key then 0 else 1) := by
  obtain ⟨same, differ, agree⟩ := compareEventsBy_contract key ms ns context
  by_cases equal : ms.map key = ns.map key
  · rw [if_pos equal, same.mpr equal]
  rw [if_neg equal]
  by_cases prefixAgrees : PrefixAgrees (ms.map key) (ns.map key)
  · refine (agree prefixAgrees).1.mpr fun length => equal ?_
    exact eq_iff_prefixAgrees.mpr ⟨by simpa using length, prefixAgrees⟩
  · exact (differ prefixAgrees).1

end NesiumTools.Trace
