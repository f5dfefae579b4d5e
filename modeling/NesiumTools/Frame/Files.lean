import NesiumTools.Py.Str

/-!
# Frame dumps on disk

The three frame tools read fixed-layout binary dumps named after a prefix and
a frame number, and take the frames to compare as a comma-separated list.
This module holds what they share: the file system of byte strings, the dump
paths, `parse_frames_csv` up to its final check, and Python's `divmod`, which
places a pixel index in its row and column.

Paths are POSIX paths: `Path(s)` keeps the root, drops empty and `.`
components, and its `str` is what the tools open and print. The file system is
keyed by that text.
-/

namespace NesiumTools.Frame

/-- A file system of binary files: the bytes of each path that exists. -/
abbrev BytesFs := String → Option (List UInt8)

/-- `path.exists()`. -/
def pathExists (fs : BytesFs) (path : String) : Bool := (fs path).isSome

/-- `path.read_bytes()`. -/
def readBytes (fs : BytesFs) (path : String) : Except PyError (List UInt8) :=
  match fs path with
  | some data => .ok data
  | none => .error (.noSuchFile path)

/-- The root of a POSIX path: `//` for exactly two leading slashes, `/` for one
or more than two, none otherwise. -/
def pathRoot (s : String) : String :=
  match (s.data.takeWhile (· = '/')).length with
  | 0 => ""
  | 2 => "//"
  | _ => "/"

/-- `str(Path(s))` of `PurePosixPath`: the root, then the components between
slashes other than empty ones and `.`, joined by `/`; `.` when nothing is
left. -/
def pyPath (s : String) : String :=
  let parts := (pySplit '/' s).filter fun part => part != "" && part != "."
  let text := pathRoot s ++ "/".intercalate parts
  if text = "" then "." else text

/-- `Path(f"{prefix}_f{frame}.{ext}")`. -/
def dumpPath (pathPrefix : String) (frame : Int) (ext : String) : String :=
  pyPath (pathPrefix ++ "_f" ++ toString frame ++ "." ++ ext)

example : pyPath "dumps//run/./m_f60.rgb24" = "dumps/run/m_f60.rgb24" := by decide
example : dumpPath (pyPath "dumps/") 60 "rgb24" = "dumps_f60.rgb24" := by decide

/-- The frames of `parse_frames_csv(value)` before its count check: the
non-blank comma-separated tokens read by `int`, without repeats, ascending. -/
def framesOfCsv (value : String) : Except PyError (List Int) := do
  let tokens := ((pySplit ',' value).map pyStrip).filter (· ≠ "")
  let frames ← tokens.mapM (pyIntOf · 10)
  pure (frames.eraseDups.mergeSort fun a b => decide (a ≤ b))

/-- A frame list whose distinct frames already stand in ascending order is
read as those frames. -/
theorem framesOfCsv_of_sorted {value : String} {frames : List Int}
    (read : (((pySplit ',' value).map pyStrip).filter (· ≠ "")).mapM (pyIntOf · 10) = .ok frames)
    (sorted : frames.eraseDups.Pairwise (· ≤ ·)) : framesOfCsv value = .ok frames.eraseDups := by
  simp only [framesOfCsv, read, bind, Except.bind, pure, Except.pure,
    List.mergeSort_of_sorted (sorted.imp decide_eq_true)]

/-! ## `sorted(set(frames))` -/

section EraseDups

variable {α : Type} [BEq α] [LawfulBEq α]

theorem mem_eraseDups_loop (x : α) :
    ∀ as bs : List α, x ∈ List.eraseDups.loop as bs ↔ x ∈ as ∨ x ∈ bs
  | [], bs => by simp [List.eraseDups.loop]
  | a :: as, bs => by
    rw [List.eraseDups.loop]
    cases seen : bs.elem a
    · simp only [mem_eraseDups_loop x as (a :: bs), List.mem_cons]
      tauto
    · have seenBefore : a ∈ bs := List.mem_of_elem_eq_true seen
      simp only [mem_eraseDups_loop x as bs, List.mem_cons]
      by_cases head : x = a
      · subst head
        simp [seenBefore]
      · simp [head]

theorem nodup_eraseDups_loop : ∀ as bs : List α, bs.Nodup → (List.eraseDups.loop as bs).Nodup
  | [], bs, nodup => by simpa [List.eraseDups.loop] using nodup
  | a :: as, bs, nodup => by
    rw [List.eraseDups.loop]
    cases seen : bs.elem a
    · refine nodup_eraseDups_loop as (a :: bs) (List.nodup_cons.mpr ⟨fun mem => ?_, nodup⟩)
      exact absurd (List.elem_eq_true_of_mem mem) (by rw [seen]; decide)
    · exact nodup_eraseDups_loop as bs nodup

end EraseDups

/-- The frames `parse_frames_csv` keeps from tokens that all read as integers:
each value once, ascending. -/
theorem framesOfCsv_ok {value : String} {ints : List Int}
    (read : (((pySplit ',' value).map pyStrip).filter (· ≠ "")).mapM (pyIntOf · 10) =
      .ok ints) :
    ∃ frames, framesOfCsv value = .ok frames ∧ frames.Sorted (· < ·) ∧
      ∀ f, f ∈ frames ↔ f ∈ ints := by
  have perm := List.mergeSort_perm ints.eraseDups fun a b => decide (a ≤ b)
  refine ⟨_, by simp only [framesOfCsv, read]; rfl, ?_, fun f => ?_⟩
  · refine List.Sorted.lt_of_le ?_
      (perm.nodup_iff.mpr (nodup_eraseDups_loop ints [] List.nodup_nil))
    exact (List.sorted_mergeSort (fun a b c => by simpa using le_trans) (fun a b => by
      simpa using le_total a b) _).imp (by simp)
  · rw [perm.mem_iff, List.eraseDups, mem_eraseDups_loop]
    simp

/-- Two frame lists whose tokens read as the same integers, in whatever order
and with whatever repeats, are read as one list of frames. -/
theorem framesOfCsv_eq_of_same {value value' : String} {ints ints' : List Int}
    (read : (((pySplit ',' value).map pyStrip).filter (· ≠ "")).mapM (pyIntOf · 10) = .ok ints)
    (read' : (((pySplit ',' value').map pyStrip).filter (· ≠ "")).mapM (pyIntOf · 10) = .ok ints')
    (same : ∀ f, f ∈ ints ↔ f ∈ ints') : framesOfCsv value = framesOfCsv value' := by
  obtain ⟨frames, ok, sorted, mem⟩ := framesOfCsv_ok read
  obtain ⟨frames', ok', sorted', mem'⟩ := framesOfCsv_ok read'
  have perm : frames.Perm frames' :=
    (List.perm_ext_iff_of_nodup sorted.nodup sorted'.nodup).mpr fun f => by rw [mem, mem', same]
  rw [ok, ok', List.eq_of_perm_of_sorted perm sorted sorted']

/-- `divmod(i, width)`: floor division and its remainder. -/
def pyDivmod (i width : Int) : Except PyError (Int × Int) :=
  if width = 0 then .error .zeroDivision else .ok (i.fdiv width, i.fmod width)

theorem pyDivmod_of_pos {width : Int} (i : Nat) (pos : 0 < width) :
    pyDivmod i width = .ok ((i : Int) / width, (i : Int) % width) := by
  simp [pyDivmod, Int.fdiv_eq_ediv _ pos.le, Int.fmod_eq_emod _ pos.le, pos.ne']

/-- The order of `key=lambda t: (-t[1], t[0])` on `(index, count)` pairs:
count descending, then index ascending. -/
def rankBefore (x y : Nat × Nat) : Bool := y.2 < x.2 || (x.2 = y.2 && x.1 ≤ y.1)

theorem rankBefore_trans (p q r : Nat × Nat) :
    rankBefore p q → rankBefore q r → rankBefore p r := by
  simp only [rankBefore, Bool.or_eq_true, Bool.and_eq_true, decide_eq_true_eq]
  omega

theorem rankBefore_total (p q : Nat × Nat) : rankBefore p q || rankBefore q p := by
  simp only [rankBefore, Bool.or_eq_true, Bool.and_eq_true, decide_eq_true_eq]
  omega

end NesiumTools.Frame
