import Mathlib.Data.List.Basic

/-!
# The Python runtime the comparison tools run on

The tools under `tools/` are short Python scripts: they read their inputs,
print a report and end with an exit status. This module fixes what of the
interpreter they rely on.

* `PyError` is an uncaught exception, with the data its message carries.
* `Run` is one run of a script: the report lines it printed, in order, and how
  it ended. A raised exception keeps every line printed before it, so a report
  printed before a later failure stays visible (`Run.printed_bind_error`).
* `exitStatus` is the status `raise SystemExit(main())` leaves: the value
  `main` returned, `2` for an argparse usage error and `1` for any other
  uncaught exception.
* `pyIndex`, `pyIncr` and `PyDict` are list subscripts (negative indices
  included) and insertion-ordered dictionaries.
-/

namespace NesiumTools

/-- An exception that leaves a tool's `main`, with the data of its message. -/
inductive PyError where
  /-- `ValueError(msg)` raised by the tool's own code. -/
  | valueError (msg : String)
  /-- `ValueError` raised by `int(text, base)`: "invalid literal for int() with
  base {base}: {text!r}". -/
  | invalidLiteral (base : Nat) (text : String)
  /-- `FileNotFoundError(msg)` raised by the tool's own code. -/
  | fileNotFound (msg : String)
  /-- `FileNotFoundError` raised by the operating system when reading `path`. -/
  | noSuchFile (path : String)
  /-- `IndexError` of a list or bytes subscript. -/
  | indexError
  /-- `ZeroDivisionError` of `divmod`. -/
  | zeroDivision
  /-- argparse's `parser.error(msg)`, which exits with status 2. -/
  | usage (msg : String)
  deriving DecidableEq, Repr

/-- Both kinds of `ValueError`. -/
def PyError.isValueError : PyError → Bool
  | .valueError _ | .invalidLiteral _ _ => true
  | _ => false

/-- The process status of `raise SystemExit(main())` when `main` ends with `r`. -/
def exitStatus : Except PyError Nat → Nat
  | .ok status => status
  | .error (.usage _) => 2
  | .error _ => 1

/-! ## Runs: printed lines, then a value or an exception -/

/-- One run of (part of) a script: the lines it printed, in order, and its
outcome. `ω` is the type of report lines. -/
structure Run (ω α : Type) where
  printed : List ω
  result : Except PyError α

namespace Run

variable {ω α β : Type}

/-- Run `x`, then `f` on its value; an exception in `x` skips `f`. -/
def bind (x : Run ω α) (f : α → Run ω β) : Run ω β :=
  match x.result with
  | .ok a => ⟨x.printed ++ (f a).printed, (f a).result⟩
  | .error e => ⟨x.printed, .error e⟩

instance : Monad (Run ω) where
  pure a := ⟨[], .ok a⟩
  bind := bind

instance : LawfulMonad (Run ω) := LawfulMonad.mk' (Run ω)
  (by intro α x; rcases x with ⟨p, _ | a⟩ <;> simp [Functor.map, bind])
  (by intro α β x f; simp [Bind.bind, Pure.pure, bind])
  (by
    intro α β γ x f g
    rcases x with ⟨p, _ | a⟩
    · rfl
    · simp only [Bind.bind, bind]
      split <;> simp [*])

/-- `print(line)`. -/
def print (line : ω) : Run ω Unit := ⟨[line], .ok ()⟩

/-- `for line in lines: print(line)`. -/
def printAll (lines : List ω) : Run ω Unit := ⟨lines, .ok ()⟩

/-- `raise e`. -/
def raise (e : PyError) : Run ω α := ⟨[], .error e⟩

/-- A computation that prints nothing. -/
def lift (x : Except PyError α) : Run ω α := ⟨[], x⟩

@[simp] theorem printed_pure (a : α) : (pure a : Run ω α).printed = [] := rfl
@[simp] theorem result_pure (a : α) : (pure a : Run ω α).result = .ok a := rfl
@[simp] theorem printed_print (line : ω) : (print line).printed = [line] := rfl
@[simp] theorem result_print (line : ω) : (print line).result = .ok () := rfl
@[simp] theorem printed_raise (e : PyError) : (raise e : Run ω α).printed = [] := rfl
@[simp] theorem result_raise (e : PyError) : (raise e : Run ω α).result = .error e := rfl
@[simp] theorem printed_lift (x : Except PyError α) : (lift x : Run ω α).printed = [] := rfl
@[simp] theorem result_lift (x : Except PyError α) : (lift x : Run ω α).result = x := rfl

theorem printed_bind_ok {x : Run ω α} {a : α} (f : α → Run ω β) (ok : x.result = .ok a) :
    (x >>= f).printed = x.printed ++ (f a).printed := by
  simp only [Bind.bind, bind, ok]

theorem result_bind_ok {x : Run ω α} {a : α} (f : α → Run ω β) (ok : x.result = .ok a) :
    (x >>= f).result = (f a).result := by
  simp only [Bind.bind, bind, ok]

/-- An exception keeps what was printed before it and skips the rest. -/
theorem printed_bind_error {x : Run ω α} {e : PyError} (f : α → Run ω β)
    (err : x.result = .error e) : (x >>= f).printed = x.printed := by
  simp only [Bind.bind, bind, err]

theorem result_bind_error {x : Run ω α} {e : PyError} (f : α → Run ω β)
    (err : x.result = .error e) : (x >>= f).result = .error e := by
  simp only [Bind.bind, bind, err]

@[simp] theorem lift_ok_bind (a : α) (f : α → Run ω β) : lift (.ok a) >>= f = f a := by
  simp [Bind.bind, bind, lift]

@[simp] theorem lift_error_bind (e : PyError) (f : α → Run ω β) :
    lift (.error e) >>= f = raise e := by
  simp [Bind.bind, bind, lift, raise]

@[simp] theorem raise_bind (e : PyError) (f : α → Run ω β) : raise e >>= f = raise e := by
  simp [Bind.bind, bind, raise]

@[simp] theorem map_print (f : Unit → β) (line : ω) :
    f <$> print line = ⟨[line], .ok (f ())⟩ := rfl

@[simp] theorem print_bind (line : ω) (f : Unit → Run ω β) :
    print line >>= f = ⟨line :: (f ()).printed, (f ()).result⟩ := by
  simp [Bind.bind, bind, print]

@[simp] theorem mk_ok_bind (printed : List ω) (a : α) (f : α → Run ω β) :
    (⟨printed, .ok a⟩ : Run ω α) >>= f = ⟨printed ++ (f a).printed, (f a).result⟩ := rfl

@[simp] theorem map_mk_ok (printed : List ω) (a : α) (f : α → β) :
    f <$> (⟨printed, .ok a⟩ : Run ω α) = ⟨printed, .ok (f a)⟩ := by
  simp [Functor.map, Bind.bind, bind]

@[simp] theorem printed_map (f : α → β) (x : Run ω α) : (f <$> x).printed = x.printed := by
  rcases x with ⟨printed, _ | a⟩ <;> simp [Functor.map, Bind.bind, bind]

@[simp] theorem result_map (f : α → β) (x : Run ω α) : (f <$> x).result = f <$> x.result := by
  rcases x with ⟨printed, _ | a⟩ <;> rfl

@[simp] theorem printAll_bind (lines : List ω) (f : Unit → Run ω β) :
    printAll lines >>= f = ⟨lines ++ (f ()).printed, (f ()).result⟩ := by
  simp [Bind.bind, bind, printAll]

end Run

/-! ## List subscripts and dictionaries -/

/-- The position `xs[i]` reads in a list of length `n`: Python counts a
negative `i` from the end. -/
def pyListPos (n : Nat) (i : Int) : Option Nat :=
  if 0 ≤ i ∧ i < n then some i.toNat
  else if -n ≤ i ∧ i < 0 then some (n - i.natAbs)
  else none

/-- `xs[i]`, raising `IndexError` out of range. -/
def pyIndex {α : Type} (xs : List α) (i : Int) : Except PyError α :=
  match pyListPos xs.length i with
  | some k => match xs.get? k with
    | some x => .ok x
    | none => .error .indexError
  | none => .error .indexError

/-- `xs[i] += 1` on a list of counters. -/
def pyIncr (xs : List Nat) (i : Int) : Except PyError (List Nat) :=
  match pyListPos xs.length i with
  | some k => .ok (xs.modify (· + 1) k)
  | none => .error .indexError

/-- `xs[i] = v`, raising `IndexError` out of range. -/
def pySet {α : Type} (xs : List α) (i : Int) (v : α) : Except PyError (List α) :=
  match pyListPos xs.length i with
  | some k => .ok (xs.set k v)
  | none => .error .indexError

/-- `xs[:stop]`: a negative `stop` counts from the end. -/
def pySliceTo {α : Type} (xs : List α) (stop : Int) : List α :=
  if 0 ≤ stop then xs.take stop.toNat else xs.take (xs.length - stop.natAbs)

theorem pyListPos_natCast {n i : Nat} (lt : i < n) : pyListPos n i = some i := by
  rw [pyListPos, if_pos ⟨by omega, by omega⟩, Int.toNat_ofNat]

theorem pyIndex_natCast {α : Type} {xs : List α} {i : Nat} (lt : i < xs.length) :
    pyIndex xs i = .ok xs[i] := by
  simp [pyIndex, pyListPos_natCast lt, List.getElem?_eq_getElem lt]

theorem pyIndex_getD {α : Type} {xs : List α} {i : Nat} (fallback : α) (lt : i < xs.length) :
    pyIndex xs i = .ok (xs.getD i fallback) := by
  simp [pyIndex_natCast lt, List.getElem?_eq_getElem lt]

theorem pySet_natCast {α : Type} {xs : List α} {i : Nat} (v : α) (lt : i < xs.length) :
    pySet xs i v = .ok (xs.set i v) := by
  simp [pySet, pyListPos_natCast lt]

theorem pyIncr_natCast {xs : List Nat} {i : Nat} (lt : i < xs.length) :
    pyIncr xs i = .ok (xs.modify (· + 1) i) := by
  simp [pyIncr, pyListPos_natCast lt]

/-- A Python `dict`: its entries in insertion order. Every dictionary the tools
build has each key once (`PyDict.insert` keeps that). -/
abbrev PyDict (κ ν : Type) := List (κ × ν)

namespace PyDict

variable {κ ν : Type} [DecidableEq κ]

/-- `d.get(k)`. -/
def get : PyDict κ ν → κ → Option ν
  | [], _ => none
  | (k', v) :: d, k => if k' = k then some v else get d k

/-- `d[k] = v`: an existing key keeps its place, a new key goes last. -/
def insert (d : PyDict κ ν) (k : κ) (v : ν) : PyDict κ ν :=
  if d.any (fun e => e.1 = k) then d.map (fun e => if e.1 = k then (k, v) else e)
  else d ++ [(k, v)]

@[simp] theorem get_nil (k : κ) : get ([] : PyDict κ ν) k = none := rfl

theorem get_cons (k' k : κ) (v : ν) (d : PyDict κ ν) :
    get ((k', v) :: d) k = if k' = k then some v else get d k := rfl

theorem get_append (d d' : PyDict κ ν) (k : κ) :
    get (d ++ d') k = (get d k).or (get d' k) := by
  induction d with
  | nil => rfl
  | cons e d ih => rcases e with ⟨k', v⟩; by_cases same : k' = k <;> simp [get_cons, same, ih]

theorem get_eq_none_of_not_any {d : PyDict κ ν} {k : κ} (absent : ¬ d.any (fun e => e.1 = k)) :
    get d k = none := by
  induction d with
  | nil => rfl
  | cons e d ih => rcases e with ⟨k', v⟩; simp_all [get_cons]

theorem get_map_update_ne (d : PyDict κ ν) {k k' : κ} (v : ν) (ne : k' ≠ k) :
    get (d.map (fun e => if e.1 = k then (k, v) else e)) k' = get d k' := by
  induction d with
  | nil => rfl
  | cons e d ih =>
    rcases e with ⟨k₀, v₀⟩
    by_cases same : k₀ = k
    · subst same; simp [get_cons, Ne.symm ne, ih]
    · simp [get_cons, same, ih]

theorem get_map_update_self {d : PyDict κ ν} {k : κ} (v : ν)
    (present : d.any (fun e => e.1 = k)) :
    get (d.map (fun e => if e.1 = k then (k, v) else e)) k = some v := by
  induction d with
  | nil => simp at present
  | cons e d ih =>
    rcases e with ⟨k₀, v₀⟩
    by_cases same : k₀ = k
    · simp [get_cons, same]
    · have rest : d.any (fun e => e.1 = k) := by simpa [same] using present
      simp [get_cons, same, ih rest]

@[simp] theorem get_insert_self (d : PyDict κ ν) (k : κ) (v : ν) :
    get (insert d k v) k = some v := by
  unfold insert
  split
  · exact get_map_update_self v ‹_›
  · simp [get_append, get_eq_none_of_not_any ‹_›, get_cons]

@[simp] theorem get_insert_ne (d : PyDict κ ν) {k k' : κ} (v : ν) (ne : k' ≠ k) :
    get (insert d k v) k' = get d k' := by
  unfold insert
  split
  · exact get_map_update_ne d v ne
  · simp only [get_append, get_cons, Ne.symm ne, if_false, get_nil, Option.or_none]

theorem keys_insert (d : PyDict κ ν) (k : κ) (v : ν) :
    (d.insert k v).map Prod.fst =
      if k ∈ d.map Prod.fst then d.map Prod.fst else d.map Prod.fst ++ [k] := by
  unfold insert
  by_cases present : k ∈ d.map Prod.fst
  · have any : d.any (fun e => e.1 = k) := by simpa using present
    simp only [any, if_true, present, List.map_map]
    exact List.map_congr_left fun e _ => by by_cases same : e.1 = k <;> simp [same]
  · have any : ¬ d.any (fun e => e.1 = k) := by simpa using present
    simp [any, present]

theorem mem_iff_get {d : PyDict κ ν} (nodup : (d.map Prod.fst).Nodup) (key : κ) (value : ν) :
    (key, value) ∈ d ↔ d.get key = some value := by
  induction d with
  | nil => simp
  | cons e d ih =>
    rcases e with ⟨k, c⟩
    simp only [List.map_cons, List.nodup_cons, List.mem_map] at nodup
    by_cases same : k = key
    · subst same
      have absent : (k, value) ∉ d := fun mem => nodup.1 ⟨_, mem, rfl⟩
      simp [get_cons, absent, eq_comm]
    · rw [List.mem_cons, get_cons, if_neg same, ← ih nodup.2]
      simp [Ne.symm same]

end PyDict

end NesiumTools
