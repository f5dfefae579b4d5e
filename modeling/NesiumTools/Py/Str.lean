import Mathlib.Data.Nat.Digits
import NesiumTools.Py.Runtime

/-!
# Strings, `int()` and hexadecimal formatting

The string methods the trace parsers call (`strip`, `lower`, `split`,
`startswith`, `rstrip`), the reading `int(text, base)` makes of a field, and
the `f"{n:0{width}X}"` formatting that writes it back.

`pyIntOf` follows CPython 3.11's `int(text, base)` on a `str`. It first turns
the text into ASCII (`asciiLiteral`, CPython's
`_PyUnicode_TransformDecimalAndSpaceToASCII`): non-ASCII whitespace becomes a
space, a non-ASCII decimal digit of Unicode 14.0 becomes its ASCII digit, and
any other non-ASCII character ends the literal. `PyLong_FromString` then skips
ASCII whitespace only (`Py_ISSPACE`), so the separators U+001C to U+001F, which
`str.strip()` removes, make a literal invalid. It reads one sign, the base
prefix (`0x` for base 16, with one underscore allowed after it), then digits
with single underscores between them; in a base that is not a power of two it
refuses a literal of more than 4300 digits. Case mapping (`lower`) is ASCII,
which is all the tools' prefixes and digits use.
-/

namespace NesiumTools

/-- `c.isspace()`: the characters `str.strip()` removes. -/
def pyIsSpace (c : Char) : Bool :=
  let n := c.toNat
  n = 32 || (9 ≤ n && n ≤ 13) || (28 ≤ n && n ≤ 31) || n = 0x85 || n = 0xA0 ||
    n = 0x1680 || (0x2000 ≤ n && n ≤ 0x200A) || n = 0x2028 || n = 0x2029 ||
    n = 0x202F || n = 0x205F || n = 0x3000

/-- The characters with `space` removed from both ends. -/
def stripWith (space : Char → Bool) (cs : List Char) : List Char :=
  ((cs.dropWhile space).reverse.dropWhile space).reverse

/-- `strip()` on the characters of a string. -/
def pyStripChars (cs : List Char) : List Char := stripWith pyIsSpace cs

/-- `s.strip()`. -/
def pyStrip (s : String) : String := ⟨pyStripChars s.data⟩

/-- `s.lower()`. -/
def pyLower (s : String) : String := ⟨s.data.map Char.toLower⟩

/-- `s.split(sep)` for a one-character separator. -/
def pySplit (sep : Char) (s : String) : List String := (s.data.splitOn sep).map String.mk

/-- `k, v = s.split(sep, 1)` when `sep in s`. -/
def splitFirst (sep : Char) (s : String) : Option (String × String) :=
  match s.data.span (· ≠ sep) with
  | (k, _ :: v) => some (⟨k⟩, ⟨v⟩)
  | (_, []) => none

/-- `s.startswith(p)`. -/
def pyStartsWith (s p : String) : Bool := p.data.isPrefixOf s.data

/-- `line.rstrip("\n")`. -/
def rstripNewline (line : String) : String :=
  ⟨(line.data.reverse.dropWhile (· = '\n')).reverse⟩

/-! ## Stripping -/

theorem dropWhile_of_forall_false {p : Char → Bool} {cs : List Char}
    (solid : ∀ c ∈ cs, p c = false) : cs.dropWhile p = cs := by
  cases cs with
  | nil => rfl
  | cons c cs => simp [List.dropWhile_cons_of_neg, solid c (.head _)]

/-- Stripping removes exactly the surrounding blanks of a core without blanks. -/
theorem stripWith_of_core {space : Char → Bool} {lead core trail : List Char}
    (leadSpace : ∀ c ∈ lead, space c) (trailSpace : ∀ c ∈ trail, space c)
    (solid : ∀ c ∈ core, space c = false) : stripWith space (lead ++ core ++ trail) = core := by
  unfold stripWith
  rw [List.append_assoc, List.dropWhile_append_of_pos leadSpace, List.dropWhile_append,
    dropWhile_of_forall_false solid]
  split
  · rename_i empty
    have coreNil : core = [] := List.isEmpty_iff.mp empty
    subst coreNil
    simp [List.dropWhile_eq_nil_iff.mpr trailSpace]
  · rw [List.reverse_append, List.dropWhile_append_of_pos (by simpa using trailSpace),
      dropWhile_of_forall_false (by simpa using solid), List.reverse_reverse]

/-! ## `int(text, base)` -/

/-- `Py_ISSPACE(c)`: the ASCII whitespace `int()` skips around a literal. -/
def pyIsAsciiSpace (c : Char) : Bool :=
  let n := c.toNat
  n = 32 || (9 ≤ n && n ≤ 13)

/-- The zero of each run of ten non-ASCII decimal digits, as `unicodedata` of
Python 3.11 (Unicode 14.0) has them. -/
def unicodeDigitZeros : List Nat :=
  [0x660, 0x6F0, 0x7C0, 0x966, 0x9E6, 0xA66, 0xAE6, 0xB66, 0xBE6, 0xC66, 0xCE6, 0xD66, 0xDE6,
    0xE50, 0xED0, 0xF20, 0x1040, 0x1090, 0x17E0, 0x1810, 0x1946, 0x19D0, 0x1A80, 0x1A90,
    0x1B50, 0x1BB0, 0x1C40, 0x1C50, 0xA620, 0xA8D0, 0xA900, 0xA9D0, 0xA9F0, 0xAA50, 0xABF0,
    0xFF10, 0x104A0, 0x10D30, 0x11066, 0x110F0, 0x11136, 0x111D0, 0x112F0, 0x11450, 0x114D0,
    0x11650, 0x116C0, 0x11730, 0x118E0, 0x11950, 0x11C50, 0x11D50, 0x11DA0, 0x16A60, 0x16AC0,
    0x16B50, 0x1D7CE, 0x1D7D8, 0x1D7E2, 0x1D7EC, 0x1D7F6, 0x1E140, 0x1E2F0, 0x1E950, 0x1FBF0]

/-- `Py_UNICODE_TODECIMAL(c)` of a non-ASCII character: its value as a decimal
digit, if it is one. -/
def unicodeDecimal (c : Char) : Option Nat :=
  (unicodeDigitZeros.find? fun first => first ≤ c.toNat ∧ c.toNat < first + 10).map (c.toNat - ·)

/-- The ASCII form `int()` gives a character before it parses: ASCII stays,
other whitespace becomes a space, another decimal digit becomes its ASCII
digit, and nothing else has one. -/
def asciiOf (c : Char) : Option Char :=
  if c.toNat < 127 then some c
  else if pyIsSpace c then some ' '
  else (unicodeDecimal c).map fun d => Char.ofNat (48 + d)

/-- `_PyUnicode_TransformDecimalAndSpaceToASCII`: the ASCII form of each
character, and `?` in place of the first character without one, which ends the
text. -/
def asciiLiteral : List Char → List Char
  | [] => []
  | c :: rest =>
    match asciiOf c with
    | some a => a :: asciiLiteral rest
    | none => ['?']

/-- The whitespace `int()` skips around a literal: the characters whose ASCII
form is ASCII whitespace. The separators U+001C to U+001F, which `strip()`
removes, are not among them. -/
def pyIntSkips (c : Char) : Bool := (asciiOf c).any pyIsAsciiSpace

/-- The value of `c` as a digit: `0`-`9`, then the letters from 10 on, in
either case. -/
def digitValue (c : Char) : Option Nat :=
  let n := c.toNat
  if 48 ≤ n ∧ n ≤ 57 then some (n - 48)
  else if 97 ≤ n ∧ n ≤ 122 then some (n - 87)
  else if 65 ≤ n ∧ n ≤ 90 then some (n - 55)
  else none

/-- A digit of `base`. -/
def digitIn (base : Nat) (c : Char) : Option Nat := (digitValue c).filter (· < base)

/-- The digits after the first, each after at most one underscore. -/
def readDigitsFrom (base acc : Nat) : List Char → Option Nat
  | [] => some acc
  | c :: rest =>
    if c = '_' then
      match rest with
      | d :: rest' => (digitIn base d).bind fun v => readDigitsFrom base (acc * base + v) rest'
      | [] => none
    else (digitIn base c).bind fun v => readDigitsFrom base (acc * base + v) rest

/-- A non-empty digit string that starts with a digit. -/
def readDigits (base : Nat) : List Char → Option Nat
  | [] => none
  | c :: rest => (digitIn base c).bind fun v => readDigitsFrom base v rest

/-- One leading sign: whether it is `-`, and the rest. -/
def splitSign : List Char → Bool × List Char
  | [] => (false, [])
  | c :: rest => if c = '-' then (true, rest) else if c = '+' then (false, rest) else (false, c :: rest)

/-- The letter of the prefix `int()` accepts for `base`. -/
def basePrefixLetter : Nat → Option Char
  | 16 => some 'x'
  | 8 => some 'o'
  | 2 => some 'b'
  | _ => none

/-- One underscore `int()` allows right after a base prefix. -/
def dropUnderscore : List Char → List Char
  | [] => []
  | c :: rest => if c = '_' then rest else c :: rest

/-- Skip a `0x` (`0o`, `0b`) prefix and one underscore after it. -/
def dropBasePrefix (base : Nat) : List Char → List Char
  | c :: x :: rest =>
    if c = '0' ∧ basePrefixLetter base = some x.toLower then dropUnderscore rest
    else c :: x :: rest
  | cs => cs

/-- The digits and underscores `int()` scans at the start of a literal in a
base that is not a power of two, before it checks the digit limit. -/
def digitRun (base : Nat) (cs : List Char) : List Char :=
  cs.takeWhile fun c => (digitIn base c).isSome || c = '_'

/-- `int(text, base)`: the ASCII form stripped of ASCII whitespace, one sign,
the base prefix, then the digits. In a base that is not a power of two, a
well-formed run of more than 4300 digits raises the digit-limit `ValueError`
first. -/
def pyIntOf (text : String) (base : Nat) : Except PyError Int :=
  let (negative, body) := splitSign (stripWith pyIsAsciiSpace (asciiLiteral text.data))
  let digits := dropBasePrefix base body
  let run := digitRun base digits
  let counted := (run.filter (· ≠ '_')).length
  if base &&& (base - 1) ≠ 0 ∧ (readDigits base run).isSome ∧ 4300 < counted then
    .error (.valueError ("Exceeds the limit (4300 digits) for integer string conversion: " ++
      "value has " ++ toString counted ++
      " digits; use sys.set_int_max_str_digits() to increase the limit"))
  else
    match readDigits base digits with
    | some n => .ok (if negative then -n else n)
    | none => .error (.invalidLiteral base text)

/-! ## What `int()` reads -/

theorem asciiOf_of_lt {c : Char} (ascii : c.toNat < 127) : asciiOf c = some c := by
  simp [asciiOf, ascii]

/-- A text whose every character has an ASCII form is read as those forms. -/
theorem asciiLiteral_of_forall :
    ∀ {cs : List Char}, (∀ c ∈ cs, (asciiOf c).isSome) → asciiLiteral cs = cs.filterMap asciiOf
  | [], _ => rfl
  | c :: rest, forms => by
    obtain ⟨a, form⟩ := Option.isSome_iff_exists.mp (forms c (.head _))
    rw [asciiLiteral, form, List.filterMap_cons_some form,
      asciiLiteral_of_forall fun d mem => forms d (.tail _ mem)]

theorem filterMap_asciiOf_of_ascii {cs : List Char} (ascii : ∀ c ∈ cs, c.toNat < 127) :
    cs.filterMap asciiOf = cs := by
  rw [List.filterMap_congr fun c mem => asciiOf_of_lt (ascii c mem), List.filterMap_some]

theorem isSome_of_pyIntSkips {c : Char} (skip : pyIntSkips c) : (asciiOf c).isSome := by
  unfold pyIntSkips at skip
  cases form : asciiOf c <;> simp_all

/-- `int()` reads the ASCII core of a text whose surrounding blanks it skips. -/
theorem stripInt_of_core {lead core trail : List Char} (leadSkip : ∀ c ∈ lead, pyIntSkips c)
    (trailSkip : ∀ c ∈ trail, pyIntSkips c) (ascii : ∀ c ∈ core, c.toNat < 127)
    (solid : ∀ c ∈ core, pyIsAsciiSpace c = false) :
    stripWith pyIsAsciiSpace (asciiLiteral (lead ++ core ++ trail)) = core := by
  have blankForm : ∀ cs : List Char, (∀ c ∈ cs, pyIntSkips c) →
      ∀ a ∈ cs.filterMap asciiOf, pyIsAsciiSpace a := by
    intro cs skip a mem
    obtain ⟨c, inCs, form⟩ := List.mem_filterMap.mp mem
    simpa [pyIntSkips, form] using skip c inCs
  have forms : ∀ c ∈ lead ++ core ++ trail, (asciiOf c).isSome := by
    intro c mem
    simp only [List.mem_append] at mem
    rcases mem with (inLead | inCore) | inTrail
    · exact isSome_of_pyIntSkips (leadSkip c inLead)
    · simp [asciiOf_of_lt (ascii c inCore)]
    · exact isSome_of_pyIntSkips (trailSkip c inTrail)
  rw [asciiLiteral_of_forall forms, List.filterMap_append, List.filterMap_append,
    filterMap_asciiOf_of_ascii ascii]
  exact stripWith_of_core (blankForm lead leadSkip) (blankForm trail trailSkip) solid

theorem pyIsAsciiSpace_of_pyIsSpace {c : Char} (solid : pyIsSpace c = false) :
    pyIsAsciiSpace c = false := by
  simp only [pyIsSpace, pyIsAsciiSpace, Bool.or_eq_false_iff, decide_eq_false_iff_not,
    Bool.and_eq_false_iff] at solid ⊢
  omega

/-- A base that is a power of two has no digit limit. -/
theorem land_pred_sixteen : (16 : Nat) &&& (16 - 1) = 0 := rfl

/-- The upper-case digit of `d < 16`. -/
def hexDigitChar (d : Nat) : Char :=
  if d < 10 then Char.ofNat (d + 48) else Char.ofNat (d + 55)

/-- The upper-case hexadecimal numeral of `n`, most significant digit first. -/
def hexNumeral (n : Nat) : List Char :=
  if n = 0 then ['0'] else (Nat.digits 16 n).reverse.map hexDigitChar

/-- `cs` left-padded with zeros to at least `width` characters. -/
def zeroPadded (width : Nat) (cs : List Char) : List Char :=
  List.replicate (width - cs.length) '0' ++ cs

/-- `f"{n:0{width}X}"`: the sign, then zeros up to `width` characters, then
the digits. -/
def pyFormatHex (n : Int) (width : Nat) : String :=
  let sign := if n < 0 then ['-'] else []
  let digits := hexNumeral n.natAbs
  ⟨sign ++ List.replicate (width - (sign.length + digits.length)) '0' ++ digits⟩

theorem pyFormatHex_natCast (n width : Nat) :
    pyFormatHex n width = ⟨zeroPadded width (hexNumeral n)⟩ := by
  have nonneg : ¬ (n : Int) < 0 := by omega
  simp [pyFormatHex, zeroPadded, nonneg]

/-! ## Hexadecimal digits and their values -/

/-- `c` is a hexadecimal digit, in either case. -/
def isHexDigit (c : Char) : Bool := (digitIn 16 c).isSome

/-- The number a string of digits denotes, most significant first; `0` for none. -/
def hexValue (cs : List Char) : Nat :=
  cs.foldl (fun acc c => acc * 16 + (digitValue c).getD 0) 0

theorem toNat_ofNat_small {n : Nat} (small : n < 55296) : (Char.ofNat n).toNat = n := by
  have valid : n.isValidChar := Or.inl small
  simp only [Char.ofNat, valid, dif_pos, Char.ofNatAux, Char.toNat]
  simp [UInt32.toNat, UInt32.ofNat']

theorem toNat_of_isHexDigit {c : Char} (hex : isHexDigit c) :
    48 ≤ c.toNat ∧ c.toNat ≤ 57 ∨ 97 ≤ c.toNat ∧ c.toNat ≤ 102 ∨
      65 ≤ c.toNat ∧ c.toNat ≤ 70 := by
  simp only [isHexDigit, digitIn, digitValue] at hex
  split_ifs at hex <;> simp [Option.filter] at hex <;> omega

theorem isHexDigit_ne {c c' : Char} (hex : isHexDigit c) (other : ¬ isHexDigit c') : c ≠ c' := by
  rintro rfl; exact other hex

theorem pyIsSpace_of_isHexDigit {c : Char} (hex : isHexDigit c) : pyIsSpace c = false := by
  have := toNat_of_isHexDigit hex
  simp only [pyIsSpace]
  simp only [Bool.or_eq_false_iff, decide_eq_false_iff_not, Bool.and_eq_false_iff]
  omega

theorem digitValue_toLower (c : Char) : digitValue c.toLower = digitValue c := by
  rw [Char.toLower]
  split
  · have lowered : (Char.ofNat (c.toNat + 32)).toNat = c.toNat + 32 :=
      toNat_ofNat_small (by omega)
    simp only [digitValue, lowered]
    split_ifs <;> first | omega | simp only [Option.some.injEq]; omega
  · rfl

theorem isHexDigit_toLower {c : Char} : isHexDigit c.toLower = isHexDigit c := by
  simp only [isHexDigit, digitIn, digitValue_toLower]

theorem hexValue_map_toLower (cs : List Char) : hexValue (cs.map Char.toLower) = hexValue cs := by
  simp only [hexValue, List.foldl_map, digitValue_toLower]

theorem digitValue_hexDigitChar {d : Nat} (small : d < 16) : digitValue (hexDigitChar d) = some d := by
  unfold hexDigitChar
  split
  · simp only [digitValue, toNat_ofNat_small (show d + 48 < 55296 by omega)]
    split_ifs <;> first | omega | simp only [Option.some.injEq]; omega
  · simp only [digitValue, toNat_ofNat_small (show d + 55 < 55296 by omega)]
    split_ifs <;> first | omega | simp only [Option.some.injEq]; omega

theorem isHexDigit_hexDigitChar {d : Nat} (small : d < 16) : isHexDigit (hexDigitChar d) := by
  simp [isHexDigit, digitIn, digitValue_hexDigitChar small, small, Option.filter]

/-- Reading digits most significant first undoes `Nat.digits`. -/
theorem foldl_reverse_digits {ds : List Nat} {f : Nat → Char} (acc : Nat)
    (read : ∀ d ∈ ds, digitValue (f d) = some d) :
    (ds.reverse.map f).foldl (fun acc c => acc * 16 + (digitValue c).getD 0) acc =
      acc * 16 ^ ds.length + Nat.ofDigits 16 ds := by
  induction ds generalizing acc with
  | nil => simp
  | cons d ds ih =>
    simp only [List.reverse_cons, List.map_append, List.foldl_append, List.mem_cons] at *
    rw [ih acc (fun d' mem => read d' (.inr mem))]
    simp [read d (.inl rfl), Nat.ofDigits_cons, pow_succ]
    ring

theorem hexValue_hexNumeral (n : Nat) : hexValue (hexNumeral n) = n := by
  unfold hexNumeral hexValue
  split
  · subst_vars; rfl
  · rw [foldl_reverse_digits 0 fun d mem => digitValue_hexDigitChar
      (Nat.digits_lt_base (by norm_num) mem)]
    simp [Nat.ofDigits_digits]

theorem hexValue_replicate_zero_append (k : Nat) (cs : List Char) :
    hexValue (List.replicate k '0' ++ cs) = hexValue cs := by
  have zeros : ∀ k, (List.replicate k '0').foldl
      (fun acc c => acc * 16 + (digitValue c).getD 0) 0 = 0 := by
    intro k; induction k with
    | zero => rfl
    | succ k ih => rw [List.replicate_succ', List.foldl_append, ih]; rfl
  simp only [hexValue, List.foldl_append, zeros]

theorem hexValue_zeroPadded (width n : Nat) : hexValue (zeroPadded width (hexNumeral n)) = n := by
  rw [zeroPadded, hexValue_replicate_zero_append, hexValue_hexNumeral]

theorem isHexDigit_of_mem_zeroPadded {width n : Nat} {c : Char}
    (mem : c ∈ zeroPadded width (hexNumeral n)) : isHexDigit c := by
  simp only [zeroPadded, hexNumeral, List.mem_append, List.mem_replicate] at mem
  rcases mem with ⟨-, rfl⟩ | mem
  · decide
  · split at mem
    · simp at mem; subst mem; decide
    · obtain ⟨d, digit, rfl⟩ := List.mem_map.mp mem
      exact isHexDigit_hexDigitChar (Nat.digits_lt_base (by norm_num) (List.mem_reverse.mp digit))

theorem hexNumeral_length_le_iff {width n : Nat} (wide : 1 ≤ width) :
    (hexNumeral n).length ≤ width ↔ n < 16 ^ width := by
  unfold hexNumeral
  split
  · subst_vars; simp [wide, Nat.pos_pow_of_pos]
  · rw [List.length_map, List.length_reverse, Nat.digits_len 16 n (by norm_num) ‹_›,
      Nat.lt_pow_iff_log_lt (by norm_num) ‹_›]
    omega

end NesiumTools
