import NesiumTools.Py.Str

/-!
# Fields of a trace line

`parse_fields` and `normalize_hex` are the same text in `diff_apu_trace.py`
and `diff_nmi_trace.py`; both parsers read a line's fields through the first
and its `addr` and `value` through the second.

The normalised `addr` and `value` are part of the key the two comparators
align on, so what matters is that they depend on the number a field spells and
on nothing else of its spelling. `HexSpelling` is a field written as the
emulators write numbers: whitespace, an optional `0x` or `0X`, hexadecimal
digits in either case, whitespace. On every spelling `normalizeHex` writes the
zero-padded upper-case numeral of its value (`normalizeHex_text`); hence two
spellings get one key exactly when their values agree, a key has `width`
characters exactly when the value fits in them, and normalising a key again
gives the key back (`normalizeHex_spelling`).

`get_int` of the PPU parser calls `int()` on the field without stripping it
first, and `int()` skips less whitespace than `strip()`. `IntSpelling` is a
spelling whose blanks `int()` skips itself; `int(field, 16)` reads its value
(`pyIntOf_text`).
-/

namespace NesiumTools.Trace

/-- `parse_fields(line)`: the `key=value` segments of the stripped line, split
at `|`; a later key overrides an earlier one. -/
def parseFields (line : String) : PyDict String String :=
  (pySplit '|' (pyStrip line)).foldl
    (fun fields segment =>
      match splitFirst '=' segment with
      | some (key, value) => fields.insert key value
      | none => fields)
    []

/-- `normalize_hex(value, width)`. -/
def normalizeHex (value : String) (width : Nat) : Except PyError String :=
  let value := pyLower (pyStrip value)
  let value : String := if pyStartsWith value "0x" then ⟨value.data.drop 2⟩ else value
  if value = "" then .ok ⟨List.replicate width '0'⟩
  else (pyIntOf value 16).map (pyFormatHex · width)

/-! ## Reading a string of hexadecimal digits -/

/-- The digits after the first, all of `base`: no underscore among them, and
their value folded in from `acc`. -/
theorem readDigitsFrom_of_digits {base : Nat} (acc : Nat) {cs : List Char}
    (digits : ∀ c ∈ cs, (digitIn base c).isSome) :
    readDigitsFrom base acc cs =
      some (cs.foldl (fun acc c => acc * base + (digitValue c).getD 0) acc) := by
  induction cs generalizing acc with
  | nil => rfl
  | cons c cs ih =>
    have digit := digits c (.head _)
    have notUnderscore : c ≠ '_' := by
      rintro rfl
      exact absurd digit (by simp [digitIn, show digitValue '_' = none from rfl])
    obtain ⟨d, hd⟩ := Option.isSome_iff_exists.mp digit
    have value : (digitValue c).getD 0 = d := by
      simp only [digitIn, Option.filter] at hd
      split at hd <;> simp_all
    rw [readDigitsFrom.eq_def]
    simp [notUnderscore, hd, ih _ (fun c' mem => digits c' (.tail _ mem)), value]

theorem readDigits_of_digits {base : Nat} {cs : List Char} (nonempty : cs ≠ [])
    (digits : ∀ c ∈ cs, (digitIn base c).isSome) :
    readDigits base cs = some (cs.foldl (fun acc c => acc * base + (digitValue c).getD 0) 0) := by
  obtain ⟨c, rest, rfl⟩ := List.exists_cons_of_ne_nil nonempty
  obtain ⟨d, hd⟩ := Option.isSome_iff_exists.mp (digits c (.head _))
  have value : (digitValue c).getD 0 = d := by
    simp only [digitIn, Option.filter] at hd
    split at hd <;> simp_all
  simp only [readDigits, hd, Option.some_bind,
    readDigitsFrom_of_digits d (fun c' mem => digits c' (.tail _ mem))]
  simp [value]

theorem readDigits_hex {cs : List Char} (nonempty : cs ≠ []) (hex : ∀ c ∈ cs, isHexDigit c) :
    readDigits 16 cs = some (hexValue cs) :=
  readDigits_of_digits nonempty hex

/-! ## Spellings of a number -/

/-- A field spelled the way the emulators write numbers: whitespace, an
optional `0x` or `0X`, hexadecimal digits in either case, whitespace. -/
structure HexSpelling where
  lead : List Char
  hexPrefix : List Char
  digits : List Char
  trail : List Char
  lead_space : ∀ c ∈ lead, pyIsSpace c
  prefix_form : hexPrefix = [] ∨ hexPrefix = ['0', 'x'] ∨ hexPrefix = ['0', 'X']
  digits_hex : ∀ c ∈ digits, isHexDigit c
  trail_space : ∀ c ∈ trail, pyIsSpace c

namespace HexSpelling

/-- The field as it stands in the line. -/
def text (s : HexSpelling) : String := ⟨s.lead ++ (s.hexPrefix ++ s.digits) ++ s.trail⟩

/-- The number the field spells; `0` when it has no digits. -/
def val (s : HexSpelling) : Nat := hexValue s.digits

/-- A bare string of hexadecimal digits. -/
def ofDigits (cs : List Char) (hex : ∀ c ∈ cs, isHexDigit c) : HexSpelling :=
  ⟨[], [], cs, [], by simp, .inl rfl, hex, by simp⟩

theorem text_ofDigits (cs : List Char) (hex : ∀ c ∈ cs, isHexDigit c) :
    (ofDigits cs hex).text = ⟨cs⟩ := by
  simp [ofDigits, text]

theorem digits_head_ne {s : HexSpelling} {c : Char} {rest : List Char} (digits : s.digits = c :: rest)
    {c' : Char} (other : ¬ isHexDigit c') : c ≠ c' :=
  isHexDigit_ne (s.digits_hex c (by simp [digits])) other

end HexSpelling

/-- A spelling whose surrounding whitespace is whitespace `int()` itself skips,
as in the lines the emulators write. `normalize_hex` strips a field before it
calls `int()`; `get_int` of the PPU parser does not, and `int()` refuses the
separators U+001C to U+001F that `strip()` removes. -/
structure IntSpelling extends HexSpelling where
  lead_skipped : ∀ c ∈ lead, pyIntSkips c
  trail_skipped : ∀ c ∈ trail, pyIntSkips c

/-- A bare string of hexadecimal digits. -/
def IntSpelling.ofDigits (cs : List Char) (hex : ∀ c ∈ cs, isHexDigit c) : IntSpelling :=
  ⟨.ofDigits cs hex, by simp [HexSpelling.ofDigits], by simp [HexSpelling.ofDigits]⟩

/-! ## `int(field, 16)` of a spelling -/

/-- `strip()` leaves a spelling's prefix and digits. -/
theorem pyStripChars_text (s : HexSpelling) : pyStripChars s.text.data = s.hexPrefix ++ s.digits := by
  have solid : ∀ c ∈ s.hexPrefix ++ s.digits, pyIsSpace c = false := by
    intro c mem
    rcases List.mem_append.mp mem with pre | digit
    · rcases s.prefix_form with h | h | h <;> rw [h] at pre <;> fin_cases pre <;> rfl
    · exact pyIsSpace_of_isHexDigit (s.digits_hex c digit)
  exact stripWith_of_core s.lead_space s.trail_space solid

/-- A spelling starts with `0` or a digit, never with a sign. -/
theorem splitSign_spelling (s : HexSpelling) :
    splitSign (s.hexPrefix ++ s.digits) = (false, s.hexPrefix ++ s.digits) := by
  rcases s.prefix_form with h | h | h <;> rw [h]
  · rcases digits : s.digits with _ | ⟨c, rest⟩
    · rfl
    · simp [splitSign, s.digits_head_ne digits (by decide : ¬ isHexDigit '-'),
        s.digits_head_ne digits (by decide : ¬ isHexDigit '+')]
  all_goals simp [splitSign]

/-- `int()` drops the prefix a spelling has, and finds none in its digits. -/
theorem dropBasePrefix_spelling (s : HexSpelling) :
    dropBasePrefix 16 (s.hexPrefix ++ s.digits) = s.digits := by
  have noUnderscore : dropUnderscore s.digits = s.digits := by
    rcases digits : s.digits with _ | ⟨c, rest⟩
    · rfl
    · simp [dropUnderscore, s.digits_head_ne digits (by decide : ¬ isHexDigit '_')]
  rcases s.prefix_form with h | h | h <;> rw [h]
  · rcases digits : s.digits with _ | ⟨c, _ | ⟨x, rest⟩⟩
    · rfl
    · rfl
    · have lowered : x.toLower ≠ 'x' := isHexDigit_ne
        (by rw [isHexDigit_toLower]; exact s.digits_hex x (by simp [digits])) (by decide)
      simp [dropBasePrefix, basePrefixLetter, Ne.symm lowered]
  all_goals simpa [dropBasePrefix, basePrefixLetter] using noUnderscore

/-- The prefix and digits of a spelling are ASCII and not whitespace. -/
theorem core_ascii (s : HexSpelling) :
    ∀ c ∈ s.hexPrefix ++ s.digits, c.toNat < 127 ∧ pyIsSpace c = false := by
  intro c mem
  rcases List.mem_append.mp mem with pre | digit
  · rcases s.prefix_form with h | h | h <;> rw [h] at pre <;> fin_cases pre <;> decide
  · have := toNat_of_isHexDigit (s.digits_hex c digit)
    exact ⟨by omega, pyIsSpace_of_isHexDigit (s.digits_hex c digit)⟩

/-- `int()` skips the blanks of a spelling and reads its prefix and digits. -/
theorem stripInt_text (s : IntSpelling) :
    stripWith pyIsAsciiSpace (asciiLiteral s.text.data) = s.hexPrefix ++ s.digits :=
  stripInt_of_core s.lead_skipped s.trail_skipped (fun c mem => (core_ascii _ c mem).1)
    fun c mem => pyIsAsciiSpace_of_pyIsSpace (core_ascii _ c mem).2

/-- `int(field, 16)` of a spelling with digits is the number it spells. -/
theorem pyIntOf_text (s : IntSpelling) (nonempty : s.digits ≠ []) :
    pyIntOf s.text 16 = .ok s.val := by
  simp only [pyIntOf, stripInt_text, splitSign_spelling, dropBasePrefix_spelling, land_pred_sixteen,
    ne_eq, not_true_eq_false, false_and, if_false, readDigits_hex nonempty s.digits_hex]
  rfl

/-- `int(cs, 16)` of a non-empty string of hexadecimal digits is the number
the digits denote. -/
theorem pyIntOf_hexDigits {cs : List Char} (nonempty : cs ≠ []) (hex : ∀ c ∈ cs, isHexDigit c) :
    pyIntOf ⟨cs⟩ 16 = .ok (hexValue cs) := by
  simpa [IntSpelling.ofDigits, HexSpelling.text_ofDigits] using
    pyIntOf_text (.ofDigits cs hex) nonempty

/-! ## `normalize_hex` of a spelling -/

/-- Stripped and lower-cased, a spelling is its lower-case digits behind the
lower-case prefix. -/
theorem lower_strip_text (s : HexSpelling) :
    pyLower (pyStrip s.text) = ⟨s.hexPrefix.map Char.toLower ++ s.digits.map Char.toLower⟩ := by
  simp only [pyLower, pyStrip, pyStripChars_text, List.map_append]

/-- `normalize_hex` drops the prefix of a spelling, whatever its case. -/
theorem unprefixed_text (s : HexSpelling) :
    (if pyStartsWith (pyLower (pyStrip s.text)) "0x" then
        (⟨(pyLower (pyStrip s.text)).data.drop 2⟩ : String)
      else pyLower (pyStrip s.text)) = ⟨s.digits.map Char.toLower⟩ := by
  have noX : ∀ c ∈ s.digits.map Char.toLower, c ≠ 'x' := by
    simp only [List.mem_map, forall_exists_index, and_imp, forall_apply_eq_imp_iff₂]
    exact fun c mem => isHexDigit_ne (by rw [isHexDigit_toLower]; exact s.digits_hex c mem)
      (by decide)
  have lowPrefix : s.hexPrefix.map Char.toLower = [] ∨
      s.hexPrefix.map Char.toLower = ['0', 'x'] := by
    rcases s.prefix_form with h | h | h <;> rw [h] <;> decide
  rw [lower_strip_text]
  rcases lowPrefix with h | h <;> rw [h]
  · rcases hd : s.digits.map Char.toLower with _ | ⟨c, _ | ⟨x, rest⟩⟩
    · rfl
    · simp [pyStartsWith, List.isPrefixOf]
    · simp [pyStartsWith, List.isPrefixOf, Ne.symm (noX x (by simp [hd]))]
  · simp [pyStartsWith, List.isPrefixOf]

/-- On a spelling with digits, `normalize_hex` writes the zero-padded upper-case
numeral of its value, at every width. -/
theorem normalizeHex_of_digits (s : HexSpelling) (nonempty : s.digits ≠ []) (width : Nat) :
    normalizeHex s.text width = .ok ⟨zeroPadded width (hexNumeral s.val)⟩ := by
  have lowered : s.digits.map Char.toLower ≠ [] := by simpa using nonempty
  have notBlank : (⟨s.digits.map Char.toLower⟩ : String) ≠ "" := by
    intro blank; exact lowered (congrArg String.data blank)
  have hex : ∀ c ∈ s.digits.map Char.toLower, isHexDigit c := by
    simpa [isHexDigit_toLower] using s.digits_hex
  simp only [normalizeHex, unprefixed_text, notBlank, if_false, pyIntOf_hexDigits lowered hex,
    hexValue_map_toLower, Except.map, pyFormatHex_natCast, HexSpelling.val]

/-- `normalize_hex` writes the zero-padded upper-case numeral of the value a
field spells, whatever the spelling. -/
theorem normalizeHex_text (s : HexSpelling) {width : Nat} (wide : 1 ≤ width) :
    normalizeHex s.text width = .ok ⟨zeroPadded width (hexNumeral s.val)⟩ := by
  by_cases empty : s.digits = []
  · have zero : s.val = 0 := by simp [HexSpelling.val, empty, hexValue]
    obtain ⟨w, rfl⟩ := Nat.exists_eq_add_of_le' wide
    simp only [normalizeHex, unprefixed_text, empty, List.map_nil]
    simp [zero, hexNumeral, zeroPadded, List.replicate_succ']
  · exact normalizeHex_of_digits s empty width

/-- Normalisation keys a field by its value alone: for every width `w ≥ 1`
(written `width + 1`), two spellings get one key exactly when they spell one
number, the key fills `w` characters exactly when the number fits in them, and
a key normalises to itself. -/
theorem normalizeHex_spelling (width : Nat) (s t : HexSpelling) :
    normalizeHex s.text (width + 1) = .ok ⟨zeroPadded (width + 1) (hexNumeral s.val)⟩ ∧
      (normalizeHex s.text (width + 1) = normalizeHex t.text (width + 1) ↔ s.val = t.val) ∧
      (∀ key, normalizeHex s.text (width + 1) = .ok key →
        (key.length = width + 1 ↔ s.val < 16 ^ (width + 1))) ∧
      (normalizeHex s.text (width + 1) >>= fun key => normalizeHex key (width + 1)) =
        normalizeHex s.text (width + 1) := by
  have wide : 1 ≤ width + 1 := by omega
  have keyS := normalizeHex_text s wide
  refine ⟨keyS, ?_, ?_, ?_⟩
  · rw [keyS, normalizeHex_text t wide]
    refine ⟨fun same => ?_, fun same => by rw [same]⟩
    have values := congrArg (fun key => hexValue key.data) (Except.ok.inj same)
    simpa [hexValue_zeroPadded] using values
  · intro key ok
    rw [keyS] at ok
    cases Except.ok.inj ok
    simp only [String.length, zeroPadded, List.length_append, List.length_replicate]
    have := hexNumeral_length_le_iff (n := s.val) wide
    omega
  · have again := normalizeHex_text (HexSpelling.ofDigits
      (zeroPadded (width + 1) (hexNumeral s.val)) fun _ mem => isHexDigit_of_mem_zeroPadded mem) wide
    have sameVal : (HexSpelling.ofDigits (zeroPadded (width + 1) (hexNumeral s.val))
        fun _ mem => isHexDigit_of_mem_zeroPadded mem).val = s.val :=
      hexValue_zeroPadded (width + 1) s.val
    rw [HexSpelling.text_ofDigits, sameVal] at again
    rw [keyS]
    simp only [Bind.bind, Except.bind]
    exact again

end NesiumTools.Trace
