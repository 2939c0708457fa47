import Pyvrs.Python.Sequence

/-!
# Python strings: `strip`, `split`, `int`, `str`, `rjust` and `center`

What `release_utils.py` does with the text of `version.txt`, following CPython 3.11:
`str.strip()` removes the characters `str.isspace` accepts from both ends, `str.strip(chars)`
those in `chars`, and `str.split(sep)` cuts at every `sep`. `int(x)` first maps every non-ASCII
whitespace character to a space and every decimal digit of another script to its ASCII digit,
then skips ASCII whitespace, reads an optional sign and a run of digits separated by single
underscores, and raises past `maxStrDigits` digits; `str(n)` of an `int` is its decimal form, and
raises past `maxStrDigits` digits too. The round trip the tool relies on is `int(str(n)) = n`
(`pyInt_toString`) for every integer `str` can print. `utils.py` pads the file tags table with
`str.rjust` and `str.center`, the latter with CPython's rule for which side takes the odd fill
character.
-/
namespace Pyvrs

/-- `c.isspace()`: the ASCII whitespace `\t \n \v \f \r`, the separators `\x1c`–`\x1f`, the
space, and the whitespace of Unicode above ASCII. -/
def pyIsSpace (c : Char) : Bool :=
  [0x09, 0x0A, 0x0B, 0x0C, 0x0D, 0x1C, 0x1D, 0x1E, 0x1F, 0x20, 0x85, 0xA0, 0x1680, 0x2000,
    0x2001, 0x2002, 0x2003, 0x2004, 0x2005, 0x2006, 0x2007, 0x2008, 0x2009, 0x200A, 0x2028,
    0x2029, 0x202F, 0x205F, 0x3000].contains c.toNat

/-- `s.strip()`. -/
def pyStrip (s : String) : String := ⟨(s.toList.dropWhile pyIsSpace).rdropWhile pyIsSpace⟩

/-- `s.strip(chars)`. -/
def pyStripChars (s : String) (chars : List Char) : String :=
  ⟨(s.toList.dropWhile fun c => decide (c ∈ chars)).rdropWhile fun c => decide (c ∈ chars)⟩

/-- `s.split(sep)` for a one-character `sep`: the pieces between separators, empty ones
included (`"".split(".") == [""]`). -/
def pySplit (s : String) (sep : Char) : List String := (s.toList.splitOn sep).map String.mk

/-- The value of an ASCII digit. -/
def digitValue (c : Char) : Nat := c.toNat - '0'.toNat

/-- The rest of a base-10 literal after its first digit, read onto `acc` as CPython's digit loop
reads it: a digit is taken, an `_` is skipped unless the previous character was one too
(`prevUnderscore`), anything else is invalid, and the literal may not end on an `_`. -/
def digitsLoop (acc : Nat) (prevUnderscore : Bool) : List Char → Option Nat
  | [] => if prevUnderscore then none else some acc
  | c :: rest =>
    if c.isDigit then digitsLoop (acc * 10 + digitValue c) false rest
    else if c = '_' ∧ prevUnderscore = false then digitsLoop acc true rest
    else none

/-- An unsigned base-10 literal: a digit, then `digitsLoop`. -/
def digitsValue : List Char → Option Nat
  | c :: rest => if c.isDigit then digitsLoop (digitValue c) false rest else none
  | [] => none

/-- `Py_ISSPACE`, the whitespace `int()` skips around its literal: `\t \n \v \f \r` and the
space. -/
def pyIsAsciiSpace (c : Char) : Bool := [0x09, 0x0A, 0x0B, 0x0C, 0x0D, 0x20].contains c.toNat

/-- The first code points of the runs of decimal digits in the Unicode 14.0 database of
CPython 3.11, the characters `Py_UNICODE_TODECIMAL` gives a value: each run holds the digits
`0` to `9` in order. -/
def decimalZeros : List Nat :=
  [0x30, 0x660, 0x6F0, 0x7C0, 0x966, 0x9E6, 0xA66, 0xAE6, 0xB66, 0xBE6, 0xC66, 0xCE6, 0xD66,
  0xDE6, 0xE50, 0xED0, 0xF20, 0x1040, 0x1090, 0x17E0, 0x1810, 0x1946, 0x19D0, 0x1A80, 0x1A90,
  0x1B50, 0x1BB0, 0x1C40, 0x1C50, 0xA620, 0xA8D0, 0xA900, 0xA9D0, 0xA9F0, 0xAA50, 0xABF0,
  0xFF10, 0x104A0, 0x10D30, 0x11066, 0x110F0, 0x11136, 0x111D0, 0x112F0, 0x11450, 0x114D0,
  0x11650, 0x116C0, 0x11730, 0x118E0, 0x11950, 0x11C50, 0x11D50, 0x11DA0, 0x16A60, 0x16AC0,
  0x16B50, 0x1D7CE, 0x1D7D8, 0x1D7E2, 0x1D7EC, 0x1D7F6, 0x1E140, 0x1E2F0, 0x1E950, 0x1FBF0]

/-- `Py_UNICODE_TODECIMAL(c)`: the value of a decimal digit of any script. -/
def unicodeDecimal (c : Char) : Option Nat :=
  (decimalZeros.find? fun z => z ≤ c.toNat && c.toNat < z + 10).map (c.toNat - ·)

/-- One character of `_PyUnicode_TransformDecimalAndSpaceToASCII`, which `int()` runs first: a
character below 127 stays, other whitespace becomes a space, a digit of another script its ASCII
digit, and anything else `?`, where CPython also ends the string; either way the literal is then
invalid. -/
def transformDecimalAndSpace (c : Char) : Char :=
  if c.toNat < 127 then c
  else if pyIsSpace c then ' '
  else match unicodeDecimal c with
    | some d => Nat.digitChar d
    | none => '?'

/-- CPython's default `sys.get_int_max_str_digits()`: the most digits `int()` reads and `str()`
writes. -/
def maxStrDigits : Nat := 4300

/-- The `ValueError` of an invalid literal. CPython's message also quotes the argument. -/
def invalidLiteral : PyError := .valueError "invalid literal for int() with base 10"

/-- The characters the digit loop of `long_from_string_base` scans. -/
def isDigitOrUnderscore (c : Char) : Bool := c.isDigit || c == '_'

/-- A literal after its sign, as `long_from_string_base` reads it: the longest run of digits and
underscores, a valid literal for `digitsValue`, of at most `maxStrDigits` digits, then nothing but
whitespace. The digit limit is checked before what follows the run. -/
def literalValue (cs : List Char) : Except PyError Nat :=
  match digitsValue (cs.takeWhile isDigitOrUnderscore) with
  | none => .error invalidLiteral
  | some n =>
    let digits := ((cs.takeWhile isDigitOrUnderscore).filter Char.isDigit).length
    if maxStrDigits < digits then
      .error (.valueError ("Exceeds the limit (4300 digits) for integer string conversion: " ++
        "value has " ++ toString digits ++ " digits; use sys.set_int_max_str_digits() to " ++
        "increase the limit"))
    else if (cs.dropWhile isDigitOrUnderscore).all pyIsAsciiSpace then .ok n
    else .error invalidLiteral

/-- A literal after the leading whitespace: an optional sign, then `literalValue`. -/
def intOfChars : List Char → Except PyError Int
  | c :: ds =>
    if c = '-' then (fun n : Nat => -(n : Int)) <$> literalValue ds
    else if c = '+' then (fun n : Nat => (n : Int)) <$> literalValue ds
    else (fun n : Nat => (n : Int)) <$> literalValue (c :: ds)
  | [] => .error invalidLiteral

/-- `int(x)` for a string `x`, base 10, as `PyLong_FromUnicodeObject` computes it: every character
transformed to ASCII, the leading whitespace skipped, then the literal. -/
def pyInt (x : String) : Except PyError Int :=
  intOfChars ((x.toList.map transformDecimalAndSpace).dropWhile pyIsAsciiSpace)

/-- The `ValueError` of `str()` past `maxStrDigits` digits. -/
def strDigitsError : PyError :=
  .valueError ("Exceeds the limit (4300 digits) for integer string conversion; " ++
    "use sys.set_int_max_str_digits() to increase the limit")

/-- `str(x)` of an `int`: its decimal form, or `strDigitsError` when `|x|` has more than
`maxStrDigits` digits. -/
def pyStr (x : Int) : Except PyError String :=
  if maxStrDigits < (Nat.toDigits 10 x.natAbs).length then .error strDigitsError
  else .ok (toString x)

/-! ## Decimal digits -/

/-- The ASCII digits, the characters of `str(n)` for `n ≥ 0`. -/
def decimalDigits : List Char := ['0', '1', '2', '3', '4', '5', '6', '7', '8', '9']

theorem digitChar_spec : ∀ d < 10, Nat.digitChar d ∈ decimalDigits ∧
    digitValue (Nat.digitChar d) = d := by
  decide

theorem isDigit_of_mem_decimalDigits : ∀ c ∈ decimalDigits, c.isDigit ∧ c ≠ '-' ∧ c ≠ '+' := by
  decide

theorem toDigitsCore_append (b f n : Nat) (ds : List Char) :
    Nat.toDigitsCore b f n ds = Nat.toDigitsCore b f n [] ++ ds := by
  induction f generalizing n ds with
  | zero => rfl
  | succ f ih =>
    simp only [Nat.toDigitsCore]
    split
    · rfl
    · rw [ih _ (_ :: ds), ih _ [_], List.append_assoc, List.singleton_append]

/-- The digits of `n` in base 10 are ASCII digits, and read left to right they give `n`. -/
theorem foldl_toDigitsCore {f n : Nat} (h : n < f) :
    (Nat.toDigitsCore 10 f n []).foldl (fun acc c => acc * 10 + digitValue c) 0 = n ∧
      ∀ c ∈ Nat.toDigitsCore 10 f n [], c ∈ decimalDigits := by
  induction f generalizing n with
  | zero => omega
  | succ f ih =>
    obtain ⟨hmem, hval⟩ := digitChar_spec (n % 10) (Nat.mod_lt _ (by norm_num))
    simp only [Nat.toDigitsCore]
    split
    · refine ⟨?_, by simpa using hmem⟩
      simp only [List.foldl_cons, List.foldl_nil, zero_mul, zero_add, hval]
      omega
    · obtain ⟨hval', hdig⟩ := ih (n := n / 10) (by omega)
      rw [toDigitsCore_append, List.foldl_append, hval']
      refine ⟨by simp only [List.foldl_cons, List.foldl_nil, hval]; omega, fun c hc => ?_⟩
      rcases List.mem_append.mp hc with hc | hc
      · exact hdig c hc
      · rw [List.mem_singleton.mp hc]
        exact hmem

theorem digitsLoop_of_isDigit {ds : List Char} (h : ∀ c ∈ ds, c.isDigit) (acc : Nat) :
    digitsLoop acc false ds = some (ds.foldl (fun acc c => acc * 10 + digitValue c) acc) := by
  induction ds generalizing acc with
  | nil => rfl
  | cons c rest ih =>
    simp only [digitsLoop, if_pos (h c (List.mem_cons_self _ _)),
      ih (fun d hd => h d (List.mem_cons_of_mem _ hd)), List.foldl_cons]

/-- `str(n)` for `n ≥ 0`: ASCII digits, read back as `n`. -/
theorem digitsValue_toDigits (n : Nat) :
    digitsValue (Nat.toDigits 10 n) = some n ∧ ∀ c ∈ Nat.toDigits 10 n, c ∈ decimalDigits := by
  obtain ⟨hval, hdig⟩ := foldl_toDigitsCore (Nat.lt_succ_self n)
  refine ⟨?_, hdig⟩
  show digitsValue (Nat.toDigitsCore 10 (n + 1) n []) = some n
  cases h : Nat.toDigitsCore 10 (n + 1) n [] with
  | nil =>
    refine absurd h ?_
    simp only [Nat.toDigitsCore]
    split
    · simp
    · rw [toDigitsCore_append]; simp
  | cons c rest =>
    rw [h] at hval hdig
    have hisDigit : ∀ d ∈ c :: rest, d.isDigit := fun d hd =>
      (isDigit_of_mem_decimalDigits d (hdig d hd)).1
    rw [digitsValue, if_pos (hisDigit c (List.mem_cons_self _ _)),
      digitsLoop_of_isDigit (fun d hd => hisDigit d (List.mem_cons_of_mem _ hd))]
    simpa using hval

/-- A run of `str(n)`'s digits within the limit reads back as `n`. -/
theorem literalValue_toDigits {m : Nat} (h : (Nat.toDigits 10 m).length ≤ maxStrDigits) :
    literalValue (Nat.toDigits 10 m) = .ok m := by
  obtain ⟨hval, hdig⟩ := digitsValue_toDigits m
  have hds : ∀ c ∈ Nat.toDigits 10 m, c.isDigit := fun c hc =>
    (isDigit_of_mem_decimalDigits c (hdig c hc)).1
  have hrun : ∀ c ∈ Nat.toDigits 10 m, isDigitOrUnderscore c := fun c hc => by
    simp [isDigitOrUnderscore, hds c hc]
  rw [literalValue, List.takeWhile_eq_self_iff.mpr hrun, hval]
  simp only [List.filter_eq_self.mpr hds, if_neg (not_lt.mpr h),
    List.dropWhile_eq_nil_iff.mpr hrun, List.all_nil, if_true]

/-- `int()` reads `str(n)` back as `n`, before any transformation, for every `n` that `str` can
print. -/
theorem intOfChars_toString {n : Int} (h : (Nat.toDigits 10 n.natAbs).length ≤ maxStrDigits) :
    intOfChars (toString n).toList = .ok n := by
  cases n with
  | ofNat m =>
    show intOfChars (Nat.toDigits 10 m) = .ok (m : Int)
    obtain ⟨hval, hdig⟩ := digitsValue_toDigits m
    cases hc : Nat.toDigits 10 m with
    | nil => simp [hc, digitsValue] at hval
    | cons c rest =>
      obtain ⟨-, hminus, hplus⟩ :=
        isDigit_of_mem_decimalDigits c (hdig c (hc ▸ List.mem_cons_self _ _))
      rw [intOfChars, if_neg hminus, if_neg hplus, ← hc, literalValue_toDigits (m := m) h]
      rfl
  | negSucc m =>
    show intOfChars ('-' :: Nat.toDigits 10 (m + 1)) = .ok (Int.negSucc m)
    rw [intOfChars, if_pos rfl, literalValue_toDigits (m := m + 1) h]
    rfl

/-- Every character of `str(n)` is a digit or the minus sign. -/
theorem mem_toString {n : Int} {c : Char} (hc : c ∈ (toString n).toList) :
    c ∈ '-' :: decimalDigits := by
  cases n with
  | ofNat m => exact List.mem_cons_of_mem _ ((digitsValue_toDigits m).2 c hc)
  | negSucc m =>
    rcases List.mem_cons.mp (show c ∈ '-' :: Nat.toDigits 10 (m + 1) from hc) with rfl | hc
    · exact List.mem_cons_self _ _
    · exact List.mem_cons_of_mem _ ((digitsValue_toDigits (m + 1)).2 c hc)

theorem dropWhile_of_forall {p : Char → Bool} {l : List Char} (h : ∀ c ∈ l, p c = false) :
    l.dropWhile p = l := by
  cases l with
  | nil => rfl
  | cons c rest => simp [List.dropWhile, h c (List.mem_cons_self _ _)]

theorem rdropWhile_of_forall {p : Char → Bool} {l : List Char} (h : ∀ c ∈ l, p c = false) :
    l.rdropWhile p = l := by
  rw [List.rdropWhile, dropWhile_of_forall (fun c hc => h c (List.mem_reverse.mp hc)),
    List.reverse_reverse]

/-- `strip()` leaves a string without whitespace as it is. -/
theorem pyStrip_of_forall {s : String} (h : ∀ c ∈ s.toList, pyIsSpace c = false) :
    pyStrip s = s := by
  rw [pyStrip, dropWhile_of_forall h, rdropWhile_of_forall h]
  rfl

/-- `strip(chars)` leaves a string without any of `chars` as it is. -/
theorem pyStripChars_of_forall {s : String} {chars : List Char} (h : ∀ c ∈ s.toList, c ∉ chars) :
    pyStripChars s chars = s := by
  have h' : ∀ c ∈ s.toList, decide (c ∈ chars) = false := fun c hc => by simpa using h c hc
  rw [pyStripChars, dropWhile_of_forall h', rdropWhile_of_forall h']
  rfl

/-- `int(str(n)) == n` for every `n` that `str` can print. -/
theorem pyInt_toString {n : Int} (h : (Nat.toDigits 10 n.natAbs).length ≤ maxStrDigits) :
    pyInt (toString n) = .ok n := by
  have hchars : ∀ c ∈ '-' :: decimalDigits,
      transformDecimalAndSpace c = c ∧ pyIsAsciiSpace c = false := by
    decide
  rw [pyInt, List.map_congr_left (g := id) fun c hc => (hchars c (mem_toString hc)).1,
    List.map_id, dropWhile_of_forall fun c hc => (hchars c (mem_toString hc)).2,
    intOfChars_toString h]

/-- `str(x)` prints exactly the integers within the limit. -/
theorem pyStr_eq (x : Int) :
    pyStr x = if (Nat.toDigits 10 x.natAbs).length ≤ maxStrDigits then .ok (toString x)
      else .error strDigitsError := by
  unfold pyStr
  by_cases h : (Nat.toDigits 10 x.natAbs).length ≤ maxStrDigits
  · rw [if_neg (not_lt.mpr h), if_pos h]
  · rw [if_pos (not_le.mp h), if_neg h]

/-! ## Padding -/

/-- `s.rjust(width)`: `s` after `width - len(s)` spaces. -/
def pyRjust (s : String) (width : Nat) : String :=
  ⟨List.replicate (width - s.length) ' ' ++ s.toList⟩

/-- `s.center(width, fillchar)` as CPython pads it: `s` itself when it is at least `width` long,
else `marg = width - len(s)` fill characters, `marg // 2 + (marg & width & 1)` of them on the
left. -/
def pyCenter (s : String) (width : Nat) (fillchar : Char) : String :=
  if width ≤ s.length then s
  else
    let marg := width - s.length
    let left := marg / 2 + (marg &&& width &&& 1)
    ⟨List.replicate left fillchar ++ s.toList ++ List.replicate (marg - left) fillchar⟩

@[simp] theorem toList_pyRjust (s : String) (width : Nat) :
    (pyRjust s width).toList = List.replicate (width - s.length) ' ' ++ s.toList := rfl

/-- `center` pads to exactly `width` characters, or leaves a longer string as it is. -/
theorem length_pyCenter (s : String) (width : Nat) (fillchar : Char) :
    (pyCenter s width fillchar).length = max width s.length := by
  unfold pyCenter
  split
  · omega
  · have hbit : (width - s.length) &&& width &&& 1 ≤ 1 := by
      rw [Nat.and_one_is_mod]; omega
    simp only [String.length, String.toList, List.length_append, List.length_replicate] at *
    omega

/-- `center` pads on both sides: `l` fill characters, `s`, then `r` of them, `max width len(s)`
characters in all; for `s` of odd length `width` and the margin differ in parity, so the odd fill
character goes to the right. -/
theorem pyCenter_shape (s : String) (width : Nat) (fillchar : Char) (hodd : s.length % 2 = 1) :
    ∃ l r, (pyCenter s width fillchar).toList =
      List.replicate l fillchar ++ s.toList ++ List.replicate r fillchar ∧
      l + s.length + r = max width s.length ∧ l ≤ r ∧ r ≤ l + 1 := by
  unfold pyCenter
  split
  · exact ⟨0, 0, by simp, by omega, le_rfl, Nat.le_succ 0⟩
  · have hbit : (width - s.length) &&& width &&& 1 = 0 := by
      have : ¬((width - s.length) &&& width) % 2 = 1 := by
        rw [Nat.and_mod_two_eq_one]
        omega
      rw [Nat.and_one_is_mod]
      omega
    refine ⟨_, _, rfl, ?_⟩
    simp only [hbit, Nat.add_zero]
    omega

end Pyvrs
