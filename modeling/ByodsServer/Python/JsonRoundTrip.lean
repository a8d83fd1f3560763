/-
# What is printed as JSON is loaded again

The scanner reads every printed value back, whatever comes after it, at every
indentation. What is printed without indentation is one line of printable ASCII.
-/

import ByodsServer.Python.JsonText
import Mathlib.Data.List.Nodup
import Mathlib.Data.List.TakeWhile
import Mathlib.Tactic.Common

namespace Python

namespace Json

-- There is also an instance that goes through every character there is.
local instance (priority := 2000) decidableForallMem (p : Char → Prop) [DecidablePred p]
    (text : List Char) : Decidable (∀ c ∈ text, p c) := List.decidableBAll p text

/-! ## Strings -/

theorem hexValue_hexDigit : ∀ digit < 16, hexValue (hexDigit digit) = some digit := by
  decide

/-- Four digits are read as the code unit they were made of. -/
theorem scanUnit_unicodeEscape {unit : ℕ} (h : unit < 0x10000) (rest : List Char) :
    scanUnit ((unicodeEscape unit).drop 2 ++ rest) = .ok (unit, rest) := by
  have hdigit (digit : ℕ) : hexValue (hexDigit (digit % 16)) = some (digit % 16) :=
    hexValue_hexDigit _ (Nat.mod_lt _ (by decide))
  simp only [unicodeEscape, List.drop_succ_cons, List.drop_zero, List.cons_append, List.nil_append,
    scanUnit, hdigit]
  congr 2
  omega

theorem unicodeEscape_eq (unit : ℕ) :
    unicodeEscape unit = '\\' :: 'u' :: (unicodeEscape unit).drop 2 := rfl

/-- A code point is no half of a surrogate pair. -/
theorem toNat_not_surrogate (c : Char) : c.toNat < 0xd800 ∨ 0xdfff < c.toNat := by
  have hvalid : c.toNat.isValidChar := c.valid
  rcases hvalid with h | ⟨h, -⟩
  · exact Or.inl h
  · exact Or.inr h

theorem toNat_lt (c : Char) : c.toNat < 0x110000 := by
  have hvalid : c.toNat.isValidChar := c.valid
  rcases hvalid with h | ⟨-, h⟩
  · omega
  · exact h

/-- A code point that needs no escape. -/
theorem scanChar_plain {c : Char} (hquote : c ≠ '"') (hslash : c ≠ '\\') (hplain : 0x20 ≤ c.toNat)
    (rest : List Char) : scanChar (c :: rest) = .ok (some c, rest) := by
  rw [scanChar.eq_def]
  split
  all_goals simp_all

theorem scanChar_unicode (text : List Char) :
    scanChar ('\\' :: 'u' :: text) = (do
      let (c, text) ← scanUnicode text
      return (some c, text)) := by
  rw [scanChar]

/-- A code unit that is a code point. -/
theorem scanUnicode_unit {unit : ℕ} (h : unit < 0x10000) (hunit : unit < 0xd800 ∨ 0xdfff < unit)
    (rest : List Char) :
    scanUnicode ((unicodeEscape unit).drop 2 ++ rest) = .ok (Char.ofNat unit, rest) := by
  rw [scanUnicode, scanUnit_unicodeEscape h]
  simp only [bind, Except.bind, pure, Except.pure]
  rw [if_pos hunit]

theorem scanChar_unit {unit : ℕ} (h : unit < 0x10000) (hunit : unit < 0xd800 ∨ 0xdfff < unit)
    (rest : List Char) :
    scanChar (unicodeEscape unit ++ rest) = .ok (some (Char.ofNat unit), rest) := by
  rw [unicodeEscape_eq, List.cons_append, List.cons_append, scanChar_unicode,
    scanUnicode_unit h hunit]
  rfl

/-- Two code units that belong together. -/
theorem scanUnicode_pair {first second : ℕ} (hfirst : 0xd800 ≤ first ∧ first < 0xdc00)
    (hsecond : 0xdc00 ≤ second ∧ second ≤ 0xdfff) (rest : List Char) :
    scanUnicode ((unicodeEscape first).drop 2 ++ (unicodeEscape second ++ rest)) =
      .ok (Char.ofNat (0x10000 + (first - 0xd800) * 1024 + (second - 0xdc00)), rest) := by
  have hunit : ¬ (first < 0xd800 ∨ 0xdfff < first) := by omega
  rw [scanUnicode, scanUnit_unicodeEscape (by omega)]
  simp only [bind, Except.bind, pure, Except.pure]
  rw [if_neg hunit, unicodeEscape_eq, List.cons_append, List.cons_append]
  simp only [scanUnit_unicodeEscape (show second < 0x10000 by omega)]
  rw [if_pos ⟨hfirst.2, hsecond⟩]

/-- A code point in two halves. -/
theorem scanChar_pair {code : ℕ} (h : 0x10000 ≤ code) (hcode : code < 0x110000)
    (rest : List Char) :
    scanChar (unicodeEscape (0xd800 + (code - 0x10000) / 1024) ++
      unicodeEscape (0xdc00 + (code - 0x10000) % 1024) ++ rest) =
        .ok (some (Char.ofNat code), rest) := by
  rw [unicodeEscape_eq (0xd800 + _), List.append_assoc, List.cons_append, List.cons_append,
    scanChar_unicode, scanUnicode_pair (by omega) (by omega)]
  have hsum : 0x10000 + (0xd800 + (code - 0x10000) / 1024 - 0xd800) * 1024 +
      (0xdc00 + (code - 0x10000) % 1024 - 0xdc00) = code := by omega
  rw [hsum]
  rfl

/-- Whatever a code point is printed as, it is read again. -/
theorem scanChar_escapeChar (c : Char) (rest : List Char) :
    scanChar (escapeChar c ++ rest) = .ok (some c, rest) := by
  rw [escapeChar]
  split_ifs with hquote hslash hline hreturn htab hfeed hback hplain hunit
  · rw [hquote]
    rfl
  · rw [hslash]
    rfl
  · rw [hline]
    rfl
  · rw [hreturn]
    rfl
  · rw [htab]
    rfl
  · rw [hfeed]
    rfl
  · rw [hback]
    rfl
  · exact scanChar_plain hquote hslash hplain.1 rest
  · rw [scanChar_unit hunit (toNat_not_surrogate c), Char.ofNat_toNat]
  · rw [scanChar_pair (not_lt.mp hunit) (toNat_lt c), Char.ofNat_toNat]

/-- A printed text is read up to its closing quote. -/
theorem scanString_escaped (chars rest : List Char) {fuel : ℕ} (h : chars.length < fuel) :
    scanString fuel (chars.flatMap escapeChar ++ '"' :: rest) = .ok (chars, rest) := by
  induction chars generalizing fuel with
  | nil =>
      obtain ⟨fuel, rfl⟩ := Nat.exists_eq_add_one.mpr h
      rfl
  | cons c chars ih =>
      obtain ⟨fuel, rfl⟩ := Nat.exists_eq_add_one.mpr (Nat.zero_lt_of_lt h)
      rw [List.flatMap_cons, List.append_assoc, scanString, scanChar_escapeChar]
      simp only [bind, Except.bind]
      rw [ih (by simpa using h)]
      rfl

theorem length_le_flatMap_escapeChar (chars : List Char) :
    chars.length ≤ (chars.flatMap escapeChar).length := by
  induction chars with
  | nil => rfl
  | cons c chars ih =>
      have hc : 1 ≤ (escapeChar c).length := by
        rw [escapeChar]
        split_ifs <;> simp [unicodeEscape]
      rw [List.flatMap_cons, List.length_append, List.length_cons]
      omega

/-- After its opening quote, a printed text is read to its end. -/
theorem scanString_quoted (text : String) (rest : List Char) :
    scanString (((quoted text).tail ++ rest).length + 1) ((quoted text).tail ++ rest) =
      .ok (text.toList, rest) := by
  rw [quoted, List.tail_cons, List.append_assoc, List.singleton_append]
  apply scanString_escaped
  have hlength := length_le_flatMap_escapeChar text.toList
  rw [List.length_append]
  omega

/-! ## Numbers -/

/-- A number ends before the text. -/
def EndsNumber (text : List Char) : Prop :=
  ∀ c ∈ text.head?, c.isDigit = false ∧ c ≠ '.' ∧ c ≠ 'e' ∧ c ≠ 'E'

theorem endsNumber_nil : EndsNumber [] := by
  intro c hc
  cases hc

theorem endsNumber_cons {c : Char} {text : List Char}
    (h : c.isDigit = false ∧ c ≠ '.' ∧ c ≠ 'e' ∧ c ≠ 'E') : EndsNumber (c :: text) := by
  rintro _ ⟨⟩
  exact h

/-- A run of digits is read up to something else. -/
theorem scanDigits_append {digits rest : List Char} (hdigits : ∀ c ∈ digits, c.isDigit = true)
    (hrest : ∀ c ∈ rest.head?, c.isDigit = false) :
    scanDigits (digits ++ rest) = (digits, rest) := by
  have htake : rest.takeWhile Char.isDigit = [] ∧ rest.dropWhile Char.isDigit = rest := by
    cases rest with
    | nil => exact ⟨rfl, rfl⟩
    | cons c rest =>
        have hc := hrest c rfl
        exact ⟨List.takeWhile_cons_of_neg (by simp [hc]), List.dropWhile_cons_of_neg (by simp [hc])⟩
  rw [scanDigits, List.takeWhile_append_of_pos hdigits, List.dropWhile_append_of_pos hdigits,
    htake.1, htake.2, List.append_nil]

/-- The decimal digits of a number begin with no zero, unless they are one. -/
theorem exists_toDigits_cons {n : ℕ} (h : 0 < n) :
    ∃ c digits, Nat.toDigits 10 n = c :: digits ∧ c ≠ '0' := by
  induction n using Nat.strongRecOn with
  | ind n ih =>
      by_cases hsmall : n < 10
      · refine ⟨n.digitChar, [], Nat.toDigits_of_lt_base hsmall, ?_⟩
        have hall : ∀ digit < 10, 0 < digit → digit.digitChar ≠ '0' := by decide
        exact hall n hsmall h
      · obtain ⟨c, digits, hdigits, hc⟩ := ih (n / 10) (by omega) (by omega)
        refine ⟨c, digits ++ [(n % 10).digitChar], ?_, hc⟩
        rw [Nat.toDigits_of_base_le (by decide) (by omega), hdigits, List.cons_append]

theorem scanWhole_toDigits (n : ℕ) {rest : List Char}
    (hrest : ∀ c ∈ rest.head?, c.isDigit = false) :
    scanWhole (Nat.toDigits 10 n ++ rest) = some (Nat.toDigits 10 n, rest) := by
  rcases Nat.eq_zero_or_pos n with rfl | hpos
  · rfl
  · obtain ⟨c, digits, hdigits, hc⟩ := exists_toDigits_cons hpos
    have hall : ∀ other ∈ c :: digits, other.isDigit = true := by
      intro other hother
      rw [← hdigits] at hother
      exact Nat.isDigit_of_mem_toDigits (by decide) (by decide) hother
    rw [List.forall_mem_cons] at hall
    rw [hdigits, List.cons_append, scanWhole, if_neg hc, if_pos hall.1,
      scanDigits_append hall.2 hrest]

/-- What comes after a number is no fraction and no exponent. -/
theorem scanFraction_of_endsNumber {text : List Char} (h : EndsNumber text) :
    scanFraction text = ([], text) := by
  cases text with
  | nil => rfl
  | cons c text =>
      have hc := (h c rfl).2.1
      rw [scanFraction.eq_def]
      split
      · next heq => exact (hc (List.cons.inj heq).1).elim
      · rfl

theorem scanExponent_of_endsNumber {text : List Char} (h : EndsNumber text) :
    scanExponent text = ([], text) := by
  cases text with
  | nil => rfl
  | cons c text =>
      have hc := (h c rfl).2.2
      rw [scanExponent, if_neg (by simp [hc])]

/-- The digits of an integer are not too many for `int`. -/
def PrintableInt (value : ℤ) : Prop := (Nat.toDigits 10 value.natAbs).length ≤ intMaxStrDigits

theorem scanUnsigned_toDigits (floatRepr : FloatRepr) (sign : List Char) {n : ℕ}
    (hn : (Nat.toDigits 10 n).length ≤ intMaxStrDigits) {rest : List Char}
    (hrest : EndsNumber rest) :
    scanUnsigned floatRepr sign (Nat.toDigits 10 n ++ rest) =
      some (.ok (int (if sign = [] then n else -n), rest)) := by
  have hdigit : ∀ c ∈ rest.head?, c.isDigit = false := fun c hc => (hrest c hc).1
  rw [scanUnsigned, scanWhole_toDigits n hdigit]
  simp only [Option.bind_eq_bind, Option.bind_some, scanFraction_of_endsNumber hrest,
    scanExponent_of_endsNumber hrest, and_self, if_true, if_neg (not_lt.mpr hn),
    Nat.ofDigitChars_ten_toDigits]
  rfl

theorem scanNumber_of_unsigned {floatRepr : FloatRepr} {text : List Char}
    {scanned : Except ScanError (Json × List Char)} (hsign : text.head? ≠ some '-')
    (h : scanUnsigned floatRepr [] text = some scanned) : scanNumber floatRepr text = scanned := by
  have hnumber : scanSigned floatRepr text = some scanned := by
    rw [scanSigned.eq_def]
    split
    · exact (hsign rfl).elim
    · exact h
  unfold scanNumber
  rw [hnumber]

theorem scanNumber_of_signed {floatRepr : FloatRepr} {rest : List Char}
    {scanned : Except ScanError (Json × List Char)}
    (h : scanUnsigned floatRepr ['-'] rest = some scanned) :
    scanNumber floatRepr ('-' :: rest) = scanned := by
  unfold scanNumber
  rw [scanSigned, h]

/-- Printed digits begin with a digit. -/
theorem exists_toDigits_digit (n : ℕ) :
    ∃ c digits, Nat.toDigits 10 n = c :: digits ∧ c.isDigit = true := by
  cases hdigits : Nat.toDigits 10 n with
  | nil => exact (Nat.toDigits_ne_nil hdigits).elim
  | cons c digits =>
      have hmem : c ∈ Nat.toDigits 10 n := hdigits ▸ List.mem_cons_self
      exact ⟨c, digits, rfl, Nat.isDigit_of_mem_toDigits (by decide) (by decide) hmem⟩

theorem ne_of_isDigit {c other : Char} (hc : c.isDigit = true) (hother : other.isDigit = false) :
    c ≠ other := by
  rintro rfl
  exact Bool.false_ne_true (hother.symm.trans hc)

/-- A printed integer. -/
theorem toList_toString_int (value : ℤ) :
    (toString value).toList =
      (if 0 ≤ value then [] else ['-']) ++ Nat.toDigits 10 value.natAbs := by
  rw [Int.toString_eq_repr, Int.repr_eq_if]
  split_ifs with hsign
  · rw [Nat.toList_repr, List.nil_append]
    congr 1
    omega
  · rw [String.toList_append, Nat.toList_repr]
    congr 2
    omega

/-- A printed integer is read up to something that ends it. -/
theorem scanNumber_int (floatRepr : FloatRepr) {value : ℤ} (hvalue : PrintableInt value)
    {rest : List Char} (hrest : EndsNumber rest) :
    scanNumber floatRepr ((toString value).toList ++ rest) = .ok (int value, rest) := by
  rw [toList_toString_int]
  split_ifs with hsign
  · obtain ⟨c, digits, hdigits, hc⟩ := exists_toDigits_digit value.natAbs
    have hhead : (Nat.toDigits 10 value.natAbs ++ rest).head? ≠ some '-' := by
      rw [hdigits, List.cons_append, List.head?_cons]
      exact fun h => ne_of_isDigit hc (by decide) (Option.some.inj h)
    have hvalue' :
        (if ([] : List Char) = [] then (value.natAbs : ℤ) else -value.natAbs) = value := by
      rw [if_pos rfl, Int.natAbs_of_nonneg hsign]
    rw [List.nil_append, scanNumber_of_unsigned hhead (scanUnsigned_toDigits _ _ hvalue hrest),
      hvalue']
  · have hvalue' : (if ['-'] = [] then (value.natAbs : ℤ) else -value.natAbs) = value := by
      rw [if_neg (List.cons_ne_nil _ _)]
      omega
    rw [List.singleton_append, List.cons_append,
      scanNumber_of_signed (scanUnsigned_toDigits _ _ hvalue hrest), hvalue']

/-! ## Floats -/

/-- A point and digits, or nothing. -/
def IsFraction (text : List Char) : Prop :=
  text = [] ∨ ∃ digits, digits ≠ [] ∧ (∀ c ∈ digits, c.isDigit = true) ∧ text = '.' :: digits

/-- An `e`, perhaps a sign, and digits, or nothing. -/
def IsExponent (text : List Char) : Prop :=
  text = [] ∨ ∃ sign digits, sign ∈ [[], ['+'], ['-']] ∧ digits ≠ [] ∧
    (∀ c ∈ digits, c.isDigit = true) ∧ text = 'e' :: (sign ++ digits)

theorem scanFraction_append {fraction rest : List Char} (h : IsFraction fraction)
    (hrest : ∀ c ∈ rest.head?, c.isDigit = false ∧ c ≠ '.') :
    scanFraction (fraction ++ rest) = (fraction, rest) := by
  rcases h with rfl | ⟨digits, hne, hdigits, rfl⟩
  · rw [List.nil_append, scanFraction.eq_def]
    split
    · next text => exact ((hrest '.' rfl).2 rfl).elim
    · rfl
  · rw [List.cons_append, scanFraction,
      scanDigits_append hdigits fun c hc => (hrest c hc).1]
    cases digits with
    | nil => exact (hne rfl).elim
    | cons c digits => rfl

theorem scanSign_append {sign digits rest : List Char} (hsign : sign ∈ [[], ['+'], ['-']])
    (hne : digits ≠ []) (hdigits : ∀ c ∈ digits, c.isDigit = true) :
    scanSign (sign ++ digits ++ rest) = (sign, digits ++ rest) := by
  cases digits with
  | nil => exact (hne rfl).elim
  | cons c digits =>
      have hc := hdigits c List.mem_cons_self
      simp only [List.mem_cons, List.not_mem_nil, or_false] at hsign
      rcases hsign with rfl | rfl | rfl
      · rw [List.nil_append, List.cons_append, scanSign.eq_def]
        split
        · next heq => exact (ne_of_isDigit hc (by decide) (List.cons.inj heq).1).elim
        · next heq => exact (ne_of_isDigit hc (by decide) (List.cons.inj heq).1).elim
        · rfl
      · rfl
      · rfl

theorem scanExponent_append {exponent rest : List Char} (h : IsExponent exponent)
    (hrest : EndsNumber rest) : scanExponent (exponent ++ rest) = (exponent, rest) := by
  rcases h with rfl | ⟨sign, digits, hsign, hne, hdigits, rfl⟩
  · exact scanExponent_of_endsNumber hrest
  · rw [List.cons_append, scanExponent, if_pos (Or.inl rfl), scanSign_append hsign hne hdigits,
      scanDigits_append hdigits fun c hc => (hrest c hc).1]
    cases digits with
    | nil => exact (hne rfl).elim
    | cons c digits => rfl

/-- The text that `repr` gives to a float: one of the three names, or digits with a fraction
or an exponent, which is how the runtime spells that float. -/
inductive FloatText (floatRepr : FloatRepr) : List Char → Prop
  | nan : FloatText floatRepr "nan".toList
  | inf : FloatText floatRepr "inf".toList
  | negInf : FloatText floatRepr "-inf".toList
  | number (sign : List Char) (whole : ℕ) (fraction exponent : List Char)
      (hsign : sign = [] ∨ sign = ['-']) (hfraction : IsFraction fraction)
      (hexponent : IsExponent exponent) (hfloat : ¬ (fraction = [] ∧ exponent = []))
      (hrepr : floatRepr (String.ofList (sign ++ Nat.toDigits 10 whole ++ fraction ++ exponent)) =
        String.ofList (sign ++ Nat.toDigits 10 whole ++ fraction ++ exponent)) :
      FloatText floatRepr (sign ++ Nat.toDigits 10 whole ++ fraction ++ exponent)

theorem scanUnsigned_float {floatRepr : FloatRepr} (sign : List Char) (whole : ℕ)
    {fraction exponent rest : List Char} (hfraction : IsFraction fraction)
    (hexponent : IsExponent exponent) (hfloat : ¬ (fraction = [] ∧ exponent = []))
    (hrest : EndsNumber rest) :
    scanUnsigned floatRepr sign (Nat.toDigits 10 whole ++ (fraction ++ (exponent ++ rest))) =
      some (.ok (float (floatRepr
        (String.ofList (sign ++ Nat.toDigits 10 whole ++ fraction ++ exponent))), rest)) := by
  have hexponentHead : ∀ c ∈ (exponent ++ rest).head?, c.isDigit = false ∧ c ≠ '.' := by
    intro c hc
    rcases hexponent with rfl | ⟨sign, digits, -, -, -, rfl⟩
    · exact ⟨(hrest c hc).1, (hrest c hc).2.1⟩
    · obtain rfl := Option.some.inj hc
      decide
  have hfractionHead : ∀ c ∈ (fraction ++ (exponent ++ rest)).head?, c.isDigit = false := by
    intro c hc
    rcases hfraction with rfl | ⟨digits, -, -, rfl⟩
    · exact (hexponentHead c hc).1
    · obtain rfl := Option.some.inj hc
      decide
  rw [scanUnsigned, scanWhole_toDigits whole hfractionHead]
  simp only [Option.bind_eq_bind, Option.bind_some, scanFraction_append hfraction hexponentHead,
    scanExponent_append hexponent hrest, if_neg hfloat]
  rfl

/-- A text with a digit at its start, or after a sign, is none of the three names. -/
theorem floatText_of_digit {sign rest : List Char} (hsign : sign = [] ∨ sign = ['-']) {c : Char}
    (hc : c.isDigit = true) :
    floatText (String.ofList (sign ++ c :: rest)) = sign ++ c :: rest := by
  have hi : c ≠ 'i' := ne_of_isDigit hc (by decide)
  have hn : c ≠ 'n' := ne_of_isDigit hc (by decide)
  have hname {name : String} (h : sign ++ c :: rest ≠ name.toList) :
      String.ofList (sign ++ c :: rest) ≠ name := by
    intro heq
    rw [← heq, String.toList_ofList] at h
    exact h rfl
  have hminus : c ≠ '-' := ne_of_isDigit hc (by decide)
  rw [floatText, if_neg (hname _), if_neg (hname _), if_neg (hname _), String.toList_ofList]
  all_goals
    rcases hsign with rfl | rfl
    · intro heq
      obtain ⟨hfirst, -⟩ := List.cons.inj heq
      contradiction
    · intro heq
      obtain ⟨hfirst, hrest⟩ := List.cons.inj heq
      first
        | exact absurd hfirst (by decide)
        | exact hi (List.cons.inj hrest).1

theorem floatText_number {sign : List Char} (hsign : sign = [] ∨ sign = ['-']) (whole : ℕ)
    (fraction exponent : List Char) :
    floatText (String.ofList (sign ++ Nat.toDigits 10 whole ++ fraction ++ exponent)) =
      sign ++ Nat.toDigits 10 whole ++ fraction ++ exponent := by
  obtain ⟨c, digits, hdigits, hc⟩ := exists_toDigits_digit whole
  simp only [hdigits, List.append_assoc, List.cons_append]
  exact floatText_of_digit hsign hc

/-- The text of a float is read up to something that ends it. -/
theorem scanNumber_float {floatRepr : FloatRepr} {text : String}
    (htext : FloatText floatRepr text.toList) {rest : List Char} (hrest : EndsNumber rest) :
    scanNumber floatRepr (floatText text ++ rest) = .ok (float text, rest) := by
  generalize hchars : text.toList = chars at htext
  obtain rfl : text = String.ofList chars := by rw [← hchars, String.ofList_toList]
  cases htext with
  | nan => rfl
  | inf => rfl
  | negInf => rfl
  | number sign whole fraction exponent hsign hfraction hexponent hfloat hrepr =>
      obtain ⟨c, digits, hdigits, hc⟩ := exists_toDigits_digit whole
      have hscan := @scanUnsigned_float floatRepr sign whole _ _ _ hfraction hexponent hfloat hrest
      rw [hrepr] at hscan
      rw [floatText_number hsign, List.append_assoc, List.append_assoc, List.append_assoc]
      rcases hsign with rfl | rfl
      · apply scanNumber_of_unsigned
        · rw [hdigits, List.nil_append, List.cons_append, List.head?_cons]
          exact fun h => ne_of_isDigit hc (by decide) (Option.some.inj h)
        · simpa using hscan
      · apply scanNumber_of_signed
        simpa using hscan

/-! ## Values -/

/-- The values that are loaded again: no integer is too long, every float has the text of its
`repr`, and the keys of a dictionary are distinct. -/
inductive Loadable (floatRepr : FloatRepr) : Json → Prop
  | null : Loadable floatRepr null
  | bool (value : Bool) : Loadable floatRepr (bool value)
  | int {value : ℤ} (hvalue : PrintableInt value) : Loadable floatRepr (int value)
  | float {text : String} (htext : FloatText floatRepr text.toList) :
      Loadable floatRepr (float text)
  | str (text : String) : Loadable floatRepr (str text)
  | arr {items : List Json} (hitems : ∀ item ∈ items, Loadable floatRepr item) :
      Loadable floatRepr (arr items)
  | obj {fields : List (String × Json)} (hnames : (fields.map Prod.fst).Nodup)
      (hfields : ∀ field ∈ fields, Loadable floatRepr field.2) : Loadable floatRepr (obj fields)

theorem dictOf_append_of_nodup (fields pairs : List (String × Json))
    (h : ((fields ++ pairs).map Prod.fst).Nodup) :
    pairs.foldl (fun fields pair => insertField fields pair.1 pair.2) fields = fields ++ pairs := by
  induction pairs generalizing fields with
  | nil => rw [List.foldl_nil, List.append_nil]
  | cons pair pairs ih =>
      have hnew : pair.1 ∉ fields.map Prod.fst := by
        rw [List.map_append, List.map_cons, List.nodup_append] at h
        exact fun hmem => h.2.2 _ hmem _ List.mem_cons_self rfl
      have hassoc : fields ++ pair :: pairs = (fields ++ [pair]) ++ pairs := by
        rw [List.append_assoc, List.singleton_append]
      rw [List.foldl_cons, insertField, if_neg hnew, hassoc]
      exact ih _ (hassoc ▸ h)

/-- Pairs with distinct keys are a dictionary. -/
theorem dictOf_of_nodup {pairs : List (String × Json)} (h : (pairs.map Prod.fst).Nodup) :
    dictOf pairs = pairs :=
  dictOf_append_of_nodup [] pairs h

theorem skipBlanks_append {blanks rest : List Char} (hblanks : ∀ c ∈ blanks, isBlank c = true) :
    skipBlanks (blanks ++ rest) = skipBlanks rest :=
  List.dropWhile_append_of_pos hblanks

theorem skipBlanks_cons {c : Char} (hc : isBlank c = false) (rest : List Char) :
    skipBlanks (c :: rest) = c :: rest :=
  List.dropWhile_cons_of_neg (by simp [hc])

theorem skipBlanks_space {c : Char} (hc : isBlank c = false) (rest : List Char) :
    skipBlanks (' ' :: c :: rest) = c :: rest := by
  rw [skipBlanks, List.dropWhile_cons_of_pos rfl]
  exact skipBlanks_cons hc rest

theorem isBlank_of_mem_lineBreak (indent : Option ℕ) (level : ℕ) :
    ∀ c ∈ lineBreak indent level, isBlank c = true := by
  intro c hc
  cases indent with
  | none => cases hc
  | some width =>
      rcases List.mem_cons.mp hc with rfl | hc
      · rfl
      · rw [List.eq_of_mem_replicate hc]
        rfl

/-- A character that begins numbers, and nothing else. -/
def BeginsNumber (c : Char) : Prop := c.isDigit = true ∨ c ∈ ['-', 'N', 'I']

theorem BeginsNumber.ne {c other : Char} (h : BeginsNumber c) (hdigit : other.isDigit = false)
    (hother : other ∉ ['-', 'N', 'I']) : c ≠ other := by
  rintro rfl
  rcases h with h | h
  · exact Bool.false_ne_true (hdigit.symm.trans h)
  · exact hother h

theorem BeginsNumber.isBlank {c : Char} (h : BeginsNumber c) : isBlank c = false := by
  have hne : ∀ other ∈ [' ', '\t', '\n', '\r'], c ≠ other := by
    intro other hother
    refine h.ne ?_ ?_
    all_goals
      revert other
      decide
  simp only [List.forall_mem_cons] at hne
  simp [Json.isBlank, hne]

theorem exists_toString_int_cons (value : ℤ) :
    ∃ c chars, (toString value).toList = c :: chars ∧ BeginsNumber c := by
  obtain ⟨c, digits, hdigits, hc⟩ := exists_toDigits_digit value.natAbs
  rw [toList_toString_int, hdigits]
  split_ifs
  · exact ⟨c, digits, rfl, Or.inl hc⟩
  · exact ⟨'-', c :: digits, rfl, Or.inr (by decide)⟩

theorem exists_floatText_cons {floatRepr : FloatRepr} {text : String}
    (htext : FloatText floatRepr text.toList) :
    ∃ c chars, floatText text = c :: chars ∧ BeginsNumber c := by
  generalize hchars : text.toList = chars at htext
  obtain rfl : text = String.ofList chars := by rw [← hchars, String.ofList_toList]
  cases htext with
  | nan => exact ⟨'N', _, rfl, Or.inr (by decide)⟩
  | inf => exact ⟨'I', _, rfl, Or.inr (by decide)⟩
  | negInf => exact ⟨'-', _, rfl, Or.inr (by decide)⟩
  | number sign whole fraction exponent hsign hfraction hexponent hfloat hrepr =>
      obtain ⟨c, digits, hdigits, hc⟩ := exists_toDigits_digit whole
      simp only [hdigits, List.append_assoc, List.cons_append]
      rw [floatText_of_digit hsign hc]
      rcases hsign with rfl | rfl
      · exact ⟨c, _, rfl, Or.inl hc⟩
      · exact ⟨'-', _, rfl, Or.inr (by decide)⟩

/-- The first character of a printed value: no white space, nothing that ends an array, and
no byte order mark. -/
theorem exists_dump_cons {floatRepr : FloatRepr} {value : Json} (h : Loadable floatRepr value)
    (indent : Option ℕ) (level : ℕ) :
    ∃ c chars, dump indent level value = c :: chars ∧ isBlank c = false ∧ c ≠ ']' ∧
      c ≠ '\ufeff' := by
  cases h with
  | null => exact ⟨_, _, rfl, rfl, by decide⟩
  | bool value => cases value <;> exact ⟨_, _, rfl, rfl, by decide⟩
  | int hvalue =>
      obtain ⟨c, chars, hchars, hc⟩ := exists_toString_int_cons _
      exact ⟨c, chars, hchars, hc.isBlank, hc.ne rfl (by decide), hc.ne rfl (by decide)⟩
  | float htext =>
      obtain ⟨c, chars, hchars, hc⟩ := exists_floatText_cons htext
      exact ⟨c, chars, hchars, hc.isBlank, hc.ne rfl (by decide), hc.ne rfl (by decide)⟩
  | str text => exact ⟨_, _, rfl, rfl, by decide⟩
  | @arr items hitems => cases items <;> exact ⟨_, _, rfl, rfl, by decide⟩
  | @obj fields hnames hfields => cases fields <;> exact ⟨_, _, rfl, rfl, by decide⟩

theorem scanValue_of_beginsNumber (floatRepr : FloatRepr) (fuel : ℕ) {c : Char}
    (hc : BeginsNumber c) (text : List Char) :
    scanValue floatRepr (fuel + 1) (c :: text) = scanNumber floatRepr (c :: text) := by
  rw [scanValue.eq_def]
  simp only
  split
  all_goals
    first
      | rfl
      | next heq => exact (hc.ne (by decide) (by decide) (List.cons.inj heq).1).elim

theorem scanValue_str (floatRepr : FloatRepr) (fuel : ℕ) (text : String) (rest : List Char) :
    scanValue floatRepr (fuel + 1) (quoted text ++ rest) = .ok (str text, rest) := by
  have hquoted : quoted text ++ rest = '"' :: ((quoted text).tail ++ rest) := rfl
  rw [hquoted, scanValue]
  simp only [scanString_quoted, bind, Except.bind, pure, Except.pure, String.ofList_toList]

/-- An array with an item: its items, from the first one on. -/
theorem scanValue_arr {floatRepr : FloatRepr} {fuel : ℕ} {blanks text rest : List Char}
    {items : List Json} (hblanks : ∀ c ∈ blanks, isBlank c = true) {c : Char}
    (hc : isBlank c = false ∧ c ≠ ']')
    (h : scanItems floatRepr fuel (c :: text) = .ok (items, rest)) :
    scanValue floatRepr (fuel + 1) ('[' :: (blanks ++ c :: text)) = .ok (arr items, rest) := by
  rw [scanValue]
  simp only [skipBlanks_append hblanks, skipBlanks_cons hc.1]
  split
  · next heq => exact (hc.2 (List.cons.inj heq).1).elim
  · rw [h]
    rfl

/-- An object with a field: its fields, from the first one on. -/
theorem scanValue_obj {floatRepr : FloatRepr} {fuel : ℕ} {blanks text rest : List Char}
    {fields : List (String × Json)} (hblanks : ∀ c ∈ blanks, isBlank c = true)
    (hnames : (fields.map Prod.fst).Nodup)
    (h : scanFields floatRepr fuel ('"' :: text) = .ok (fields, rest)) :
    scanValue floatRepr (fuel + 1) ('{' :: (blanks ++ '"' :: text)) = .ok (obj fields, rest) := by
  rw [scanValue]
  simp only [skipBlanks_append hblanks, skipBlanks_cons (show isBlank '"' = false from rfl)]
  split
  · next heq => exact absurd (List.cons.inj heq).1 (by decide)
  · simp only [h, bind, Except.bind, pure, Except.pure, dictOf_of_nodup hnames]

/-- The last item of an array. -/
theorem scanItems_last {floatRepr : FloatRepr} {fuel : ℕ} {text blanks rest : List Char}
    {item : Json} (hblanks : ∀ c ∈ blanks, isBlank c = true)
    (h : scanValue floatRepr fuel text = .ok (item, blanks ++ ']' :: rest)) :
    scanItems floatRepr (fuel + 1) text = .ok ([item], rest) := by
  rw [scanItems, h]
  simp only [bind, Except.bind, skipBlanks_append hblanks,
    skipBlanks_cons (show isBlank ']' = false from rfl), pure, Except.pure]

/-- An item that others follow. -/
theorem scanItems_next {floatRepr : FloatRepr} {fuel : ℕ} {text blanks next rest : List Char}
    {item : Json} {items : List Json} (hblanks : ∀ c ∈ blanks, isBlank c = true) {c : Char}
    (hc : isBlank c = false)
    (h : scanValue floatRepr fuel text = .ok (item, ',' :: (blanks ++ c :: next)))
    (hitems : scanItems floatRepr fuel (c :: next) = .ok (items, rest)) :
    scanItems floatRepr (fuel + 1) text = .ok (item :: items, rest) := by
  rw [scanItems, h]
  simp only [bind, Except.bind, skipBlanks_cons (show isBlank ',' = false from rfl),
    skipBlanks_append hblanks, skipBlanks_cons hc, hitems, pure, Except.pure]

/-- The last field of an object. -/
theorem scanFields_last {floatRepr : FloatRepr} {fuel : ℕ} (name : String)
    {text blanks rest : List Char} {value : Json} (hblanks : ∀ c ∈ blanks, isBlank c = true)
    {c : Char} (hc : isBlank c = false)
    (h : scanValue floatRepr fuel (c :: text) = .ok (value, blanks ++ '}' :: rest)) :
    scanFields floatRepr (fuel + 1) (quoted name ++ (':' :: ' ' :: c :: text)) =
      .ok ([(name, value)], rest) := by
  have hquoted : quoted name ++ (':' :: ' ' :: c :: text) =
      '"' :: ((quoted name).tail ++ (':' :: ' ' :: c :: text)) := rfl
  rw [hquoted, scanFields, scanString_quoted]
  simp only [bind, Except.bind, skipBlanks_cons (show isBlank ':' = false from rfl),
    skipBlanks_space hc, h, skipBlanks_append hblanks,
    skipBlanks_cons (show isBlank '}' = false from rfl), pure, Except.pure, String.ofList_toList]

/-- A field that others follow. -/
theorem scanFields_next {floatRepr : FloatRepr} {fuel : ℕ} (name : String)
    {text blanks next rest : List Char} {value : Json} {fields : List (String × Json)}
    (hblanks : ∀ c ∈ blanks, isBlank c = true) {c d : Char} (hc : isBlank c = false)
    (hd : isBlank d = false)
    (h : scanValue floatRepr fuel (c :: text) = .ok (value, ',' :: (blanks ++ d :: next)))
    (hfields : scanFields floatRepr fuel (d :: next) = .ok (fields, rest)) :
    scanFields floatRepr (fuel + 1) (quoted name ++ (':' :: ' ' :: c :: text)) =
      .ok ((name, value) :: fields, rest) := by
  have hquoted : quoted name ++ (':' :: ' ' :: c :: text) =
      '"' :: ((quoted name).tail ++ (':' :: ' ' :: c :: text)) := rfl
  rw [hquoted, scanFields, scanString_quoted]
  simp only [bind, Except.bind, skipBlanks_cons (show isBlank ':' = false from rfl),
    skipBlanks_space hc, h, skipBlanks_cons (show isBlank ',' = false from rfl),
    skipBlanks_append hblanks, skipBlanks_cons hd, hfields, pure, Except.pure,
    String.ofList_toList]

theorem exists_itemSeparator (indent : Option ℕ) (level : ℕ) :
    ∃ blanks, itemSeparator indent level = ',' :: blanks ∧ ∀ c ∈ blanks, isBlank c = true := by
  cases indent with
  | none => exact ⟨[' '], rfl, by decide⟩
  | some width => exact ⟨_, rfl, isBlank_of_mem_lineBreak (some width) level⟩

theorem endsNumber_of_isBlank {c : Char} {text : List Char} (h : isBlank c = true) :
    EndsNumber (c :: text) := by
  apply endsNumber_cons
  simp only [isBlank, Bool.or_eq_true, decide_eq_true_eq] at h
  rcases h with ((rfl | rfl) | rfl) | rfl <;> decide

/-- What comes after a value in an array or an object ends a number. -/
theorem endsNumber_of_blanks {blanks rest : List Char} (hblanks : ∀ c ∈ blanks, isBlank c = true)
    {c : Char} (hc : c ∈ [',', ']', '}']) : EndsNumber (blanks ++ c :: rest) := by
  cases blanks with
  | nil =>
      apply endsNumber_cons
      revert c
      decide
  | cons blank blanks => exact endsNumber_of_isBlank (hblanks blank List.mem_cons_self)

section Scans

variable (floatRepr : FloatRepr) (indent : Option ℕ)

/-- With this fuel the scanner reads back every printed value that is no longer than it. -/
def ScansValues (fuel : ℕ) : Prop :=
  ∀ value level rest, Loadable floatRepr value → (dump indent level value).length ≤ fuel →
    EndsNumber rest → scanValue floatRepr fuel (dump indent level value ++ rest) = .ok (value, rest)

/-- So it does the items of an array, from any one on. -/
def ScansItems (fuel : ℕ) : Prop :=
  ∀ item items level blanks rest, (∀ other ∈ item :: items, Loadable floatRepr other) →
    (dump indent level item).length + (dumpItems indent level items).length < fuel →
    (∀ c ∈ blanks, isBlank c = true) →
    scanItems floatRepr fuel
      (dump indent level item ++ (dumpItems indent level items ++ (blanks ++ ']' :: rest))) =
        .ok (item :: items, rest)

/-- So it does the fields of an object. -/
def ScansFields (fuel : ℕ) : Prop :=
  ∀ name value fields level blanks rest,
    (∀ field ∈ (name, value) :: fields, Loadable floatRepr field.2) →
    (dump indent level value).length + (dumpFields indent level fields).length < fuel →
    (∀ c ∈ blanks, isBlank c = true) →
    scanFields floatRepr fuel (quoted name ++ (':' :: ' ' ::
      (dump indent level value ++ (dumpFields indent level fields ++ (blanks ++ '}' :: rest))))) =
        .ok ((name, value) :: fields, rest)

end Scans

variable {floatRepr : FloatRepr} {indent : Option ℕ} {fuel : ℕ}

theorem ScansItems.array (h : ScansItems floatRepr indent fuel) {items : List Json}
    (hitems : ∀ item ∈ items, Loadable floatRepr item) (level : ℕ) (rest : List Char)
    (hlength : (dump indent level (arr items)).length ≤ fuel + 1) :
    scanValue floatRepr (fuel + 1) (dump indent level (arr items) ++ rest) =
      .ok (arr items, rest) := by
  cases items with
  | nil => rfl
  | cons item items =>
      obtain ⟨c, chars, hchars, hc⟩ :=
        exists_dump_cons (hitems item List.mem_cons_self) indent (level + 1)
      have hscan := h item items (level + 1) (lineBreak indent level) rest hitems
        (by
          simp only [dump, List.length_cons, List.length_append, List.length_nil] at hlength
          omega)
        (isBlank_of_mem_lineBreak indent level)
      rw [hchars, List.cons_append] at hscan
      have harray :=
        scanValue_arr (isBlank_of_mem_lineBreak indent (level + 1)) ⟨hc.1, hc.2.1⟩ hscan
      simpa only [dump, hchars, List.cons_append, List.append_assoc, List.nil_append] using harray

theorem ScansFields.object (h : ScansFields floatRepr indent fuel)
    {fields : List (String × Json)} (hnames : (fields.map Prod.fst).Nodup)
    (hfields : ∀ field ∈ fields, Loadable floatRepr field.2) (level : ℕ) (rest : List Char)
    (hlength : (dump indent level (obj fields)).length ≤ fuel + 1) :
    scanValue floatRepr (fuel + 1) (dump indent level (obj fields) ++ rest) =
      .ok (obj fields, rest) := by
  cases fields with
  | nil => rfl
  | cons field fields =>
      obtain ⟨name, value⟩ := field
      have hscan := h name value fields (level + 1) (lineBreak indent level) rest hfields
        (by
          simp only [dump, List.length_cons, List.length_append, List.length_nil] at hlength
          omega)
        (isBlank_of_mem_lineBreak indent level)
      rw [quoted, List.cons_append] at hscan
      have hobject := scanValue_obj (isBlank_of_mem_lineBreak indent (level + 1)) hnames hscan
      simpa only [dump, quoted, List.cons_append, List.append_assoc, List.nil_append] using hobject

theorem scansValues_succ (hitems : ScansItems floatRepr indent fuel)
    (hfields : ScansFields floatRepr indent fuel) : ScansValues floatRepr indent (fuel + 1) := by
  intro value level rest hvalue hlength hrest
  cases hvalue with
  | null => rfl
  | bool value => cases value <;> rfl
  | @int value hvalue =>
      obtain ⟨c, chars, hchars, hc⟩ := exists_toString_int_cons value
      have hscan := scanNumber_int floatRepr hvalue hrest
      rw [hchars, List.cons_append] at hscan
      rw [dump, hchars, List.cons_append, scanValue_of_beginsNumber _ _ hc, hscan]
  | @float text htext =>
      obtain ⟨c, chars, hchars, hc⟩ := exists_floatText_cons htext
      have hscan := scanNumber_float htext hrest
      rw [hchars, List.cons_append] at hscan
      rw [dump, hchars, List.cons_append, scanValue_of_beginsNumber _ _ hc, hscan]
  | str text => exact scanValue_str floatRepr fuel text rest
  | arr hall => exact hitems.array hall level rest hlength
  | obj hnames hall => exact hfields.object hnames hall level rest hlength

theorem scansItems_succ (hvalues : ScansValues floatRepr indent fuel)
    (hitems : ScansItems floatRepr indent fuel) : ScansItems floatRepr indent (fuel + 1) := by
  intro item items level blanks rest hall hlength hblanks
  obtain ⟨hitem, hall⟩ := List.forall_mem_cons.mp hall
  cases items with
  | nil =>
      refine scanItems_last hblanks (hvalues item level _ hitem ?_ ?_)
      · omega
      · exact endsNumber_of_blanks hblanks (by decide)
  | cons next items =>
      obtain ⟨separators, hseparator, hseparators⟩ := exists_itemSeparator indent level
      obtain ⟨c, chars, hchars, hc⟩ := exists_dump_cons (hall next List.mem_cons_self) indent level
      simp only [dumpItems, hseparator, List.length_append, List.length_cons] at hlength
      have hscan := hitems next items level blanks rest hall (by omega) hblanks
      have hvalue := hvalues item level (',' :: (separators ++ (dump indent level next ++
        (dumpItems indent level items ++ (blanks ++ ']' :: rest))))) hitem (by omega)
        (endsNumber_cons (by decide))
      rw [hchars, List.cons_append] at hscan hvalue
      have hnext := scanItems_next hseparators hc.1 hvalue hscan
      simpa only [dumpItems, hseparator, hchars, List.cons_append, List.append_assoc] using hnext

theorem scansFields_succ (hvalues : ScansValues floatRepr indent fuel)
    (hfields : ScansFields floatRepr indent fuel) : ScansFields floatRepr indent (fuel + 1) := by
  intro name value fields level blanks rest hall hlength hblanks
  obtain ⟨hitem, hall⟩ := List.forall_mem_cons.mp hall
  obtain ⟨c, chars, hchars, hc⟩ := exists_dump_cons hitem indent level
  cases fields with
  | nil =>
      have hvalue := hvalues value level (blanks ++ '}' :: rest) hitem (by omega)
        (endsNumber_of_blanks hblanks (by decide))
      rw [hchars, List.cons_append] at hvalue
      rw [dumpFields, List.nil_append, hchars, List.cons_append]
      exact scanFields_last name hblanks hc.1 hvalue
  | cons next fields =>
      obtain ⟨nextName, next⟩ := next
      obtain ⟨separators, hseparator, hseparators⟩ := exists_itemSeparator indent level
      simp only [dumpFields, hseparator, List.length_append, List.length_cons] at hlength
      have hscan := hfields nextName next fields level blanks rest hall (by omega) hblanks
      have hvalue := hvalues value level (',' :: (separators ++ (quoted nextName ++ (':' :: ' ' ::
        (dump indent level next ++ (dumpFields indent level fields ++ (blanks ++ '}' :: rest)))))))
        hitem (by omega) (endsNumber_cons (by decide))
      rw [hchars, List.cons_append] at hvalue
      rw [quoted, List.cons_append] at hscan hvalue
      have hnext := scanFields_next name hseparators hc.1 rfl hvalue hscan
      simpa only [dumpFields, hseparator, hchars, quoted, List.cons_append, List.append_assoc,
        List.nil_append] using hnext

/-- The scanner reads every printed value back, whatever ends a number comes after it. -/
theorem scans (floatRepr : FloatRepr) (indent : Option ℕ) (fuel : ℕ) :
    ScansValues floatRepr indent fuel ∧ ScansItems floatRepr indent fuel ∧
      ScansFields floatRepr indent fuel := by
  induction fuel with
  | zero =>
      refine ⟨?_, fun _ _ _ _ _ _ hlength => ?_, fun _ _ _ _ _ _ _ hlength => ?_⟩
      · intro value level rest hvalue hlength
        obtain ⟨c, chars, hchars, -⟩ := exists_dump_cons hvalue indent level
        rw [hchars] at hlength
        exact absurd hlength (Nat.not_succ_le_zero _)
      · exact absurd hlength (Nat.not_lt_zero _)
      · exact absurd hlength (Nat.not_lt_zero _)
  | succ fuel ih =>
      obtain ⟨hvalues, hitems, hfields⟩ := ih
      exact ⟨scansValues_succ hitems hfields, scansItems_succ hvalues hitems,
        scansFields_succ hvalues hfields⟩

theorem endsNumber_of_all_blank {text : List Char} (h : ∀ c ∈ text, isBlank c = true) :
    EndsNumber text := by
  cases text with
  | nil => exact endsNumber_nil
  | cons c text => exact endsNumber_of_isBlank (h c List.mem_cons_self)

/-- What is printed is loaded again, with white space after it or none. -/
theorem loads_dumps_append (indent : Option ℕ) {value : Json} (h : Loadable floatRepr value)
    {trailing : String} (htrailing : ∀ c ∈ trailing.toList, isBlank c = true) :
    loads floatRepr (dumps value indent ++ trailing) = .ok value := by
  obtain ⟨c, chars, hchars, hc⟩ := exists_dump_cons h indent 0
  have hscan := (scans floatRepr indent
    (2 * (dump indent 0 value ++ trailing.toList).length + 2)).1 value 0 trailing.toList h
    (by rw [List.length_append]; omega) (endsNumber_of_all_blank htrailing)
  rw [loads, String.toList_append, dumps, String.toList_ofList]
  split
  · next heq =>
      rw [hchars] at heq
      exact (hc.2.2 (List.cons.inj heq).1).elim
  · simp only [bind, Except.bind]
    rw [hchars, List.cons_append, skipBlanks_cons hc.1, ← List.cons_append, ← hchars, hscan]
    exact if_pos (List.dropWhile_eq_nil_iff.mpr htrailing)

/-- What is printed is loaded again. -/
theorem loads_dumps (indent : Option ℕ) {value : Json} (h : Loadable floatRepr value) :
    loads floatRepr (dumps value indent) = .ok value := by
  have hloads := loads_dumps_append indent h (show ∀ c ∈ "".toList, isBlank c = true by decide)
  rwa [String.append_empty] at hloads

/-- Printing loses nothing. -/
theorem dumps_injective_on (floatRepr : FloatRepr) (indent : Option ℕ) {value other : Json}
    (hvalue : Loadable floatRepr value) (hother : Loadable floatRepr other)
    (h : dumps value indent = dumps other indent) : value = other :=
  Except.ok.inj ((loads_dumps indent hvalue).symm.trans (h ▸ loads_dumps indent hother))

/-! ## The limits of an interpreter -/

/-- Lists and dictionaries stand in each other at most so deep. -/
inductive NestsWithin : ℕ → Json → Prop
  | null {nesting : ℕ} : NestsWithin nesting null
  | bool {nesting : ℕ} (value : Bool) : NestsWithin nesting (bool value)
  | int {nesting : ℕ} (value : ℤ) : NestsWithin nesting (int value)
  | float {nesting : ℕ} (text : String) : NestsWithin nesting (float text)
  | str {nesting : ℕ} (text : String) : NestsWithin nesting (str text)
  | arr {nesting : ℕ} {items : List Json} (hitems : ∀ item ∈ items, NestsWithin nesting item) :
      NestsWithin (nesting + 1) (arr items)
  | obj {nesting : ℕ} {fields : List (String × Json)}
      (hfields : ∀ field ∈ fields, NestsWithin nesting field.2) :
      NestsWithin (nesting + 1) (obj fields)

/-- A function that does what the scanner does on what is printed of values that are not nested
too deep. Of all other texts nothing is said: an interpreter that has not enough stack left
raises `RecursionError`. -/
def LoadsLike {ε : Type} (nesting : ℕ) (floatRepr : FloatRepr) (load : String → Except ε Json) :
    Prop :=
  ∀ indent value (trailing : String), Loadable floatRepr value → NestsWithin nesting value →
    (∀ c ∈ trailing.toList, isBlank c = true) →
    ∀ loaded, loads floatRepr (dumps value indent ++ trailing) = .ok loaded →
      load (dumps value indent ++ trailing) = .ok loaded

section Limits

variable {ε : Type} {nesting : ℕ} {load : String → Except ε Json}

theorem LoadsLike.load_dumps_append (h : LoadsLike nesting floatRepr load) (indent : Option ℕ)
    {value : Json} (hvalue : Loadable floatRepr value) (hnesting : NestsWithin nesting value)
    {trailing : String} (htrailing : ∀ c ∈ trailing.toList, isBlank c = true) :
    load (dumps value indent ++ trailing) = .ok value :=
  h indent value trailing hvalue hnesting htrailing value
    (loads_dumps_append indent hvalue htrailing)

theorem LoadsLike.load_dumps (h : LoadsLike nesting floatRepr load) (indent : Option ℕ)
    {value : Json} (hvalue : Loadable floatRepr value) (hnesting : NestsWithin nesting value) :
    load (dumps value indent) = .ok value := by
  have hload := h.load_dumps_append indent hvalue hnesting
    (show ∀ c ∈ "".toList, isBlank c = true by decide)
  rwa [String.append_empty] at hload

end Limits

/-! ## One line of ASCII -/

/-- A printable character of ASCII: what can stand in a line. -/
def PrintableAscii (c : Char) : Prop := 0x20 ≤ c.toNat ∧ c.toNat ≤ 0x7e

instance (c : Char) : Decidable (PrintableAscii c) := inferInstanceAs (Decidable (_ ∧ _))

theorem printableAscii_of_isDigit {c : Char} (h : c.isDigit = true) : PrintableAscii c := by
  have hbounds : 48 ≤ c.toNat ∧ c.toNat ≤ 57 := by
    simpa [Char.isDigit, UInt32.le_iff_toNat_le] using h
  exact ⟨by omega, by omega⟩

theorem printableAscii_unicodeEscape (unit : ℕ) : ∀ c ∈ unicodeEscape unit, PrintableAscii c := by
  have hdigit (digit : ℕ) : PrintableAscii (hexDigit (digit % 16)) := by
    have hall : ∀ digit < 16, PrintableAscii (hexDigit digit) := by decide
    exact hall _ (Nat.mod_lt _ (by decide))
  simp only [unicodeEscape, List.forall_mem_cons, hdigit, true_and]
  decide

/-- However a code point is printed, nothing but printable ASCII comes of it. -/
theorem printableAscii_escapeChar (char : Char) : ∀ c ∈ escapeChar char, PrintableAscii c := by
  rw [escapeChar]
  split_ifs with _ _ _ _ _ _ _ hplain
  · decide
  · decide
  · decide
  · decide
  · decide
  · decide
  · decide
  · exact List.forall_mem_singleton.mpr hplain
  · exact printableAscii_unicodeEscape _
  · exact List.forall_mem_append.mpr
      ⟨printableAscii_unicodeEscape _, printableAscii_unicodeEscape _⟩

theorem printableAscii_quoted (text : String) : ∀ c ∈ quoted text, PrintableAscii c := by
  rw [quoted, List.forall_mem_cons, List.forall_mem_append]
  refine ⟨by decide, ?_, by decide⟩
  intro c hc
  obtain ⟨char, -, hchar⟩ := List.mem_flatMap.mp hc
  exact printableAscii_escapeChar char c hchar

theorem printableAscii_toDigits (n : ℕ) : ∀ c ∈ Nat.toDigits 10 n, PrintableAscii c := fun _ hc =>
  printableAscii_of_isDigit (Nat.isDigit_of_mem_toDigits (by decide) (by decide) hc)

theorem printableAscii_toString_int (value : ℤ) :
    ∀ c ∈ (toString value).toList, PrintableAscii c := by
  rw [toList_toString_int, List.forall_mem_append]
  refine ⟨?_, printableAscii_toDigits _⟩
  split_ifs <;> decide

theorem IsFraction.printableAscii {text : List Char} (h : IsFraction text) :
    ∀ c ∈ text, PrintableAscii c := by
  rcases h with rfl | ⟨digits, -, hdigits, rfl⟩
  · exact List.forall_mem_nil _
  · exact List.forall_mem_cons.mpr
      ⟨by decide, fun c hc => printableAscii_of_isDigit (hdigits c hc)⟩

theorem IsExponent.printableAscii {text : List Char} (h : IsExponent text) :
    ∀ c ∈ text, PrintableAscii c := by
  rcases h with rfl | ⟨sign, digits, hsign, -, hdigits, rfl⟩
  · exact List.forall_mem_nil _
  · rw [List.forall_mem_cons, List.forall_mem_append]
    refine ⟨by decide, ?_, fun c hc => printableAscii_of_isDigit (hdigits c hc)⟩
    revert sign
    decide

theorem printableAscii_floatText {text : String} (h : FloatText floatRepr text.toList) :
    ∀ c ∈ floatText text, PrintableAscii c := by
  generalize hchars : text.toList = chars at h
  obtain rfl : text = String.ofList chars := by rw [← hchars, String.ofList_toList]
  cases h with
  | nan => decide
  | inf => decide
  | negInf => decide
  | number sign whole fraction exponent hsign hfraction hexponent hfloat hrepr =>
      rw [floatText_number hsign]
      simp only [List.forall_mem_append]
      refine ⟨⟨⟨?_, printableAscii_toDigits whole⟩, hfraction.printableAscii⟩,
        hexponent.printableAscii⟩
      rcases hsign with rfl | rfl <;> decide

mutual

/-- A value is printed on one line, in ASCII alone. -/
theorem printableAscii_dump : ∀ (value : Json) (level : ℕ), Loadable floatRepr value →
    ∀ c ∈ dump none level value, PrintableAscii c
  | null, _, _ => by simp only [dump]; decide
  | bool true, _, _ => by simp only [dump]; decide
  | bool false, _, _ => by simp only [dump]; decide
  | int value, _, _ => printableAscii_toString_int value
  | float text, _, .float htext => printableAscii_floatText htext
  | str text, _, _ => printableAscii_quoted text
  | arr [], _, _ => by simp only [dump]; decide
  | arr (item :: items), level, .arr hitems => by
      simp only [dump, lineBreak, List.forall_mem_cons, List.forall_mem_append, List.nil_append]
      rw [List.forall_mem_cons] at hitems
      exact ⟨by decide, ⟨⟨⟨printableAscii_dump item _ hitems.1,
        printableAscii_dumpItems items _ hitems.2⟩, List.forall_mem_nil _⟩, by decide⟩⟩
  | obj [], _, _ => by simp only [dump]; decide
  | obj ((name, value) :: fields), level, .obj _ hfields => by
      simp only [dump, lineBreak, List.forall_mem_cons, List.forall_mem_append, List.nil_append]
      rw [List.forall_mem_cons] at hfields
      exact ⟨by decide, ⟨⟨⟨⟨printableAscii_quoted name, by decide⟩,
        printableAscii_dump value _ hfields.1⟩, printableAscii_dumpFields fields _ hfields.2⟩,
        List.forall_mem_nil _⟩, by decide⟩

theorem printableAscii_dumpItems : ∀ (items : List Json) (level : ℕ),
    (∀ item ∈ items, Loadable floatRepr item) → ∀ c ∈ dumpItems none level items, PrintableAscii c
  | [], _, _ => List.forall_mem_nil _
  | item :: items, level, h => by
      simp only [dumpItems, itemSeparator, List.forall_mem_append]
      rw [List.forall_mem_cons] at h
      exact ⟨⟨by decide, printableAscii_dump item _ h.1⟩, printableAscii_dumpItems items _ h.2⟩

theorem printableAscii_dumpFields : ∀ (fields : List (String × Json)) (level : ℕ),
    (∀ field ∈ fields, Loadable floatRepr field.2) →
    ∀ c ∈ dumpFields none level fields, PrintableAscii c
  | [], _, _ => List.forall_mem_nil _
  | (name, value) :: fields, level, h => by
      simp only [dumpFields, itemSeparator, List.forall_mem_append]
      rw [List.forall_mem_cons] at h
      exact ⟨⟨⟨⟨by decide, printableAscii_quoted name⟩, by decide⟩,
        printableAscii_dump value _ h.1⟩, printableAscii_dumpFields fields _ h.2⟩

end

end Json

end Python
