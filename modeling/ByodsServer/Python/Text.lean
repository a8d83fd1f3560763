/-
# Python text

The string operations the server uses, on `String` by way of its list of code
points: trimming, prefixes, slices, lower-casing and substring tests. White
space is what `str.isspace` and the `\s` of a text pattern accept.
-/

import Mathlib.Data.List.DropRight
import Mathlib.Tactic.Common

namespace Python

/-- `str.isspace` for one code point. -/
def isSpace (c : Char) : Bool :=
  let n := c.toNat
  (9 ≤ n && n ≤ 13) || (28 ≤ n && n ≤ 32) || n == 0x85 || n == 0xA0 || n == 0x1680 ||
    (0x2000 ≤ n && n ≤ 0x200A) || n == 0x2028 || n == 0x2029 || n == 0x202F ||
    n == 0x205F || n == 0x3000

/-- `str.strip()`. -/
def strip (s : String) : String :=
  String.ofList ((s.toList.dropWhile isSpace).rdropWhile isSpace)

/-- `s.startswith(p)`. -/
def startsWith (s p : String) : Bool :=
  p.toList.isPrefixOf s.toList

/-- The slice `s[n:]`. -/
def sliceFrom (s : String) (n : ℕ) : String :=
  String.ofList (s.toList.drop n)

/-- `str.lower()` on ASCII letters. Other code points are kept: no text the
server compares after lower-casing has a letter that a non-ASCII code point
lower-cases to. -/
def lower (s : String) : String :=
  String.ofList (s.toList.map Char.toLower)

/-- `p in s`. -/
def contains (s p : String) : Bool :=
  s.toList.tails.any fun rest => p.toList.isPrefixOf rest

/-- Only ASCII bytes. -/
def isAscii (bytes : ByteArray) : Bool :=
  bytes.data.toList.all (· < 128)

/-- `bytes.decode("utf-8")`, when it does not raise. -/
def decodeUtf8? (bytes : ByteArray) : Option String := String.fromUTF8? bytes

/-- `str.encode("ascii")`, when it does not raise. -/
def encodeAscii? (s : String) : Option ByteArray :=
  if isAscii s.toUTF8 then some s.toUTF8 else none

/-- `bytes.decode("ascii")`, when it does not raise. -/
def decodeAscii? (bytes : ByteArray) : Option String :=
  if isAscii bytes then String.fromUTF8? bytes else none

@[simp]
theorem decodeUtf8?_toUTF8 (s : String) : decodeUtf8? s.toUTF8 = some s := by
  simp only [decodeUtf8?, String.fromUTF8?, String.toUTF8_eq_toByteArray]
  rw [dif_pos s.isValidUTF8]
  rfl

theorem decodeAscii?_toUTF8 {s : String} (h : isAscii s.toUTF8 = true) :
    decodeAscii? s.toUTF8 = some s := by
  rw [decodeAscii?, if_pos h]
  exact decodeUtf8?_toUTF8 s

/-- Text decoded from ASCII bytes encodes to the same bytes. -/
theorem encodeAscii?_of_decodeAscii? {bytes : ByteArray} {s : String}
    (h : decodeAscii? bytes = some s) : encodeAscii? s = some bytes := by
  unfold decodeAscii? String.fromUTF8? at h
  split_ifs at h with hascii hvalid
  have hbytes : s.toUTF8 = bytes := by
    rw [← Option.some.inj h]
    rfl
  rw [encodeAscii?, hbytes, if_pos hascii]

theorem toList_strip (s : String) :
    (strip s).toList = (s.toList.dropWhile isSpace).rdropWhile isSpace := by
  rw [strip, String.toList_ofList]

/-- Trimmed text stays as it is. -/
@[simp]
theorem strip_strip (s : String) : strip (strip s) = strip s := by
  -- What the right end loses does not change what the text starts with.
  have hstart : (strip s).toList.dropWhile isSpace = (strip s).toList := by
    rw [List.dropWhile_eq_self_iff]
    intro hpos
    have hhead : (strip s).toList <+: s.toList.dropWhile isSpace := by
      rw [toList_strip]
      exact List.rdropWhile_prefix isSpace _
    rw [hhead.getElem hpos]
    exact List.dropWhile_get_zero_not isSpace s.toList (hpos.trans_le hhead.length_le)
  rw [← String.toList_inj, toList_strip, hstart, toList_strip]
  exact List.rdropWhile_idempotent isSpace _

/-- Text that trims to nothing is white space. -/
theorem isSpace_of_strip {s : String} (h : strip s = "") : ∀ c ∈ s.toList, isSpace c = true := by
  have hkept : s.toList.dropWhile isSpace = [] := by
    by_contra hne
    have hall : ∀ c ∈ s.toList.dropWhile isSpace, isSpace c = true := by
      rw [← List.rdropWhile_eq_nil_iff, ← toList_strip, h]
      rfl
    have hpos := List.length_pos_iff.mpr hne
    exact List.dropWhile_get_zero_not isSpace s.toList hpos (hall _ (List.get_mem _ _))
  exact List.dropWhile_eq_nil_iff.mp hkept

@[simp]
theorem startsWith_append (p s : String) : startsWith (p ++ s) p = true := by
  simp [startsWith]

theorem startsWith_iff {s p : String} : startsWith s p = true ↔ ∃ rest, s = p ++ rest := by
  constructor
  · intro h
    obtain ⟨rest, hrest⟩ := List.isPrefixOf_iff_prefix.mp h
    exact ⟨String.ofList rest, by rw [← String.toList_inj]; simp [hrest]⟩
  · rintro ⟨rest, rfl⟩
    exact startsWith_append p rest

theorem sliceFrom_append (p s : String) : sliceFrom (p ++ s) p.toList.length = s := by
  rw [← String.toList_inj]
  simp [sliceFrom]

end Python
