/-
# Texts in order

Two texts are compared at the first position where they differ. When both go on
there the comparison is settled for good: whatever is put behind the two texts
does not matter. Numbers written with a fixed number of digits are compared in
this way, and when the letters that differ are ASCII so are the bytes of a text.
-/

import ByodsServer.Python.DateTime

namespace Python

/-! ## The first difference -/

/-- Both lists go on after their common beginning, the first with an element that
is `r`-related to that of the second. -/
inductive FirstDifference {α : Type} (r : α → α → Prop) : List α → List α → Prop
  | here {a b : α} {first second : List α} (h : r a b) :
      FirstDifference r (a :: first) (b :: second)
  | later {a : α} {first second : List α} :
      FirstDifference r first second → FirstDifference r (a :: first) (a :: second)

namespace FirstDifference

variable {α : Type} {r : α → α → Prop} {first second : List α}

theorem mono {q : α → α → Prop} (hle : ∀ a b, r a b → q a b)
    (h : FirstDifference r first second) : FirstDifference q first second := by
  induction h with
  | here h => exact here (hle _ _ h)
  | later _ ih => exact later ih

theorem cons_iff {a b : α} :
    FirstDifference r (a :: first) (b :: second) ↔
      r a b ∨ a = b ∧ FirstDifference r first second := by
  constructor
  · intro h
    cases h with
    | here h => exact Or.inl h
    | later h => exact Or.inr ⟨rfl, h⟩
  · rintro (h | ⟨rfl, h⟩)
    · exact here h
    · exact later h

theorem not_nil : ¬ FirstDifference r ([] : List α) second := by
  intro h
  cases h

/-- What comes behind does not matter. -/
theorem append (h : FirstDifference r first second) (behind other : List α) :
    FirstDifference r (first ++ behind) (second ++ other) := by
  induction h with
  | here h => exact here h
  | later _ ih => exact later ih

/-- A common beginning does not matter. -/
theorem prepend (front : List α) (h : FirstDifference r first second) :
    FirstDifference r (front ++ first) (front ++ second) := by
  induction front with
  | nil => exact h
  | cons a front ih => exact later ih

theorem lt [LT α] (h : FirstDifference (· < ·) first second) : first < second := by
  induction h with
  | here h => exact List.Lex.rel h
  | later _ ih => exact List.Lex.cons ih

/-- Lists of numbers of one length are the same or differ somewhere. -/
theorem trichotomy {first second : List ℕ} (hlength : first.length = second.length) :
    FirstDifference (· < ·) first second ∨ first = second ∨
      FirstDifference (· < ·) second first := by
  induction first generalizing second with
  | nil => exact Or.inr (Or.inl (List.eq_nil_of_length_eq_zero hlength.symm).symm)
  | cons a first ih =>
      cases second with
      | nil => cases hlength
      | cons b second =>
          rcases Nat.lt_trichotomy a b with hlt | rfl | hgt
          · exact Or.inl (here hlt)
          · rcases ih (Nat.succ.inj hlength) with hlt | rfl | hgt
            · exact Or.inl (later hlt)
            · exact Or.inr (Or.inl rfl)
            · exact Or.inr (Or.inr (later hgt))
          · exact Or.inr (Or.inr (here hgt))

end FirstDifference

/-! ## Letters and bytes -/

/-- The bytes of a text in UTF-8. -/
def utf8 (s : String) : List UInt8 := s.toByteArray.data.toList

theorem utf8_eq (s : String) : utf8 s = s.toList.flatMap String.utf8EncodeChar := by
  rw [utf8, ← String.utf8Encode_toList, List.utf8Encode, List.toList_data_toByteArray]

/-- One letter before another, the second one in ASCII. -/
def AsciiLt (c d : Char) : Prop := c < d ∧ d.toNat < 128

instance (c d : Char) : Decidable (AsciiLt c d) :=
  inferInstanceAs (Decidable (c < d ∧ d.toNat < 128))

theorem utf8EncodeChar_of_ascii {c : Char} (h : c.toNat < 128) :
    String.utf8EncodeChar c = [c.toNat.toUInt8] := by
  have hsize : c.utf8Size = 1 := by
    rw [Char.utf8Size_eq_one_iff]
    exact UInt32.le_iff_toNat_le.mpr (Nat.le_of_lt_succ h)
  rw [String.utf8EncodeChar_eq_singleton hsize]
  rfl

/-- Texts that first differ in ASCII letters are in the order of these, as texts. -/
theorem FirstDifference.lt_string {first second : String}
    (h : FirstDifference AsciiLt first.toList second.toList) : first < second :=
  String.lt_iff.mpr (h.mono fun _ _ hlt => hlt.1).lt

theorem firstDifference_utf8EncodeChar {first second : List Char}
    (h : FirstDifference AsciiLt first second) :
    FirstDifference (· < ·) (first.flatMap String.utf8EncodeChar)
      (second.flatMap String.utf8EncodeChar) := by
  induction h with
  | @here c d rest other hlt =>
      have hd : d.toNat < 128 := hlt.2
      have hcd : c.toNat < d.toNat := hlt.1
      rw [List.flatMap_cons, List.flatMap_cons, utf8EncodeChar_of_ascii hd,
        utf8EncodeChar_of_ascii (Nat.lt_trans hcd hd)]
      apply FirstDifference.here
      rw [UInt8.lt_iff_toNat_lt, Nat.toUInt8_eq, Nat.toUInt8_eq, UInt8.toNat_ofNat',
        UInt8.toNat_ofNat', Nat.mod_eq_of_lt (by omega), Nat.mod_eq_of_lt (by omega)]
      exact hcd
  | later _ ih =>
      rw [List.flatMap_cons, List.flatMap_cons]
      exact ih.prepend _

/-- So they are as bytes. -/
theorem FirstDifference.utf8_lt {first second : String}
    (h : FirstDifference AsciiLt first.toList second.toList) : utf8 first < utf8 second := by
  rw [utf8_eq, utf8_eq]
  exact (firstDifference_utf8EncodeChar h).lt

/-! ## Numbers with a fixed number of digits -/

/-- The last decimal digits of a number. -/
def decimals : ℕ → ℕ → List Char
  | 0, _ => []
  | width + 1, n => decimals width (n / 10) ++ [Nat.digitChar (n % 10)]

theorem decimals_zero (width : ℕ) : decimals width 0 = List.replicate width '0' := by
  induction width with
  | zero => rfl
  | succ width ih => rw [decimals, Nat.zero_div, ih, List.replicate_succ']; rfl

theorem div_ten_lt {width n : ℕ} (h : n < Nat.pow 10 (width + 1)) :
    n / 10 < Nat.pow 10 width := by
  apply Nat.div_lt_of_lt_mul
  rw [Nat.mul_comm]
  exact h

/-- A padded number that fits is written with its last digits. -/
theorem toList_zeroPad {width n : ℕ} (hwidth : 0 < width) (h : n < Nat.pow 10 width) :
    (zeroPad width n).toList = decimals width n := by
  rw [zeroPad, String.toList_ofList]
  induction width generalizing n with
  | zero => exact (Nat.lt_irrefl 0 hwidth).elim
  | succ width ih =>
      rw [decimals]
      by_cases hsmall : n < 10
      · rw [Nat.toDigits_of_lt_base hsmall, Nat.div_eq_of_lt hsmall, Nat.mod_eq_of_lt hsmall,
          decimals_zero]
        rfl
      · have hdiv := div_ten_lt h
        have hpos : 0 < width := by
          rcases Nat.eq_zero_or_pos width with rfl | hpos
          · have hten : n < 10 := h
            omega
          · exact hpos
        rw [Nat.toDigits_of_base_le (by decide) (by omega), List.length_append,
          ← List.append_assoc, ← ih hpos hdiv, List.length_singleton, Nat.add_sub_add_right]

theorem digitChar_asciiLt {m n : ℕ} (h : m < n) (hn : n < 10) :
    AsciiLt (Nat.digitChar m) (Nat.digitChar n) := by
  have hall : ∀ n < 10, ∀ m < n, AsciiLt (Nat.digitChar m) (Nat.digitChar n) := by decide
  exact hall n hn m h

theorem firstDifference_decimals {width m n : ℕ} (h : m < n) (hn : n < Nat.pow 10 width) :
    FirstDifference AsciiLt (decimals width m) (decimals width n) := by
  induction width generalizing m n with
  | zero =>
      have hone : n < 1 := hn
      omega
  | succ width ih =>
      rw [decimals, decimals]
      have hle : m / 10 ≤ n / 10 := Nat.div_le_div_right (Nat.le_of_lt h)
      rcases Nat.lt_or_eq_of_le hle with hlt | heq
      · exact (ih hlt (div_ten_lt hn)).append _ _
      · rw [heq]
        apply FirstDifference.prepend
        apply FirstDifference.here
        exact digitChar_asciiLt (by omega) (Nat.mod_lt n (by decide))

/-- Padded numbers that fit are in the order of the numbers. -/
theorem firstDifference_zeroPad {width m n : ℕ} (h : m < n) (hn : n < Nat.pow 10 width) :
    FirstDifference AsciiLt (zeroPad width m).toList (zeroPad width n).toList := by
  have hwidth : 0 < width := by
    rcases Nat.eq_zero_or_pos width with rfl | hpos
    · have hone : n < 1 := hn
      omega
    · exact hpos
  rw [toList_zeroPad hwidth (Nat.lt_trans h hn), toList_zeroPad hwidth hn]
  exact firstDifference_decimals h hn

/-- A padded number is compared first, and what is behind it when it is the same. -/
theorem firstDifference_field {width m n : ℕ} {behind other : List Char} (hn : n < Nat.pow 10 width)
    (h : m < n ∨ m = n ∧ FirstDifference AsciiLt behind other) :
    FirstDifference AsciiLt ((zeroPad width m).toList ++ behind)
      ((zeroPad width n).toList ++ other) := by
  rcases h with hlt | ⟨rfl, hbehind⟩
  · exact (firstDifference_zeroPad hlt hn).append behind other
  · exact hbehind.prepend _

end Python
