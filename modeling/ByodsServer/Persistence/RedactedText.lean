/-
# What the redaction leaves

A text is free of matches when the token pattern matches at none of its
positions. Redaction makes a text free of matches: a word of the pattern that
stands in the redacted text lies between two replacements and so stood in the
original text. A text that is cut short only loses matches, and a text without
matches is left alone.
-/

import ByodsServer.Persistence.AuditSecrecy

namespace ByodsServer

open Python

/-- `_TOKEN_PATTERN.search(text)` finds nothing. -/
def FreeOfMatches (text : List Char) : Prop :=
  ∀ front rest, text = front ++ rest → afterTokenPattern rest = none

theorem freeOfMatches_nil : FreeOfMatches [] := by
  intro front rest h
  rw [(List.append_eq_nil_iff.mp h.symm).2]
  rfl

/-- One more code point in front: only the match at the new start is to be excluded. -/
theorem FreeOfMatches.cons {c : Char} {text : List Char} (h : FreeOfMatches text)
    (hstart : afterTokenPattern (c :: text) = none) : FreeOfMatches (c :: text) := by
  intro front rest hsplit
  cases front with
  | nil =>
      rw [← hsplit.trans (List.nil_append rest)]
      exact hstart
  | cons first front => exact h front rest (List.cons.inj hsplit).2

theorem FreeOfMatches.start {text : List Char} (h : FreeOfMatches text) :
    afterTokenPattern text = none :=
  h [] text rfl

theorem FreeOfMatches.tail {c : Char} {text : List Char} (h : FreeOfMatches (c :: text)) :
    FreeOfMatches text := by
  intro front rest hsplit
  apply h (c :: front) rest
  rw [hsplit]
  rfl

/-! ## Words of the pattern in a redacted text -/

/-- What the redaction puts in place of a match. -/
def replacement : List Char := "[REDACTED]".toList

/-- A redacted text starts with the replacement or with the start of the text. -/
theorem redact_eq_replacement_or_cons (c : Char) (text : List Char) :
    (∃ rest, redact (c :: text) = '[' :: rest) ∨ redact (c :: text) = c :: redact text := by
  cases hmatch : afterTokenPattern (c :: text) with
  | some rest => exact Or.inl ⟨_, redact_of_match hmatch⟩
  | none => exact Or.inr (redact_of_kept hmatch)

/-- A word of the pattern at the start of a redacted text is no part of a
replacement: it starts the text as well. -/
theorem afterLiteral_redact {literal text rest : List Char}
    (hletters : literal ⊆ patternLetters)
    (h : afterLiteral literal (redact text) = some rest) :
    ∃ original, afterLiteral literal text = some original ∧ rest = redact original := by
  induction literal generalizing text with
  | nil => exact ⟨text, rfl, (Option.some.inj h).symm⟩
  | cons letter letters ih =>
      obtain ⟨hletter, hrest⟩ := List.cons_subset.mp hletters
      cases text with
      | nil => cases h
      | cons c text =>
          rcases redact_eq_replacement_or_cons c text with ⟨after, hstart⟩ | hkept
          · have hbracket : matchesIgnoringCase letter '[' = false := by
              have hall : (patternLetters.all fun letter =>
                  !matchesIgnoringCase letter '[') = true := by decide
              simpa using List.all_eq_true.mp hall letter hletter
            rw [hstart, afterLiteral, if_neg (by simp [hbracket])] at h
            cases h
          · rw [hkept, afterLiteral] at h
            by_cases hc : matchesIgnoringCase letter c = true
            · rw [if_pos hc] at h
              rw [afterLiteral, if_pos hc]
              exact ih hrest h
            · rw [if_neg hc] at h
              cases h

/-! ## White space and the pattern -/

/-- White space is no letter of the pattern, in neither case. -/
theorem not_matchesIgnoringCase_of_isSpace {letter c : Char} (hc : isSpace c = true)
    (hletter : isSpace letter = false) : matchesIgnoringCase letter c = false := by
  have hcode : c.toNat ≤ 32 ∨ 0x85 ≤ c.toNat := by
    simp only [isSpace, Bool.or_eq_true, Bool.and_eq_true, decide_eq_true_eq, beq_iff_eq] at hc
    omega
  have hlower : c.toLower = c := by
    apply dif_neg
    rintro ⟨hfirst, hlast⟩
    have hfirst : 65 ≤ c.toNat := UInt32.le_iff_toNat_le.mp hfirst
    have hlast : c.toNat ≤ 90 := UInt32.le_iff_toNat_le.mp hlast
    omega
  have hne : c ≠ letter := by
    rintro rfl
    exact Bool.false_ne_true (hletter.symm.trans hc)
  have hforeign (code : ℕ) (hcode : isSpace (Char.ofNat code) = false) : c.toNat ≠ code := by
    rintro rfl
    rw [Char.ofNat_toNat, hc] at hcode
    exact Bool.false_ne_true hcode.symm
  have hs : c.toNat ≠ 0x17F := hforeign 0x17F (by decide)
  have hk : c.toNat ≠ 0x212A := hforeign 0x212A (by decide)
  simp [matchesIgnoringCase, hlower, hne, hs, hk]

/-- No match starts with white space. -/
theorem afterTokenPattern_of_isSpace {c : Char} (hc : isSpace c = true) (text : List Char) :
    afterTokenPattern (c :: text) = none := by
  have hliteral (letter : Char) (letters : List Char) (hletter : isSpace letter = false) :
      afterLiteral (letter :: letters) (c :: text) = none := by
    rw [afterLiteral, if_neg]
    simp [not_matchesIgnoringCase_of_isSpace hc hletter]
  have haccess : afterLiteral "access_token".toList (c :: text) = none := hliteral 'a' _ rfl
  have hrefresh : afterLiteral "refresh_token".toList (c :: text) = none := hliteral 'r' _ rfl
  have hbearer : afterLiteral "bearer".toList (c :: text) = none := hliteral 'b' _ rfl
  rw [afterTokenPattern, haccess, hrefresh, afterBearer_eq, hbearer]
  rfl

/-- White space stays where it is. -/
theorem redact_of_isSpace {c : Char} (hc : isSpace c = true) (text : List Char) :
    redact (c :: text) = c :: redact text :=
  redact_of_kept (afterTokenPattern_of_isSpace hc text)

theorem dropWhile_isSpace_redact (text : List Char) :
    (redact text).dropWhile isSpace = redact (text.dropWhile isSpace) := by
  induction text with
  | nil => rfl
  | cons c text ih =>
      by_cases hc : isSpace c = true
      · rw [redact_of_isSpace hc, List.dropWhile_cons_of_pos hc, List.dropWhile_cons_of_pos hc, ih]
      · rw [List.dropWhile_cons_of_neg hc]
        rcases redact_eq_replacement_or_cons c text with ⟨after, hstart⟩ | hkept
        · rw [hstart, List.dropWhile_cons_of_neg (by decide)]
        · rw [hkept, List.dropWhile_cons_of_neg hc]

/-- There is a spaced token at the start exactly when some white space comes first
and something else behind it. -/
theorem afterSpacedToken_isSome_iff (text : List Char) :
    (afterSpacedToken text).isSome ↔
      text.head?.any isSpace = true ∧ text.dropWhile isSpace ≠ [] := by
  constructor
  · intro h
    by_cases hspace : text.head?.any isSpace = true
    · refine ⟨hspace, ?_⟩
      intro hnil
      simp [afterSpacedToken, hnil] at h
    · rw [afterSpacedToken_of_not_space (by simpa using hspace)] at h
      cases h
  · rintro ⟨hspace, hne⟩
    rw [afterSpacedToken_of_space hspace hne]
    rfl

/-- A spaced token of a redacted text is one of the text, perhaps a longer one. -/
theorem afterSpacedToken_redact {text : List Char} (h : (afterSpacedToken (redact text)).isSome) :
    (afterSpacedToken text).isSome := by
  rw [afterSpacedToken_isSome_iff] at h ⊢
  obtain ⟨hspace, hne⟩ := h
  cases text with
  | nil => cases hspace
  | cons c text =>
      constructor
      · rcases redact_eq_replacement_or_cons c text with ⟨after, hstart⟩ | hkept
        · rw [hstart] at hspace
          cases hspace
        · rw [hkept] at hspace
          exact hspace
      · intro hnil
        rw [dropWhile_isSpace_redact, hnil] at hne
        exact hne rfl

/-! ## No match in a redacted text -/

/-- The pattern matches at the start as soon as one of its alternatives does. -/
theorem afterTokenPattern_isSome_iff (text : List Char) :
    (afterTokenPattern text).isSome ↔
      (afterLiteral "access_token".toList text).isSome ∨
        (afterLiteral "refresh_token".toList text).isSome ∨
          ∃ rest, afterLiteral "bearer".toList text = some rest ∧
            (afterSpacedToken rest).isSome := by
  rw [afterTokenPattern, Option.isSome_or, Option.isSome_or, afterBearer_eq]
  cases afterLiteral "bearer".toList text with
  | none => simp
  | some rest => simp

/-- No match starts inside a replacement, whatever follows it. -/
theorem FreeOfMatches.replacement_append {text : List Char} (h : FreeOfMatches text) :
    FreeOfMatches (replacement ++ text) := by
  show FreeOfMatches ('[' :: 'R' :: 'E' :: 'D' :: 'A' :: 'C' :: 'T' :: 'E' :: 'D' :: ']' :: text)
  iterate 10 refine FreeOfMatches.cons ?_ rfl
  exact h

/-- A match at a kept code point would have been one before. -/
theorem afterTokenPattern_kept {c : Char} {text : List Char}
    (h : afterTokenPattern (c :: text) = none) :
    afterTokenPattern (c :: redact text) = none := by
  rw [← Option.not_isSome_iff_eq_none, afterTokenPattern_isSome_iff] at h ⊢
  rw [← redact_of_kept (by rwa [← Option.not_isSome_iff_eq_none, afterTokenPattern_isSome_iff])]
  intro hmatch
  apply h
  have hword {literal : List Char} (hletters : literal ⊆ patternLetters)
      (hredacted : (afterLiteral literal (redact (c :: text))).isSome) :
      (afterLiteral literal (c :: text)).isSome := by
    obtain ⟨rest, hrest⟩ := Option.isSome_iff_exists.mp hredacted
    obtain ⟨original, horiginal, -⟩ := afterLiteral_redact hletters hrest
    rw [horiginal]
    rfl
  rcases hmatch with haccess | hrefresh | ⟨rest, hbearer, htoken⟩
  · exact Or.inl (hword (by decide) haccess)
  · exact Or.inr (Or.inl (hword (by decide) hrefresh))
  · obtain ⟨original, horiginal, rfl⟩ := afterLiteral_redact (by decide) hbearer
    exact Or.inr (Or.inr ⟨original, horiginal, afterSpacedToken_redact htoken⟩)

/-- Redaction leaves no match, nor does the replacement make one with its neighbours. -/
theorem freeOfMatches_redact (text : List Char) : FreeOfMatches (redact text) := by
  induction text using scan_induction with
  | nil => exact freeOfMatches_nil
  | matched c text rest hmatch ih =>
      rw [redact_of_match hmatch]
      exact ih.replacement_append
  | kept c text hmatch ih =>
      rw [redact_of_kept hmatch]
      exact ih.cons (afterTokenPattern_kept hmatch)

/-! ## Cutting short and redacting again -/

theorem afterLiteral_append_of_some {literal text rest : List Char}
    (h : afterLiteral literal text = some rest) (next : List Char) :
    afterLiteral literal (text ++ next) = some (rest ++ next) := by
  induction literal generalizing text with
  | nil =>
      rw [Option.some.inj h]
      rfl
  | cons letter letters ih =>
      cases text with
      | nil => cases h
      | cons c text =>
          rw [afterLiteral] at h
          split_ifs at h with hc
          rw [List.cons_append, afterLiteral, if_pos hc]
          exact ih h

theorem afterSpacedToken_isSome_append {text : List Char} (h : (afterSpacedToken text).isSome)
    (next : List Char) : (afterSpacedToken (text ++ next)).isSome := by
  rw [afterSpacedToken_isSome_iff] at h ⊢
  refine ⟨head?_append_any_isSpace h.1 next, ?_⟩
  rw [List.dropWhile_append, if_neg (by simpa using h.2)]
  exact List.append_ne_nil_of_left_ne_nil h.2 next

/-- A match in a text is one in every longer text. -/
theorem afterTokenPattern_isSome_append {text : List Char} (h : (afterTokenPattern text).isSome)
    (next : List Char) : (afterTokenPattern (text ++ next)).isSome := by
  rw [afterTokenPattern_isSome_iff] at h ⊢
  have hword {literal : List Char} (hliteral : (afterLiteral literal text).isSome) :
      (afterLiteral literal (text ++ next)).isSome := by
    obtain ⟨rest, hrest⟩ := Option.isSome_iff_exists.mp hliteral
    rw [afterLiteral_append_of_some hrest]
    rfl
  rcases h with haccess | hrefresh | ⟨rest, hbearer, htoken⟩
  · exact Or.inl (hword haccess)
  · exact Or.inr (Or.inl (hword hrefresh))
  · exact Or.inr (Or.inr ⟨rest ++ next, afterLiteral_append_of_some hbearer next,
      afterSpacedToken_isSome_append htoken next⟩)

/-- Cutting a text short makes no match. -/
theorem FreeOfMatches.take {text : List Char} (h : FreeOfMatches text) (length : ℕ) :
    FreeOfMatches (text.take length) := by
  intro front rest hsplit
  rw [← Option.not_isSome_iff_eq_none]
  intro hmatch
  have hlonger := afterTokenPattern_isSome_append hmatch (text.drop length)
  rw [h front (rest ++ text.drop length)] at hlonger
  · cases hlonger
  · rw [← List.append_assoc, ← hsplit, List.take_append_drop]

/-- A text without matches is left alone. -/
theorem FreeOfMatches.redact_eq {text : List Char} (h : FreeOfMatches text) :
    redact text = text := by
  induction text with
  | nil => rfl
  | cons c text ih => rw [redact_of_kept h.start, ih h.tail]

/-- Something is left of every text that is not empty. -/
theorem redact_ne_nil {text : List Char} (h : text ≠ []) : redact text ≠ [] := by
  cases text with
  | nil => exact (h rfl).elim
  | cons c text =>
      rcases redact_eq_replacement_or_cons c text with ⟨rest, hstart⟩ | hkept
      · rw [hstart]
        exact List.cons_ne_nil _ _
      · rw [hkept]
        exact List.cons_ne_nil _ _

/-- A stored detail has no match of the pattern, has at most 500 code points and is
not changed by a second `sanitize_detail`; neither is there a match in the redacted
text before it is cut. -/
theorem sanitizeDetail_leaves_no_match (detail : String) (h : detail ≠ "") :
    FreeOfMatches (redactFrom detail.toList.length detail.toList) ∧
      ∃ stored, sanitizeDetail (some detail) = some stored ∧ FreeOfMatches stored.toList ∧
        stored.length ≤ 500 ∧ sanitizeDetail (some stored) = some stored := by
  have hfree : FreeOfMatches (redact detail.toList) := freeOfMatches_redact detail.toList
  have hcut : FreeOfMatches ((redact detail.toList).take 500) := hfree.take 500
  have hne : (redact detail.toList).take 500 ≠ [] := by
    have hdetail : detail.toList ≠ [] := by rwa [ne_eq, String.toList_eq_nil_iff]
    simpa using redact_ne_nil hdetail
  refine ⟨hfree, _, sanitizeDetail_of_ne h, ?_, ?_, ?_⟩
  · rw [String.toList_ofList]
    exact hcut
  · rw [String.length_ofList]
    exact List.length_take_le _ _
  · rw [sanitizeDetail_of_ne, String.toList_ofList, hcut.redact_eq, List.take_take, min_self]
    rw [ne_eq, ← String.toList_eq_nil_iff, String.toList_ofList]
    exact hne

/-- The token of a `Bearer` match may itself be a word of the pattern. -/
theorem sanitizeDetail_leaves_no_match_bearer :
    "Bearer access_token x" ≠ "" ∧
      ∃ stored, sanitizeDetail (some "Bearer access_token x") = some stored ∧
        FreeOfMatches stored.toList ∧ stored.length ≤ 500 ∧
          sanitizeDetail (some stored) = some stored :=
  ⟨by decide, (sanitizeDetail_leaves_no_match "Bearer access_token x" (by decide)).2⟩

end ByodsServer
