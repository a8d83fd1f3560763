/-
# What a stored detail tells about a token

The redaction takes the labels `access_token` and `refresh_token` out of a detail
and leaves what follows them; only a `Bearer\s+\S+` match takes the value along.
So a detail does not depend on a token value exactly when the value stands where
such a match is still open, or past the part of the detail that is stored.
-/

import ByodsServer.Persistence.AuditRepository

namespace ByodsServer

open Python

/-! ## Scanning with the pattern -/

/-- The text after `\s+\S+`. -/
def afterSpacedToken (text : List Char) : Option (List Char) :=
  let afterSpace := text.dropWhile isSpace
  let afterToken := afterSpace.dropWhile fun c => !isSpace c
  if afterSpace.length < text.length ∧ afterToken.length < afterSpace.length then
    some afterToken
  else none

theorem afterBearer_eq (text : List Char) :
    afterBearer text = (afterLiteral "bearer".toList text).bind afterSpacedToken := rfl

/-- `_TOKEN_PATTERN.sub("[REDACTED]", text)`. -/
def redact (text : List Char) : List Char := redactFrom text.length text

theorem afterLiteral_eq_some {literal text rest : List Char}
    (h : afterLiteral literal text = some rest) :
    rest <:+ text ∧ text.length = literal.length + rest.length := by
  induction literal generalizing text with
  | nil =>
      obtain rfl : text = rest := Option.some.inj h
      exact ⟨List.suffix_rfl, by simp⟩
  | cons letter letters ih =>
      cases text with
      | nil => cases h
      | cons c text =>
          rw [afterLiteral] at h
          split_ifs at h
          obtain ⟨hsuffix, hlength⟩ := ih h
          exact ⟨hsuffix.trans (List.suffix_cons c text), by simp; omega⟩

theorem afterSpacedToken_eq_some {text rest : List Char}
    (h : afterSpacedToken text = some rest) : rest <:+ text := by
  simp only [afterSpacedToken, Option.ite_none_right_eq_some, Option.some.injEq] at h
  rw [← h.2]
  exact (List.dropWhile_suffix _).trans (List.dropWhile_suffix _)

/-- A match takes something off the front. -/
theorem afterTokenPattern_eq_some {text rest : List Char}
    (h : afterTokenPattern text = some rest) : rest <:+ text ∧ rest.length < text.length := by
  have hliteral {literal : List Char} (hne : literal ≠ [])
      (hmatch : afterLiteral literal text = some rest) :
      rest <:+ text ∧ rest.length < text.length := by
    obtain ⟨hsuffix, hlength⟩ := afterLiteral_eq_some hmatch
    have hpos := List.length_pos_iff.mpr hne
    exact ⟨hsuffix, by omega⟩
  simp only [afterTokenPattern, Option.or_eq_some_iff, afterBearer_eq, Option.bind_eq_some_iff] at h
  rcases h with haccess | ⟨-, hrefresh | ⟨-, afterWord, hword, htoken⟩⟩
  · exact hliteral (by decide) haccess
  · exact hliteral (by decide) hrefresh
  · obtain ⟨hsuffix, hlength⟩ := afterLiteral_eq_some hword
    have hrest := afterSpacedToken_eq_some htoken
    have hle := hrest.length_le
    have hbearer : "bearer".toList.length = 6 := rfl
    exact ⟨hrest.trans hsuffix, by omega⟩

/-- What holds of a text holds by following the scan: nothing left, a match, or a
code point that is kept. -/
theorem scan_induction {motive : List Char → Prop} (nil : motive [])
    (matched : ∀ c text rest, afterTokenPattern (c :: text) = some rest → motive rest →
      motive (c :: text))
    (kept : ∀ c text, afterTokenPattern (c :: text) = none → motive text → motive (c :: text))
    (text : List Char) : motive text := by
  induction hlength : text.length using Nat.strong_induction_on generalizing text with
  | h length ih =>
      subst hlength
      cases text with
      | nil => exact nil
      | cons c text =>
          cases hmatch : afterTokenPattern (c :: text) with
          | some rest =>
              exact matched c text rest hmatch
                (ih rest.length (afterTokenPattern_eq_some hmatch).2 rest rfl)
          | none => exact kept c text hmatch (ih text.length (by simp) text rfl)

theorem redactFrom_cons (fuel : ℕ) (c : Char) (text : List Char) :
    redactFrom (fuel + 1) (c :: text) =
      match afterTokenPattern (c :: text) with
      | some rest => "[REDACTED]".toList ++ redactFrom fuel rest
      | none => c :: redactFrom fuel text := rfl

theorem redactFrom_eq (text : List Char) : ∀ fuel, text.length ≤ fuel →
    redactFrom fuel text = redact text := by
  have hfuels (first second : ℕ) (hfirst : text.length ≤ first) (hsecond : text.length ≤ second) :
      redactFrom first text = redactFrom second text := by
    induction text using scan_induction generalizing first second with
    | nil => cases first <;> cases second <;> rfl
    | matched c text rest hmatch ih =>
        have hlt := (afterTokenPattern_eq_some hmatch).2
        obtain ⟨first, rfl⟩ := Nat.exists_eq_succ_of_ne_zero (Nat.ne_zero_of_lt hfirst)
        obtain ⟨second, rfl⟩ := Nat.exists_eq_succ_of_ne_zero (Nat.ne_zero_of_lt hsecond)
        simp only [Nat.succ_eq_add_one, redactFrom_cons, hmatch]
        rw [ih first second (by simp at *; omega) (by simp at *; omega)]
    | kept c text hmatch ih =>
        obtain ⟨first, rfl⟩ := Nat.exists_eq_succ_of_ne_zero (Nat.ne_zero_of_lt hfirst)
        obtain ⟨second, rfl⟩ := Nat.exists_eq_succ_of_ne_zero (Nat.ne_zero_of_lt hsecond)
        simp only [Nat.succ_eq_add_one, redactFrom_cons, hmatch]
        rw [ih first second (by simpa using hfirst) (by simpa using hsecond)]
  exact fun fuel hfuel => hfuels fuel text.length hfuel le_rfl

theorem redact_of_match {text rest : List Char} (h : afterTokenPattern text = some rest) :
    redact text = "[REDACTED]".toList ++ redact rest := by
  have hlt := (afterTokenPattern_eq_some h).2
  cases text with
  | nil => simp at hlt
  | cons c text =>
      simp only [redact, List.length_cons, redactFrom_cons, h]
      rw [redactFrom_eq rest text.length (by simpa [Nat.lt_succ_iff] using hlt), redact]

theorem redact_of_kept {c : Char} {text : List Char}
    (h : afterTokenPattern (c :: text) = none) : redact (c :: text) = c :: redact text := by
  simp only [redact, List.length_cons, redactFrom_cons, h]

/-! ## A match that is still open -/

/-- White space, and then nothing but a token to the end. -/
def opensToken (text : List Char) : Bool :=
  text.head?.any isSpace && (text.dropWhile isSpace).all fun c => !isSpace c

/-- The start of a `Bearer\s+\S+` match that whatever follows the text belongs to. -/
def opensBearer (text : List Char) : Bool :=
  (afterLiteral "bearer".toList text).any opensToken

/-- Scanned from the left, the text ends inside a `Bearer\s+\S+` match, or where
the token of one would begin. -/
inductive EndsInBearer : List Char → Prop
  | opens {text : List Char} (h : opensBearer text = true) : EndsInBearer text
  | afterMatch {text rest : List Char} (h : afterTokenPattern text = some rest) :
      EndsInBearer rest → EndsInBearer text
  | afterKept {c : Char} {text : List Char} (h : afterTokenPattern (c :: text) = none) :
      EndsInBearer text → EndsInBearer (c :: text)

/-- The letters of the pattern. -/
def patternLetters : List Char :=
  "access_token".toList ++ "refresh_token".toList ++ "bearer".toList

/-- The last code point is no letter of the pattern, so none of its words goes on
past the end. -/
def EndsOutsideWords (text : List Char) : Prop :=
  ∀ c ∈ text.getLast?, ∀ letter ∈ patternLetters, matchesIgnoringCase letter c = false

theorem EndsOutsideWords.of_suffix {text rest : List Char} (h : EndsOutsideWords text)
    (hsuffix : rest <:+ text) : EndsOutsideWords rest := by
  obtain ⟨front, rfl⟩ := hsuffix
  intro c hc
  apply h c
  rw [List.getLast?_append, Option.mem_def.mp hc]
  rfl

/-- A word of the pattern is found before the end or not at all. -/
theorem afterLiteral_append {literal text : List Char} (hne : text ≠ [])
    (hletters : literal ⊆ patternLetters) (hends : EndsOutsideWords text) (next : List Char) :
    afterLiteral literal (text ++ next) = (afterLiteral literal text).map (· ++ next) := by
  induction literal generalizing text with
  | nil => rfl
  | cons letter letters ih =>
      obtain ⟨hletter, hrest⟩ := List.cons_subset.mp hletters
      cases text with
      | nil => exact (hne rfl).elim
      | cons c text =>
          rw [List.cons_append, afterLiteral, afterLiteral]
          by_cases hc : matchesIgnoringCase letter c = true
          · rw [if_pos hc, if_pos hc]
            apply ih _ hrest (hends.of_suffix (List.suffix_cons c text))
            rintro rfl
            exact absurd (hends c rfl letter hletter) (by simp [hc])
          · rw [if_neg hc, if_neg hc]
            rfl

/-- Something begins that is not white space. -/
def StartsToken (next : List Char) : Prop := ∃ c rest, next = c :: rest ∧ isSpace c = false

theorem StartsToken.append {value : List Char} (h : StartsToken value) (rest : List Char) :
    StartsToken (value ++ rest) := by
  obtain ⟨c, tail, rfl, hc⟩ := h
  exact ⟨c, tail ++ rest, rfl, hc⟩

theorem StartsToken.ne_nil {next : List Char} (h : StartsToken next) : next ≠ [] := by
  obtain ⟨c, rest, rfl, -⟩ := h
  exact List.cons_ne_nil c rest

theorem StartsToken.dropWhile_append {next : List Char} (h : StartsToken next)
    (text : List Char) : (text ++ next).dropWhile isSpace = text.dropWhile isSpace ++ next := by
  obtain ⟨c, rest, rfl, hc⟩ := h
  rw [List.dropWhile_append]
  split_ifs with hempty
  · rw [List.isEmpty_iff.mp hempty, List.dropWhile_cons_of_neg (by simp [hc])]
    rfl
  · rfl

theorem head?_append_any_isSpace {text : List Char} (h : text.head?.any isSpace = true)
    (next : List Char) : (text ++ next).head?.any isSpace = true := by
  cases text with
  | nil => cases h
  | cons c text => exact h

theorem afterSpacedToken_of_not_space {text : List Char} (h : text.head?.any isSpace = false) :
    afterSpacedToken text = none := by
  cases text with
  | nil => rfl
  | cons c text =>
      have hc : isSpace c = false := by simpa using h
      simp [afterSpacedToken, List.dropWhile_cons_of_neg, hc]

/-- After some white space the next token is taken off, if there is one. -/
theorem afterSpacedToken_of_space {text : List Char} (h : text.head?.any isSpace = true)
    (hne : text.dropWhile isSpace ≠ []) :
    afterSpacedToken text =
      some ((text.dropWhile isSpace).dropWhile fun c => !isSpace c) := by
  have hspace : (text.dropWhile isSpace).length < text.length := by
    cases text with
    | nil => cases h
    | cons c text =>
        have hc : isSpace c = true := by simpa using h
        rw [List.dropWhile_cons_of_pos hc]
        exact Nat.lt_succ_of_le (List.dropWhile_suffix _).length_le
  have htoken : ((text.dropWhile isSpace).dropWhile fun c => !isSpace c).length <
      (text.dropWhile isSpace).length := by
    have hhead := List.head_dropWhile_not isSpace hne
    cases hafter : text.dropWhile isSpace with
    | nil => exact (hne hafter).elim
    | cons c rest =>
        have hc : isSpace c = false := by simpa [hafter] using hhead
        rw [List.dropWhile_cons_of_pos (by simp [hc])]
        exact Nat.lt_succ_of_le (List.dropWhile_suffix _).length_le
  exact if_pos ⟨hspace, htoken⟩

/-- A token that is not open ends where it would end without what follows. -/
theorem afterSpacedToken_append {text next : List Char} (h : opensToken text = false)
    (hnext : StartsToken next) :
    afterSpacedToken (text ++ next) = (afterSpacedToken text).map (· ++ next) := by
  by_cases hspace : text.head?.any isSpace = true
  · have hclosed : ¬ ∀ c ∈ text.dropWhile isSpace, (!isSpace c) = true := by
      simpa [opensToken, hspace] using h
    have hne : text.dropWhile isSpace ≠ [] := fun hnil => hclosed (by simp [hnil])
    rw [afterSpacedToken_of_space hspace hne,
      afterSpacedToken_of_space (head?_append_any_isSpace hspace next), hnext.dropWhile_append,
      List.dropWhile_append, if_neg]
    · rfl
    · exact fun hempty => hclosed (List.dropWhile_eq_nil_iff.mp (List.isEmpty_iff.mp hempty))
    · rw [hnext.dropWhile_append]
      exact List.append_ne_nil_of_left_ne_nil hne next
  · have hnone : text.head?.any isSpace = false := by simpa using hspace
    rw [afterSpacedToken_of_not_space hnone, afterSpacedToken_of_not_space]
    · rfl
    · obtain ⟨c, rest, rfl, hc⟩ := hnext
      cases text with
      | nil => simpa using hc
      | cons c text => exact hnone

/-- An open token goes on through the value that follows. -/
theorem afterSpacedToken_append_value {text value : List Char} (h : opensToken text = true)
    (hvalue : StartsToken value) (htoken : ∀ c ∈ value, isSpace c = false) (rest : List Char) :
    afterSpacedToken (text ++ (value ++ rest)) = some (rest.dropWhile fun c => !isSpace c) := by
  obtain ⟨hspace, hopen⟩ := Bool.and_eq_true_iff.mp h
  have hnext := hvalue.append rest
  have hafter := hnext.dropWhile_append text
  have hne : (text ++ (value ++ rest)).dropWhile isSpace ≠ [] := by
    rw [hafter]
    exact List.append_ne_nil_of_right_ne_nil _ hnext.ne_nil
  rw [afterSpacedToken_of_space (head?_append_any_isSpace hspace _) hne, hafter,
    List.dropWhile_append_of_pos (by simpa using hopen),
    List.dropWhile_append_of_pos (by simpa using htoken)]

/-- Only two letters have a form outside ASCII. -/
theorem toLower_of_matchesIgnoringCase {letter c : Char} (h : matchesIgnoringCase letter c = true)
    (hs : letter ≠ 's') (hk : letter ≠ 'k') : c.toLower = letter := by
  simpa [matchesIgnoringCase, hs, hk] using h

theorem not_afterLiteral_of_opensBearer {text : List Char} (h : opensBearer text = true)
    {literal : List Char} (hhead : literal.head? = some 'a' ∨ literal.head? = some 'r')
    (next : List Char) : afterLiteral literal (text ++ next) = none := by
  obtain ⟨afterWord, hword, -⟩ := (Option.any_eq_true _ _).mp h
  cases text with
  | nil => cases hword
  | cons c text =>
      have hb : c.toLower = 'b' := by
        have hmatch : matchesIgnoringCase 'b' c = true := by
          by_contra hne
          simp [afterLiteral, hne] at hword
        exact toLower_of_matchesIgnoringCase hmatch (by decide) (by decide)
      cases literal with
      | nil => simp at hhead
      | cons letter letters =>
          rw [List.cons_append, afterLiteral, if_neg]
          intro hmatch
          rcases hhead with hletter | hletter
          · obtain rfl := Option.some.inj hletter
            have ha := toLower_of_matchesIgnoringCase hmatch (by decide) (by decide)
            exact absurd (hb.symm.trans ha) (by decide)
          · obtain rfl := Option.some.inj hletter
            have hr := toLower_of_matchesIgnoringCase hmatch (by decide) (by decide)
            exact absurd (hb.symm.trans hr) (by decide)

/-- Where a `Bearer` match opens, the value belongs to it. -/
theorem afterTokenPattern_append_value {text value : List Char} (h : opensBearer text = true)
    (hends : EndsOutsideWords text) (hvalue : StartsToken value)
    (htoken : ∀ c ∈ value, isSpace c = false) (rest : List Char) :
    afterTokenPattern (text ++ (value ++ rest)) =
      some (rest.dropWhile fun c => !isSpace c) := by
  obtain ⟨afterWord, hword, hopen⟩ := (Option.any_eq_true _ _).mp h
  have hne : text ≠ [] := fun hnil => by simp [hnil, afterLiteral] at hword
  rw [afterTokenPattern, not_afterLiteral_of_opensBearer h (Or.inl rfl),
    not_afterLiteral_of_opensBearer h (Or.inr rfl), afterBearer_eq,
    afterLiteral_append hne (by decide) hends, hword]
  exact afterSpacedToken_append_value hopen hvalue htoken rest

/-- Elsewhere what follows does not matter to a match. -/
theorem afterTokenPattern_append {text next : List Char} (hne : text ≠ [])
    (h : opensBearer text = false) (hends : EndsOutsideWords text) (hnext : StartsToken next) :
    afterTokenPattern (text ++ next) = (afterTokenPattern text).map (· ++ next) := by
  have hbearer : afterBearer (text ++ next) = (afterBearer text).map (· ++ next) := by
    rw [afterBearer_eq, afterBearer_eq, afterLiteral_append hne (by decide) hends]
    cases hword : afterLiteral "bearer".toList text with
    | none => rfl
    | some afterWord =>
        rw [opensBearer, hword] at h
        exact afterSpacedToken_append h hnext
  rw [afterTokenPattern, afterTokenPattern, afterLiteral_append hne (by decide) hends,
    afterLiteral_append hne (by decide) hends, hbearer, Option.map_or, Option.map_or]

/-- A text that does not end in a `Bearer` match is redacted on its own. -/
theorem redact_append {text next : List Char} (h : ¬ EndsInBearer text)
    (hends : EndsOutsideWords text) (hnext : StartsToken next) :
    redact (text ++ next) = redact text ++ redact next := by
  induction text using scan_induction with
  | nil => rfl
  | matched c text rest hmatch ih =>
      have hopen : opensBearer (c :: text) = false := by
        by_contra hopen
        exact h (.opens (by simpa using hopen))
      have happend : afterTokenPattern (c :: text ++ next) = some (rest ++ next) := by
        rw [afterTokenPattern_append (List.cons_ne_nil c text) hopen hends hnext, hmatch]
        rfl
      have hrest := ih (fun hrest => h (.afterMatch hmatch hrest))
        (hends.of_suffix (afterTokenPattern_eq_some hmatch).1)
      rw [redact_of_match happend, redact_of_match hmatch, hrest, List.append_assoc]
  | kept c text hmatch ih =>
      have hopen : opensBearer (c :: text) = false := by
        by_contra hopen
        exact h (.opens (by simpa using hopen))
      have happend : afterTokenPattern (c :: (text ++ next)) = none := by
        rw [← List.cons_append,
          afterTokenPattern_append (List.cons_ne_nil c text) hopen hends hnext, hmatch]
        rfl
      have hrest := ih (fun hrest => h (.afterKept hmatch hrest))
        (hends.of_suffix (List.suffix_cons c text))
      rw [List.cons_append, redact_of_kept happend, redact_of_kept hmatch, hrest]
      rfl

/-- A text that ends in a `Bearer` match takes the value with it. -/
theorem exists_redact_append_value {text : List Char} (h : EndsInBearer text)
    (hends : EndsOutsideWords text) (rest : List Char) :
    ∃ redacted, ∀ value, StartsToken value → (∀ c ∈ value, isSpace c = false) →
      redact (text ++ (value ++ rest)) = redacted := by
  have hopens {text : List Char} (hopen : opensBearer text = true)
      (hends : EndsOutsideWords text) :
      ∃ redacted, ∀ value, StartsToken value → (∀ c ∈ value, isSpace c = false) →
        redact (text ++ (value ++ rest)) = redacted :=
    ⟨_, fun value hvalue htoken =>
      redact_of_match (afterTokenPattern_append_value hopen hends hvalue htoken rest)⟩
  induction h with
  | opens hopen => exact hopens hopen hends
  | @afterMatch text afterMatch hmatch _ ih =>
      by_cases hopen : opensBearer text = true
      · exact hopens hopen hends
      · have hne : text ≠ [] := by
          rintro rfl
          exact absurd (afterTokenPattern_eq_some hmatch).2 (Nat.not_lt_zero _)
        obtain ⟨redacted, hredacted⟩ :=
          ih (hends.of_suffix (afterTokenPattern_eq_some hmatch).1)
        refine ⟨"[REDACTED]".toList ++ redacted, fun value hvalue htoken => ?_⟩
        have happend : afterTokenPattern (text ++ (value ++ rest)) =
            some (afterMatch ++ (value ++ rest)) := by
          rw [afterTokenPattern_append hne (by simpa using hopen) hends (hvalue.append rest),
            hmatch]
          rfl
        rw [redact_of_match happend, hredacted value hvalue htoken]
  | @afterKept c text hmatch _ ih =>
      by_cases hopen : opensBearer (c :: text) = true
      · exact hopens hopen hends
      · obtain ⟨redacted, hredacted⟩ := ih (hends.of_suffix (List.suffix_cons c text))
        refine ⟨c :: redacted, fun value hvalue htoken => ?_⟩
        have happend : afterTokenPattern (c :: (text ++ (value ++ rest))) = none := by
          rw [← List.cons_append, afterTokenPattern_append (List.cons_ne_nil c text)
            (by simpa using hopen) hends (hvalue.append rest), hmatch]
          rfl
        rw [List.cons_append, redact_of_kept happend, hredacted value hvalue htoken]

/-! ## Token values in a detail -/

/-- How much of a stored detail a text takes up: ten code points for a match of the
pattern, one for any other code point. -/
def redactedLength : ℕ → List Char → ℕ
  | 0, text => text.length
  | _ + 1, [] => 0
  | fuel + 1, c :: text =>
      match afterTokenPattern (c :: text) with
      | some rest => 10 + redactedLength fuel rest
      | none => 1 + redactedLength fuel text

theorem length_redactFrom (fuel : ℕ) (text : List Char) :
    (redactFrom fuel text).length = redactedLength fuel text := by
  fun_induction redactFrom fuel text with
  | case1 text => rfl
  | case2 fuel => rfl
  | case3 fuel c text rest hmatch ih =>
      simp only [redactedLength, hmatch, List.length_append, ih]
      rfl
  | case4 fuel c text hmatch ih =>
      simp only [redactedLength, hmatch, List.length_cons, ih, Nat.add_comm]

/-- The labels and words in front of a token value, lower-cased. -/
def tokenMarkers : List String :=
  ["access_token=", "refresh_token=", "\"access_token\": \"", "\"refresh_token\": \"", "bearer "]

/-- A marker, in any letter case. -/
def IsMarker (marker : String) : Prop := lower marker ∈ tokenMarkers

instance : DecidablePred IsMarker := fun marker =>
  inferInstanceAs (Decidable (lower marker ∈ tokenMarkers))

/-- `"` and `'`. -/
def isQuote (c : Char) : Bool := "\"'".toList.contains c

/-- A non-empty run of characters other than white space and quotes. -/
def IsTokenValue (value : String) : Prop :=
  value ≠ "" ∧ ∀ c ∈ value.toList, isSpace c = false ∧ isQuote c = false

instance : DecidablePred IsTokenValue := fun value =>
  decidable_of_iff
    (value ≠ "" ∧ (value.toList.all fun c => !isSpace c && !isQuote c) = true)
    (by simp [IsTokenValue])

/-- Neither the sanitized detail nor what is recorded of an event depends on the
token value between a marker and the rest of a text. -/
def ValueHidden (front marker rest : String) : Prop :=
  ∀ first second : String, IsTokenValue first → IsTokenValue second →
    sanitizeDetail (some (front ++ marker ++ first ++ rest)) =
        sanitizeDetail (some (front ++ marker ++ second ++ rest)) ∧
      ∀ (ttlDays : Int) (now : DateTime) (eventId : String) (event : AuditEvent),
        recordEvent ttlDays now eventId
            { event with detail := some (front ++ marker ++ first ++ rest) } =
          recordEvent ttlDays now eventId
            { event with detail := some (front ++ marker ++ second ++ rest) }

theorem IsTokenValue.startsToken {value : String} (h : IsTokenValue value) :
    StartsToken value.toList := by
  obtain ⟨hne, htoken⟩ := h
  cases hvalue : value.toList with
  | nil => exact (hne (String.toList_eq_nil_iff.mp hvalue)).elim
  | cons c tail =>
      rw [hvalue] at htoken
      exact ⟨c, tail, rfl, (htoken c List.mem_cons_self).1⟩

/-- A marker ends with `=`, a quote or a space. -/
theorem IsMarker.endsOutsideWords {marker : String} (h : IsMarker marker) (front : String) :
    EndsOutsideWords (front ++ marker).toList := by
  have hlast : ∃ c ∈ marker.toList.getLast?, c.toLower ∈ "=\" ".toList := by
    have hall : (tokenMarkers.all fun marker =>
        marker.toList.getLast?.any fun c => "=\" ".toList.contains c) = true := by decide
    have hlower := List.all_eq_true.mp hall _ h
    obtain ⟨c, hc, hcontains⟩ := (Option.any_eq_true _ _).mp hlower
    have hmem := List.contains_iff_mem.mp hcontains
    rw [lower, String.toList_ofList, List.getLast?_map, Option.map_eq_some_iff] at hc
    obtain ⟨last, hlast, rfl⟩ := hc
    exact ⟨last, hlast, hmem⟩
  obtain ⟨c, hc, hmem⟩ := hlast
  intro other hother letter hletter
  rw [String.toList_append, List.getLast?_append, Option.mem_def.mp hc] at hother
  obtain rfl : c = other := Option.some.inj hother
  have hletters (letter : Char) (h : letter ∈ patternLetters) : letter ∉ "=\" ".toList := by
    have hall : (patternLetters.all fun letter => !"=\" ".toList.contains letter) = true := by
      decide
    simpa using List.all_eq_true.mp hall letter h
  rw [matchesIgnoringCase, Bool.or_eq_false_iff, Bool.or_eq_false_iff]
  have hcode (code : ℕ) (hcode : (Char.ofNat code).toLower ∉ "=\" ".toList) : c.toNat ≠ code := by
    rintro rfl
    rw [Char.ofNat_toNat] at hcode
    exact hcode hmem
  refine ⟨⟨?_, ?_⟩, ?_⟩
  · rw [beq_eq_false_iff_ne]
    rintro rfl
    exact hletters _ hletter hmem
  · rw [Bool.and_eq_false_iff]
    exact Or.inr (beq_eq_false_iff_ne.mpr (hcode _ (by decide)))
  · rw [Bool.and_eq_false_iff]
    exact Or.inr (beq_eq_false_iff_ne.mpr (hcode _ (by decide)))

theorem sanitizeDetail_of_ne {detail : String} (hne : detail ≠ "") :
    sanitizeDetail (some detail) = some (String.ofList ((redact detail.toList).take 500)) :=
  if_neg hne

/-- What `record_event` writes depends on the detail only as far as it is sanitized. -/
theorem recordEvent_congr {first second : Option String}
    (h : sanitizeDetail first = sanitizeDetail second) (ttlDays : Int) (now : DateTime)
    (eventId : String) (event : AuditEvent) :
    recordEvent ttlDays now eventId { event with detail := first } =
      recordEvent ttlDays now eventId { event with detail := second } := by
  simp only [recordEvent, auditAttrs, h]

/-- The value is hidden when the stored part of the redacted text does not depend
on it. -/
theorem valueHidden_iff (front marker rest : String) :
    ValueHidden front marker rest ↔
      ∀ first second : String, IsTokenValue first → IsTokenValue second →
        (redact ((front ++ marker).toList ++ (first.toList ++ rest.toList))).take 500 =
          (redact ((front ++ marker).toList ++ (second.toList ++ rest.toList))).take 500 := by
  have hstored {value : String} (hvalue : IsTokenValue value) :
      sanitizeDetail (some (front ++ marker ++ value ++ rest)) = some (String.ofList
        ((redact ((front ++ marker).toList ++ (value.toList ++ rest.toList))).take 500)) := by
    have hne : front ++ marker ++ value ++ rest ≠ "" := by
      intro hempty
      apply hvalue.1
      rw [← String.toList_eq_nil_iff] at hempty ⊢
      simp only [String.toList_append, List.append_eq_nil_iff] at hempty
      exact hempty.1.2
    rw [sanitizeDetail_of_ne hne]
    simp only [String.toList_append, List.append_assoc]
  constructor
  · intro h first second hfirst hsecond
    have hsame := (h first second hfirst hsecond).1
    rw [hstored hfirst, hstored hsecond] at hsame
    exact String.ofList_injective (Option.some.inj hsame)
  · intro h first second hfirst hsecond
    have hsame : sanitizeDetail (some (front ++ marker ++ first ++ rest)) =
        sanitizeDetail (some (front ++ marker ++ second ++ rest)) := by
      rw [hstored hfirst, hstored hsecond, h first second hfirst hsecond]
    exact ⟨hsame, recordEvent_congr hsame⟩

/-- A digit is kept, whatever follows. -/
theorem redact_digit {c : Char} (hc : c = '0' ∨ c = '1') (text : List Char) :
    redact (c :: text) = c :: redact text := by
  apply redact_of_kept
  rcases hc with rfl | rfl
  · rfl
  · rfl

theorem valueHidden_of_endsInBearer {front marker : String} (hmarker : IsMarker marker)
    (h : EndsInBearer (front ++ marker).toList) (rest : String) :
    ValueHidden front marker rest := by
  rw [valueHidden_iff]
  intro first second hfirst hsecond
  obtain ⟨redacted, hredacted⟩ :=
    exists_redact_append_value h (hmarker.endsOutsideWords front) rest.toList
  have hvalue {value : String} (hvalue : IsTokenValue value) :
      redact ((front ++ marker).toList ++ (value.toList ++ rest.toList)) = redacted :=
    hredacted _ hvalue.startsToken fun c hc => (hvalue.2 c hc).1
  rw [hvalue hfirst, hvalue hsecond]

theorem redact_append_value {front marker : String} (hmarker : IsMarker marker)
    (h : ¬ EndsInBearer (front ++ marker).toList) {value : String} (hvalue : IsTokenValue value)
    (rest : String) :
    redact ((front ++ marker).toList ++ (value.toList ++ rest.toList)) =
      redact (front ++ marker).toList ++ redact (value.toList ++ rest.toList) :=
  redact_append h (hmarker.endsOutsideWords front) (hvalue.startsToken.append rest.toList)

theorem valueHidden_of_full {front marker : String} (hmarker : IsMarker marker)
    (hopen : ¬ EndsInBearer (front ++ marker).toList)
    (h : 500 ≤ (redact (front ++ marker).toList).length) (rest : String) :
    ValueHidden front marker rest := by
  rw [valueHidden_iff]
  intro first second hfirst hsecond
  rw [redact_append_value hmarker hopen hfirst, redact_append_value hmarker hopen hsecond,
    List.take_append_of_le_length h, List.take_append_of_le_length h]

/-- Otherwise the first code point of the value is stored, next to what is in front
of it. -/
theorem not_valueHidden {front marker : String} (hmarker : IsMarker marker)
    (hopen : ¬ EndsInBearer (front ++ marker).toList)
    (h : (redact (front ++ marker).toList).length < 500) (rest : String) :
    ¬ ValueHidden front marker rest := by
  rw [valueHidden_iff]
  intro hhidden
  have hzero : IsTokenValue "0" := by decide
  have hone : IsTokenValue "1" := by decide
  have hsame := hhidden "0" "1" hzero hone
  rw [redact_append_value hmarker hopen hzero, redact_append_value hmarker hopen hone] at hsame
  have hfirst {c : Char} (hc : c = '0' ∨ c = '1') :
      ((redact (front ++ marker).toList ++ redact (c :: rest.toList)).take 500)[
        (redact (front ++ marker).toList).length]? = some c := by
    rw [List.getElem?_take_of_lt h, List.getElem?_append_right le_rfl, redact_digit hc]
    simp
  have hstored := congrArg (·[(redact (front ++ marker).toList).length]?) hsame
  have hchars : some '0' = some '1' := by
    rw [← hfirst (Or.inl rfl), ← hfirst (Or.inr rfl)]
    exact hstored
  exact absurd hchars (by decide)

/-- A stored detail does not depend on the token value behind a marker exactly when
the marker ends in a `Bearer` match, or what is in front of the value takes up all
that is stored. -/
theorem valueHidden_iff_endsInBearer_or_full {marker : String} (hmarker : IsMarker marker)
    (front rest : String) :
    ValueHidden front marker rest ↔
      EndsInBearer (front ++ marker).toList ∨
        500 ≤ redactedLength (front ++ marker).toList.length (front ++ marker).toList := by
  rw [← length_redactFrom]
  constructor
  · intro h
    by_contra hshown
    obtain ⟨hopen, hshort⟩ := not_or.mp hshown
    exact not_valueHidden hmarker hopen (not_le.mp hshort) rest h
  · intro h
    by_cases hopen : EndsInBearer (front ++ marker).toList
    · exact valueHidden_of_endsInBearer hmarker hopen rest
    · exact valueHidden_of_full hmarker hopen (h.resolve_left hopen) rest

/-- The value of an `Authorization` header is hidden. -/
theorem valueHidden_bearer : ValueHidden "401 for " "BEARER " ", retrying" :=
  (valueHidden_iff_endsInBearer_or_full (by decide) _ _).mpr (Or.inl
    (.afterKept rfl (.afterKept rfl (.afterKept rfl (.afterKept rfl (.afterKept rfl
      (.afterKept rfl (.afterKept rfl (.afterKept rfl (.opens rfl))))))))))

/-- The label of an access token is taken out, and its value stays. -/
theorem access_token_not_hidden :
    IsMarker "access_token=" ∧ IsTokenValue "abc" ∧ IsTokenValue "xyz" ∧
      sanitizeDetail (some ("" ++ "access_token=" ++ "abc" ++ "")) = some "[REDACTED]=abc" ∧
      ¬ ValueHidden "" "access_token=" "" := by
  have habc : IsTokenValue "abc" := by decide
  have hxyz : IsTokenValue "xyz" := by decide
  refine ⟨by decide, habc, hxyz, by decide, fun hhidden => ?_⟩
  have hsame := (hhidden "abc" "xyz" habc hxyz).1
  revert hsame
  decide

end ByodsServer
