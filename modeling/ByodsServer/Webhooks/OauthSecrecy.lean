/-
# What the pages of the OAuth callback tell

A page depends on the error parameters, on whether there is a code and on how
the steps come out, not on the code, the tokens or the texts of exceptions; and
what a page says of its request is escaped, so it adds no markup.
-/

import ByodsServer.Webhooks.OauthCallback

namespace ByodsServer

open Effects Python

/-! ## Runs that look alike -/

namespace PyException

/-- The class of an exception: the exception without its texts. -/
def classOf : PyException → PyException
  | catalogLoadError _ => catalogLoadError ""
  | catalogRepositoryError _ => catalogRepositoryError ""
  | encryptionError _ => encryptionError ""
  | invalidToken => invalidToken
  | duplicateDataSourceURLError _ => duplicateDataSourceURLError ""
  | orgNotRegisteredError _ => orgNotRegisteredError ""
  | notFoundError _ => notFoundError ""
  | authenticationError _ => authenticationError ""
  | validationError _ => validationError ""
  | httpException _ _ => httpException 0 ""
  | jsonDecodeError _ => jsonDecodeError ""
  | unicodeDecodeError _ => unicodeDecodeError ""
  | unicodeEncodeError _ => unicodeEncodeError ""
  | valueError _ => valueError ""
  | keyError _ => keyError ""
  | typeError _ => typeError ""
  | attributeError _ => attributeError ""
  | runtimeError _ => runtimeError ""
  | clientError _ => clientError ""
  | botoCoreError _ => botoCoreError ""
  | osError _ => osError ""
  | other className _ => other className ""

theorem isAuthenticationError_classOf (e : PyException) :
    e.classOf.isAuthenticationError = e.isAuthenticationError := by
  cases e <;> rfl

theorem isAuthenticationError_congr {e e' : PyException} (h : e.classOf = e'.classOf) :
    e.isAuthenticationError = e'.isAuthenticationError := by
  rw [← e.isAuthenticationError_classOf, h, e'.isAuthenticationError_classOf]

end PyException

/-- Both succeed, with related values, or both raise an exception of one class. -/
def AlikeUpTo {α : Type} (related : α → α → Prop) :
    Except PyException α → Except PyException α → Prop
  | .ok value, .ok other => related value other
  | .error e, .error e' => e.classOf = e'.classOf
  | _, _ => False

/-- Both succeed or both raise an exception of one class. -/
def Alike {α : Type} : Except PyException α → Except PyException α → Prop :=
  AlikeUpTo fun _ _ => True

theorem AlikeUpTo.cases {α : Type} {related : α → α → Prop} {first second : Except PyException α}
    (h : AlikeUpTo related first second) :
    (∃ value other, first = .ok value ∧ second = .ok other ∧ related value other) ∨
      ∃ e e', first = .error e ∧ second = .error e' ∧ e.classOf = e'.classOf := by
  cases first with
  | ok value =>
      cases second with
      | ok other => exact Or.inl ⟨value, other, rfl, rfl, h⟩
      | error e => exact h.elim
  | error e =>
      cases second with
      | ok other => exact h.elim
      | error e' => exact Or.inr ⟨e, e', rfl, rfl, h⟩

theorem alikeUpTo_self (result : Except PyException HtmlResponse) :
    AlikeUpTo (· = ·) result result := by
  cases result <;> exact rfl

/-- The steps come out alike, as far as they are taken. -/
structure AlikeOutcomes (first second : StepOutcomes) : Prop where
  exchange : Alike first.exchange second.exchange
  persist : first.exchange.isOk → Alike first.persist second.persist
  ensure : first.exchange.isOk → first.persist.isOk → Alike first.ensure second.ensure

/-- The queries differ in nothing but the code, which both have or both lack, and in
parameters the handler does not read. -/
structure AgreeButForCode (first second : QueryParams) : Prop where
  error : first.get? "error" = second.get? "error"
  errorDescription : first.get? "error_description" = second.get? "error_description"
  state : first.get? "state" = second.get? "state"
  code : textOrEmpty (first.get? "code") = "" ↔ textOrEmpty (second.get? "code") = ""

/-- The page of a callback, or the exception that escapes. -/
def callbackResult (dependencies : OauthDependencies) (environment : Except PyException Settings)
    (query : QueryParams) (outcomes : StepOutcomes) (stored : Option OAuthTokens) :
    Except PyException HtmlResponse :=
  ((handleOauthCallback dependencies environment query).exec outcomes.handler (stored, [])).1

/-! ## The steps -/

/-- The result of the three steps. -/
def StepOutcomes.page (outcomes : StepOutcomes) : Except PyException HtmlResponse :=
  match outcomes.exchange with
  | .error e => if e.isAuthenticationError then .ok codeNotExchanged else .error e
  | .ok _ =>
      match outcomes.persist with
      | .error _ => .ok tokensNotSaved
      | .ok _ =>
          match outcomes.ensure with
          | .error e => if e.isAuthenticationError then .ok webhooksNotEnsured else .error e
          | .ok _ => .ok htmlSuccess

theorem exec_exchangeCode_eq (settings : Settings) (code : String) (outcomes : StepOutcomes)
    (stored : Option OAuthTokens) :
    ((exchangeCode settings code).exec outcomes.handler (stored, [])).1 = outcomes.page := by
  rw [StepOutcomes.page]
  cases hexchange : outcomes.exchange with
  | error e => rw [exec_exchangeCode_error settings stored hexchange]
  | ok tokens =>
      cases hpersist : outcomes.persist with
      | error e => rw [exec_exchangeCode_persist_error settings stored hexchange hpersist]
      | ok done =>
          rw [exec_exchangeCode_persisted settings stored hexchange hpersist]
          cases outcomes.ensure <;> rfl

/-- A caught exception leads to one page, another escapes with its class. -/
theorem alikeUpTo_except {e e' : PyException} (h : e.classOf = e'.classOf) (page : HtmlResponse) :
    AlikeUpTo (· = ·) (if e.isAuthenticationError then Except.ok page else .error e)
      (if e'.isAuthenticationError then .ok page else .error e') := by
  rw [PyException.isAuthenticationError_congr h]
  split_ifs
  · exact rfl
  · exact h

/-- Steps that come out alike lead to one page. -/
theorem AlikeOutcomes.page {first second : StepOutcomes} (h : AlikeOutcomes first second) :
    AlikeUpTo (· = ·) first.page second.page := by
  obtain ⟨hexchange, hpersist, hensure⟩ := h
  rw [StepOutcomes.page, StepOutcomes.page]
  rcases hexchange.cases with ⟨tokens, tokens', hfirst, hsecond, -⟩ | ⟨e, e', hfirst, hsecond, he⟩
  · rw [hfirst] at hpersist hensure ⊢
    rw [hsecond]
    rcases (hpersist rfl).cases with ⟨done, done', hfirst, hsecond, -⟩ | ⟨e, e', hfirst, hsecond, -⟩
    · rw [hfirst] at hensure ⊢
      rw [hsecond]
      rcases (hensure rfl rfl).cases with
        ⟨done, done', hfirst, hsecond, -⟩ | ⟨e, e', hfirst, hsecond, he⟩
      · rw [hfirst, hsecond]
        exact rfl
      · rw [hfirst, hsecond]
        exact alikeUpTo_except he webhooksNotEnsured
    · rw [hfirst, hsecond]
      exact rfl
  · rw [hfirst, hsecond]
    exact alikeUpTo_except he codeNotExchanged

/-! ## The handler -/

/-- The checks before the exchange: the page that refuses the query or the exception
that is raised, if any. -/
def refusal (dependencies : OauthDependencies) (environment : Except PyException Settings)
    (query : QueryParams) : Option (Except PyException HtmlResponse) :=
  let error := textOrEmpty (query.get? "error")
  if error ≠ "" then
    let description := textOrEmpty (textOr (query.get? "error_description") (some error))
    some (.ok (htmlFailure ("Webex reported: " ++ description)))
  else if textOrEmpty (query.get? "code") = "" then
    some (.ok (htmlFailure "Missing authorization code. Restart OAuth from the developer portal."))
  else
    match (do dependencies.getSdk; dependencies.getTokenStorage
              dependencies.getSettings environment) with
    | .error e => some (.error e)
    | .ok _ =>
        if (query.get? "state").any fun state => strip state = "" then
          some (.ok (htmlFailure "Invalid OAuth state parameter."))
        else none

/-- The callback is refused or ends as its steps do. -/
theorem callbackResult_eq (dependencies : OauthDependencies)
    (environment : Except PyException Settings) (query : QueryParams) (outcomes : StepOutcomes)
    (stored : Option OAuthTokens) :
    callbackResult dependencies environment query outcomes stored =
      (refusal dependencies environment query).getD outcomes.page := by
  unfold callbackResult handleOauthCallback refusal
  simp only [Program.ofExcept_eq]
  split_ifs with herror hcode hstate
  · rfl
  · rfl
  · cases dependencies.getSdk with
    | error e => rfl
    | ok sdk =>
        cases dependencies.getTokenStorage with
        | error e => rfl
        | ok storage => cases dependencies.getSettings environment <;> rfl
  · cases dependencies.getSdk with
    | error e => rfl
    | ok sdk =>
        cases dependencies.getTokenStorage with
        | error e => rfl
        | ok storage =>
            cases dependencies.getSettings environment with
            | error e => rfl
            | ok settings => exact exec_exchangeCode_eq settings _ outcomes stored

/-- The refusal does not look at the code, other than whether there is one. -/
theorem AgreeButForCode.refusal {first second : QueryParams} (h : AgreeButForCode first second)
    (dependencies : OauthDependencies) (environment : Except PyException Settings) :
    refusal dependencies environment first = refusal dependencies environment second := by
  unfold ByodsServer.refusal
  rw [h.error, h.errorDescription, h.state]
  simp only [h.code]

/-! ## Markup -/

/-- What stands in front of the message of a failure page. -/
def failureFront : String :=
  "<!DOCTYPE html><html><head><title>Authorization failed</title></head>" ++
    "<body><h1>Integration authorization failed</h1>" ++ "<p>"

/-- What stands behind it. -/
def failureBack : String :=
  "</p>" ++ "<p>Check server logs for request correlation ID, then retry OAuth.</p>" ++
    "</body></html>"

/-- The text has no angle bracket. -/
def FreeOfAngles (text : String) : Prop := ∀ c ∈ text.toList, c ≠ '<' ∧ c ≠ '>'

instance (text : String) : Decidable (FreeOfAngles text) :=
  decidable_of_iff ((text.toList.all fun c => c != '<' && c != '>') = true)
    (by simp [FreeOfAngles])

/-- The page is the one that reports success, or that of a failure with a message that
has no angle bracket. -/
def AnglesOfTemplate (page : HtmlResponse) : Prop :=
  page = htmlSuccess ∨
    ∃ message, page.content = failureFront ++ message ++ failureBack ∧ FreeOfAngles message

theorem freeOfAngles_escapeAngles (message : String) : FreeOfAngles (escapeAngles message) := by
  have hless : FreeOfAngles "&lt;" := by decide
  have hgreater : FreeOfAngles "&gt;" := by decide
  intro c hc
  rw [escapeAngles, String.toList_ofList, List.mem_flatMap] at hc
  obtain ⟨original, -, hc⟩ := hc
  by_cases hlt : original = '<'
  · rw [if_pos hlt] at hc
    exact hless c hc
  · by_cases hgt : original = '>'
    · rw [if_neg hlt, if_pos hgt] at hc
      exact hgreater c hc
    · rw [if_neg hlt, if_neg hgt] at hc
      rw [List.mem_singleton.mp hc]
      exact ⟨hlt, hgt⟩

theorem anglesOfTemplate_htmlFailure (message : String) (statusCode : ℕ) :
    AnglesOfTemplate (htmlFailure message statusCode) := by
  have hassoc (front text first second third : String) :
      front ++ text ++ first ++ second ++ third = front ++ text ++ (first ++ second ++ third) := by
    simp only [String.append_assoc]
  exact Or.inr ⟨escapeAngles message, hassoc failureFront (escapeAngles message) "</p>" _ _,
    freeOfAngles_escapeAngles message⟩

theorem anglesOfTemplate_page {outcomes : StepOutcomes} {page : HtmlResponse}
    (h : outcomes.page = .ok page) : AnglesOfTemplate page := by
  unfold StepOutcomes.page at h
  split at h
  · split_ifs at h
    cases h
    exact anglesOfTemplate_htmlFailure _ _
  · split at h
    · cases h
      exact anglesOfTemplate_htmlFailure _ _
    · split at h
      · split_ifs at h
        cases h
        exact anglesOfTemplate_htmlFailure _ _
      · cases h
        exact Or.inl rfl

theorem anglesOfTemplate_refusal {dependencies : OauthDependencies}
    {environment : Except PyException Settings} {query : QueryParams} {page : HtmlResponse}
    (h : refusal dependencies environment query = some (.ok page)) : AnglesOfTemplate page := by
  unfold refusal at h
  dsimp only at h
  split_ifs at h with herror hcode hstate
  · cases h
    exact anglesOfTemplate_htmlFailure _ _
  · cases h
    exact anglesOfTemplate_htmlFailure _ _
  · split at h
    · cases h
    · cases h
      exact anglesOfTemplate_htmlFailure _ _
  · split at h
    · cases h
    · cases h

/-- Runs of the callback that look alike from outside end with one page, or with an
exception of one class; and no page has an angle bracket that is not in its template. -/
theorem callback_pages_tell_nothing (dependencies : OauthDependencies)
    (environment : Except PyException Settings) :
    (∀ (first second : QueryParams) (outcomes outcomes' : StepOutcomes)
        (stored stored' : Option OAuthTokens),
      AgreeButForCode first second → AlikeOutcomes outcomes outcomes' →
        AlikeUpTo (· = ·) (callbackResult dependencies environment first outcomes stored)
          (callbackResult dependencies environment second outcomes' stored')) ∧
      ∀ (query : QueryParams) (outcomes : StepOutcomes) (stored : Option OAuthTokens)
        (page : HtmlResponse),
        callbackResult dependencies environment query outcomes stored = .ok page →
          AnglesOfTemplate page := by
  constructor
  · intro first second outcomes outcomes' stored stored' hquery houtcomes
    rw [callbackResult_eq, callbackResult_eq, hquery.refusal]
    cases refusal dependencies environment second with
    | none => exact houtcomes.page
    | some result => exact alikeUpTo_self result
  · intro query outcomes stored page hpage
    rw [callbackResult_eq] at hpage
    cases hrefusal : refusal dependencies environment query with
    | none =>
        rw [hrefusal] at hpage
        exact anglesOfTemplate_page hpage
    | some result =>
        rw [hrefusal] at hpage
        obtain rfl : result = .ok page := hpage
        exact anglesOfTemplate_refusal hrefusal

/-- Two codes that are refused with texts of their own, and an error with markup in it. -/
theorem callback_pages_tell_nothing_of_codes :
    AlikeUpTo (· = ·)
        (callbackResult (setOauthDependencies defaultSettings) (.ok defaultSettings)
          [("code", "abc")] ⟨.error (.authenticationError "abc expired"), .ok (), .ok ()⟩ none)
        (callbackResult (setOauthDependencies defaultSettings) (.ok defaultSettings)
          [("code", "xyz")] ⟨.error (.authenticationError "xyz used"), .ok (), .ok ()⟩ none) ∧
      AnglesOfTemplate (htmlFailure "Webex reported: <b>") := by
  have hpages :=
    callback_pages_tell_nothing (setOauthDependencies defaultSettings) (.ok defaultSettings)
  constructor
  · apply hpages.1
    · exact ⟨rfl, rfl, rfl, by decide⟩
    · exact ⟨rfl, fun _ => trivial, fun _ _ => trivial⟩
  · exact hpages.2 [("error", "<b>")] ⟨.error .invalidToken, .ok (), .ok ()⟩ none _ rfl

end ByodsServer
