/-
# Registration after authorization

The data source of a newly authorized org is registered on the side: what the
registration raises is logged. Deriving the URL comes before the `try`.
-/

import ByodsServer.Byods.Service

namespace ByodsServer

open Effects Python

/-- Registration is on and there is a URL to start from that the URL parser
refuses. -/
def Settings.UrlRaises (settings : Settings) (lib : UrlLib) : Prop :=
  settings.autoRegisterDatasource = true ∧ settings.datasourceBase ≠ "" ∧
    ∃ message, urlparse lib settings.datasourceBase = .error message

section Register

variable (repr : Json → String) (lib : UrlLib) (settings : Settings) (uuid orgId : String)

/-- `register_datasource_for_org`, without its log lines. -/
def registerDatasourceForOrg : ByodsProgram Unit :=
  if !settings.autoRegisterDatasource then return ()
  else do
    let datasourceUrl ← Program.ofExcept (settings.buildDatasourceUrl lib)
    if textOrEmpty datasourceUrl = "" then return ()
    else
      tryCatch (do
        let _ ← autoRegisterForOrg repr lib settings uuid orgId
        return ()) fun e =>
          match e with
          | .duplicateDataSourceURLError _ => return ()
          | _ => return ()

/-- Whatever the SDK answers or raises, the registration returns, unless deriving
the URL raises. -/
theorem exec_registerDatasourceForOrg {σ : Type} (handler : Handler byodsCalls PyException σ)
    (state : σ) (hraises : ¬ settings.UrlRaises lib) :
    ((registerDatasourceForOrg repr lib settings uuid orgId).exec handler state).1 = .ok () := by
  unfold registerDatasourceForOrg
  cases hauto : settings.autoRegisterDatasource with
  | false => rfl
  | true =>
      cases hurl : settings.buildDatasourceUrl lib with
      | error e =>
          exact (hraises ⟨hauto, (settings.buildDatasourceUrl_raises_iff lib).mp ⟨e, hurl⟩⟩).elim
      | ok datasourceUrl =>
          simp only [Bool.not_true, Bool.false_eq_true, if_false, Program.ofExcept_eq,
            Program.finish_bind]
          by_cases hempty : textOrEmpty datasourceUrl = ""
          · rw [if_pos hempty]
            rfl
          · rw [if_neg hempty, Program.exec_tryCatch]
            generalize Program.exec handler _ state = attempt
            obtain ⟨outcome, after⟩ := attempt
            cases outcome with
            | ok done => rfl
            | error e => cases e <;> rfl

/-- When deriving the URL raises, so does the registration, before any call. -/
theorem registerDatasourceForOrg_raises (hraises : settings.UrlRaises lib) :
    ∃ e, registerDatasourceForOrg repr lib settings uuid orgId = throw e := by
  obtain ⟨hauto, hparse⟩ := hraises
  obtain ⟨e, hurl⟩ := (settings.buildDatasourceUrl_raises_iff lib).mpr hparse
  refine ⟨e, ?_⟩
  rw [registerDatasourceForOrg, hauto, hurl]
  rfl

end Register

end ByodsServer
