/-
# Org profiles

The PROFILE item of an org: whether it is authorized, and since when. Both
writes replace the whole item.
-/

import ByodsServer.Persistence.Client
import ByodsServer.Python.DateTime

namespace ByodsServer

open Python

/-- `AuthorizationState`. -/
inductive AuthorizationState
  | authorized
  | deauthorized
  deriving DecidableEq, Repr

/-- The stored text of a state. -/
def AuthorizationState.text : AuthorizationState → String
  | authorized => "authorized"
  | deauthorized => "deauthorized"

/-- `_org_pk`. -/
def orgPk (orgId : String) : String := "ORG#" ++ orgId

/-- The key of the profile of an org. -/
def profileKey (orgId : String) : Key := ⟨orgPk orgId, "PROFILE"⟩

/-- The attributes of an authorized profile. -/
def authorizedAttrs (now : DateTime) : Attrs :=
  [("authorization_state", .str AuthorizationState.authorized.text),
   ("authorized_at", .str now.isoformat),
   ("deauthorized_at", .null),
   ("updated_at", .str now.isoformat)]

/-- The attributes of a deauthorized profile. -/
def deauthorizedAttrs (now : DateTime) : Attrs :=
  [("authorization_state", .str AuthorizationState.deauthorized.text),
   ("deauthorized_at", .str now.isoformat),
   ("updated_at", .str now.isoformat)]

/-- `upsert_authorized`. -/
def upsertAuthorized (now : DateTime) (orgId : String) : TableProgram Unit :=
  putItem ⟨profileKey orgId, authorizedAttrs now⟩

/-- `mark_deauthorized`. -/
def markDeauthorized (now : DateTime) (orgId : String) : TableProgram Unit :=
  putItem ⟨profileKey orgId, deauthorizedAttrs now⟩

/-- `get_profile`. -/
def getProfile (orgId : String) : TableProgram (Option Item) :=
  getItem (profileKey orgId)

/-- The profile says that the org is in a state. -/
def Profiled (state : AuthorizationState) (attrs : Attrs) : Prop :=
  attrs.lookup "authorization_state" = some (.str state.text)

theorem profiled_authorizedAttrs (now : DateTime) : Profiled .authorized (authorizedAttrs now) :=
  rfl

theorem profiled_deauthorizedAttrs (now : DateTime) :
    Profiled .deauthorized (deauthorizedAttrs now) := rfl

theorem orgPk_injective : Function.Injective orgPk := by
  intro first second h
  have hpk : "ORG#" ++ first = "ORG#" ++ second := h
  rw [← String.toList_inj] at hpk ⊢
  simpa using hpk

end ByodsServer
