/-
# Concurrent calls for one org

Storing and deleting the tokens of an org are two independent writes each: the
credentials, then the profile. Calls that all store or all delete leave the two
items in agreement, whatever the order of the writes. One call of each kind is
enough for an order that does not.
-/

import ByodsServer.Persistence.TokenRefinement

namespace ByodsServer

open Effects Python

/-- A call for the tokens of one org. -/
inductive TokenCall
  | set (tokens : ServiceAppTokens) (entropy : String) (now profileNow : DateTime)
  | delete (profileNow : DateTime)

namespace TokenCall

/-- The state the call leaves in the profile. -/
def state : TokenCall → AuthorizationState
  | set _ _ _ _ => .authorized
  | delete _ => .deauthorized

/-- The profile the call writes. -/
def profileAttrs : TokenCall → Attrs
  | set _ _ _ profileNow => authorizedAttrs profileNow
  | delete profileNow => deauthorizedAttrs profileNow

/-- The table call by which the call writes the credentials. -/
def WritesCreds (orgId : String) : TokenCall → TableCall → Prop
  | set _ _ _ _ => Puts (credsKey orgId) fun _ => True
  | delete _ => Deletes (credsKey orgId)

section Program

variable (lib : TokenLib) (key orgId : String)

/-- The method that is called. -/
def program : TokenCall → TableProgram Unit
  | set tokens entropy now profileNow =>
      setServiceAppTokens lib key entropy now profileNow orgId tokens
  | delete profileNow => deleteServiceAppTokens profileNow orgId

/-- The encryption does not fail. -/
def Encrypts : TokenCall → Prop
  | set tokens entropy _ _ =>
      ∃ blob, encryptTokenPayload lib.toCryptoLib key entropy (tokensToPayload tokens) = .ok blob
  | delete _ => True

/-- Every call is a write of the credentials, then one of the profile. -/
theorem exists_program_eq {lib : TokenLib} {key : String} {call : TokenCall}
    (h : call.Encrypts lib key) :
    ∃ request : tableCalls.Call, call.WritesCreds orgId request ∧
      call.program lib key orgId = (Program.await request >>= fun _ =>
        putItem ⟨profileKey orgId, call.profileAttrs⟩) := by
  cases call with
  | set tokens entropy now profileNow =>
      obtain ⟨blob, hblob⟩ := h
      refine ⟨.putItem ⟨credsKey orgId, credsAttrs blob.1 blob.2 now⟩, ⟨_, trivial, rfl⟩, ?_⟩
      rw [program, setServiceAppTokens, hblob]
      rfl
  | delete profileNow => exact ⟨.deleteItem (credsKey orgId), rfl, rfl⟩

end Program

theorem profiled_profileAttrs (call : TokenCall) : Profiled call.state call.profileAttrs := by
  cases call with
  | set tokens entropy now profileNow => exact profiled_authorizedAttrs profileNow
  | delete profileNow => exact profiled_deauthorizedAttrs profileNow

end TokenCall

/-! ## What the calls should leave -/

/-- The profile says that the org is authorized exactly when its credentials
exist. -/
def CredsMatchProfile (orgId : String) (table : Table) : Prop :=
  Holds (profileKey orgId) (Profiled .authorized) table ↔ table[credsKey orgId]?.isSome

/-- All calls store tokens or all delete them. -/
def OfOneKind (calls : List TokenCall) : Prop :=
  ∃ state, ∀ call ∈ calls, TokenCall.state call = state

theorem credsMatchProfile_of_authorized {orgId : String} {table : Table}
    (hprofile : Holds (profileKey orgId) (Profiled .authorized) table)
    (hcreds : Holds (credsKey orgId) (fun _ => True) table) : CredsMatchProfile orgId table := by
  obtain ⟨attrs, -, hattrs⟩ := hcreds
  exact iff_of_true hprofile (by simp [hattrs])

theorem not_holds_authorized {orgId : String} {table : Table}
    (hprofile : Holds (profileKey orgId) (Profiled .deauthorized) table) :
    ¬ Holds (profileKey orgId) (Profiled .authorized) table := by
  intro hauthorized
  obtain ⟨attrs, hstate, hattrs⟩ := hprofile
  obtain ⟨attrs', hstate', hattrs'⟩ := hauthorized
  rw [hattrs] at hattrs'
  cases hattrs'
  rw [Profiled, hstate] at hstate'
  exact absurd hstate' (by decide)

theorem credsMatchProfile_of_deauthorized {orgId : String} {table : Table}
    (hprofile : Holds (profileKey orgId) (Profiled .deauthorized) table)
    (hcreds : table[credsKey orgId]? = none) : CredsMatchProfile orgId table :=
  iff_of_false (not_holds_authorized hprofile) (by simp [hcreds])

/-! ## Calls of one kind -/

theorem profileKey_ne_credsKey (orgId : String) : profileKey orgId ≠ credsKey orgId :=
  fun hkey => profileKey_not_creds orgId (Or.inr ⟨orgId, hkey⟩)

section Settled

variable {lib : TokenLib} {key orgId : String} {call : TokenCall}

/-- A call is bound to write its credentials. -/
theorem TokenCall.ensures_creds (hcall : call.Encrypts lib key) :
    (call.program lib key orgId).Ensures (call.WritesCreds orgId) := by
  obtain ⟨request, hrequest, hprogram⟩ := call.exists_program_eq orgId hcall
  rw [hprogram]
  exact (Program.ensures_await hrequest).bind_left

/-- A call is bound to write its profile. -/
theorem TokenCall.ensures_profile (hcall : call.Encrypts lib key) :
    (call.program lib key orgId).Ensures (Puts (profileKey orgId) (Profiled call.state)) := by
  obtain ⟨request, -, hprogram⟩ := call.exists_program_eq orgId hcall
  rw [hprogram]
  apply Program.Ensures.bind_right (Program.reliable_await _)
  intro _
  exact Program.ensures_await ⟨_, call.profiled_profileAttrs, rfl⟩

/-- A call makes no other calls than these two. -/
theorem TokenCall.uses (hcall : call.Encrypts lib key) :
    (call.program lib key orgId).Uses fun request =>
      call.WritesCreds orgId request ∨
        Puts (profileKey orgId) (Profiled call.state) request := by
  obtain ⟨request, hrequest, hprogram⟩ := call.exists_program_eq orgId hcall
  rw [hprogram]
  exact (Program.uses_await (Or.inl hrequest)).bind fun _ =>
    Program.uses_await (Or.inr ⟨_, call.profiled_profileAttrs, rfl⟩)

theorem TokenCall.not_touches_profile {request : TableCall}
    (hrequest : call.WritesCreds orgId request) : ¬ Touches (profileKey orgId) request := by
  have hne := (profileKey_ne_credsKey orgId).symm
  cases call with
  | set tokens entropy now profileNow =>
      obtain ⟨attrs, -, rfl⟩ := hrequest
      exact not_touches_putItem hne
  | delete profileNow =>
      cases hrequest
      exact not_touches_deleteItem hne

theorem TokenCall.not_spoils_profile {request : TableCall}
    (hrequest : call.WritesCreds orgId request ∨
      Puts (profileKey orgId) (Profiled call.state) request) :
    ¬ Spoils (profileKey orgId) (Profiled call.state) request := by
  intro hspoils
  rcases hrequest with hrequest | hrequest
  · exact not_touches_profile hrequest hspoils.1
  · exact hspoils.2 hrequest

theorem not_touches_creds {accepted : Attrs → Prop} {request : TableCall}
    (hrequest : Puts (profileKey orgId) accepted request) : ¬ Touches (credsKey orgId) request := by
  obtain ⟨attrs, -, rfl⟩ := hrequest
  exact not_touches_putItem (profileKey_ne_credsKey orgId)

end Settled

/-- Calls for one org, none of which has made a table call yet. -/
def callsInFlight (lib : TokenLib) (key orgId : String) (table : Table)
    (calls : List TokenCall) : Pool tableCalls PyException Unit (Fin calls.length) Table where
  state := table
  programs who := (calls.get who).program lib key orgId

section OneKind

variable {lib : TokenLib} {key orgId : String} {table : Table} {calls : List TokenCall}
  {paging : Paging}

/-- What every call is bound to bring about, and none spoils, holds once all
calls have finished. -/
theorem goal_of_settled {spoils wanted : TableCall → Prop} {goal : Table → Prop}
    (hobligation : Pool.Obligation (perform paging)
      (fun (_ : Fin calls.length) (p : TableProgram Unit) => p.Restores spoils wanted)
      (fun _ p => p.Ensures wanted) goal)
    (hsome : calls ≠ [])
    (hensures : ∀ call ∈ calls, (call.program lib key orgId).Ensures wanted)
    (huses : ∀ call ∈ calls, (call.program lib key orgId).Uses fun request => ¬ spoils request)
    (schedule : List (Fin calls.length))
    (hsettled : ((callsInFlight lib key orgId table calls).runSchedule (perform paging)
      schedule).Settled) :
    goal ((callsInFlight lib key orgId table calls).runSchedule (perform paging)
      schedule).state := by
  apply hobligation.settled_of_owed _ schedule hsettled
  refine ⟨fun who => (huses _ (calls.get_mem who)).restores, Or.inr ?_⟩
  exact ⟨⟨0, List.length_pos_iff.mpr hsome⟩, hensures _ (calls.get_mem _)⟩

/-- The profile ends up in the one state that the calls write. -/
theorem holds_profile {state : AuthorizationState} (hsome : calls ≠ [])
    (hencrypts : ∀ call ∈ calls, call.Encrypts lib key)
    (hstate : ∀ call ∈ calls, call.state = state) (schedule : List (Fin calls.length))
    (hsettled : ((callsInFlight lib key orgId table calls).runSchedule (perform paging)
      schedule).Settled) :
    Holds (profileKey orgId) (Profiled state)
      ((callsInFlight lib key orgId table calls).runSchedule (perform paging)
        schedule).state := by
  apply goal_of_settled (puts_obligation paging _ _) hsome _ _ schedule hsettled
  · intro call hcall
    rw [← hstate call hcall]
    exact TokenCall.ensures_profile (hencrypts call hcall)
  · intro call hcall
    rw [← hstate call hcall]
    exact (TokenCall.uses (hencrypts call hcall)).mono fun _ => TokenCall.not_spoils_profile

/-- Calls that all store leave the credentials in place. -/
theorem holds_creds (hsome : calls ≠ []) (hencrypts : ∀ call ∈ calls, call.Encrypts lib key)
    (hstate : ∀ call ∈ calls, call.state = .authorized) (schedule : List (Fin calls.length))
    (hsettled : ((callsInFlight lib key orgId table calls).runSchedule (perform paging)
      schedule).Settled) :
    Holds (credsKey orgId) (fun _ => True)
      ((callsInFlight lib key orgId table calls).runSchedule (perform paging)
        schedule).state := by
  have hwrites {call : TokenCall} (hcall : call ∈ calls) {request : TableCall}
      (hrequest : call.WritesCreds orgId request) :
      Puts (credsKey orgId) (fun _ => True) request := by
    have hauthorized := hstate call hcall
    cases call with
    | set tokens entropy now profileNow => exact hrequest
    | delete profileNow => cases hauthorized
  apply goal_of_settled (puts_obligation paging _ _) hsome _ _ schedule hsettled
  · intro call hcall
    exact (TokenCall.ensures_creds (hencrypts call hcall)).mono fun _ => hwrites hcall
  · intro call hcall
    refine (TokenCall.uses (hencrypts call hcall)).mono ?_
    intro request hrequest hspoils
    rcases hrequest with hrequest | hrequest
    · exact hspoils.2 (hwrites hcall hrequest)
    · exact not_touches_creds hrequest hspoils.1

/-- Calls that all delete leave no credentials. -/
theorem absent_creds (hsome : calls ≠ []) (hencrypts : ∀ call ∈ calls, call.Encrypts lib key)
    (hstate : ∀ call ∈ calls, call.state = .deauthorized) (schedule : List (Fin calls.length))
    (hsettled : ((callsInFlight lib key orgId table calls).runSchedule (perform paging)
      schedule).Settled) :
    ((callsInFlight lib key orgId table calls).runSchedule (perform paging)
      schedule).state[credsKey orgId]? = none := by
  have hdeletes {call : TokenCall} (hcall : call ∈ calls) {request : TableCall}
      (hrequest : call.WritesCreds orgId request) : Deletes (credsKey orgId) request := by
    have hdeauthorized := hstate call hcall
    cases call with
    | set tokens entropy now profileNow => cases hdeauthorized
    | delete profileNow => exact hrequest
  refine goal_of_settled (deletes_obligation paging _) hsome ?_ ?_ schedule hsettled
  · intro call hcall
    exact (TokenCall.ensures_creds (hencrypts call hcall)).mono fun _ => hdeletes hcall
  · intro call hcall
    refine (TokenCall.uses (hencrypts call hcall)).mono ?_
    intro request hrequest hputs
    obtain ⟨attrs, -, rfl⟩ := hputs
    rcases hrequest with hrequest | hrequest
    · exact absurd (hdeletes hcall hrequest) (by simp [Deletes])
    · exact not_touches_creds hrequest (Or.inr ⟨_, rfl, rfl⟩)

/-- Calls of one kind leave profile and credentials in agreement. -/
theorem credsMatchProfile_of_one_kind (hsome : calls ≠ [])
    (hencrypts : ∀ call ∈ calls, call.Encrypts lib key) (hkind : OfOneKind calls)
    (schedule : List (Fin calls.length))
    (hsettled : ((callsInFlight lib key orgId table calls).runSchedule (perform paging)
      schedule).Settled) :
    CredsMatchProfile orgId
      ((callsInFlight lib key orgId table calls).runSchedule (perform paging)
        schedule).state := by
  obtain ⟨state, hstate⟩ := hkind
  have hprofile := holds_profile hsome hencrypts hstate schedule hsettled
  cases state with
  | authorized =>
      exact credsMatchProfile_of_authorized hprofile
        (holds_creds hsome hencrypts hstate schedule hsettled)
  | deauthorized =>
      exact credsMatchProfile_of_deauthorized hprofile
        (absent_creds hsome hencrypts hstate schedule hsettled)

end OneKind

/-! ## Calls of both kinds -/

theorem exists_state_of_mixed {calls : List TokenCall} (h : ¬ OfOneKind calls)
    (state : AuthorizationState) : ∃ who, (calls.get who).state = state := by
  by_contra hnone
  have hother : ∃ other, ∀ found : AuthorizationState, found ≠ state → found = other := by
    cases state with
    | authorized => exact ⟨.deauthorized, by rintro (_ | _) hne <;> trivial⟩
    | deauthorized => exact ⟨.authorized, by rintro (_ | _) hne <;> trivial⟩
  obtain ⟨other, hother⟩ := hother
  refine h ⟨other, fun call hcall => ?_⟩
  obtain ⟨who, rfl⟩ := List.get_of_mem hcall
  exact hother _ fun hstate => hnone ⟨who, hstate⟩

/-- Between its two writes, a call that stores tokens is overtaken by one that
deletes them. -/
theorem exists_mismatch {lib : TokenLib} {key orgId : String} {calls : List TokenCall}
    (table : Table) (paging : Paging) {setter deleter : Fin calls.length}
    (hencrypts : ∀ call ∈ calls, call.Encrypts lib key)
    (hsetter : (calls.get setter).state = .authorized)
    (hdeleter : (calls.get deleter).state = .deauthorized) :
    ∃ schedule,
      ((callsInFlight lib key orgId table calls).runSchedule (perform paging)
        schedule).Settled ∧
      ¬ CredsMatchProfile orgId
        ((callsInFlight lib key orgId table calls).runSchedule (perform paging)
          schedule).state := by
  have hne : deleter ≠ setter := by
    intro heq
    rw [heq, hsetter] at hdeleter
    cases hdeleter
  obtain ⟨set, -, hsetProgram⟩ := (calls.get setter).exists_program_eq orgId
    (hencrypts _ (calls.get_mem setter))
  obtain ⟨delete, hdelete, hdeleteProgram⟩ := (calls.get deleter).exists_program_eq orgId
    (hencrypts _ (calls.get_mem deleter))
  obtain ⟨start, schedule, hsettled, hstate⟩ := Pool.reaches_overtaken (perform paging)
    (callsInFlight lib key orgId table calls) hne hsetProgram
  refine ⟨schedule, hsettled, ?_⟩
  have hfast : (callsInFlight lib key orgId table calls).programs deleter =
      (Program.await delete >>= fun _ =>
        putItem ⟨profileKey orgId, (calls.get deleter).profileAttrs⟩) := hdeleteProgram
  obtain ⟨reply, hreply⟩ := perform_answers paging set start
  rw [hstate, hfast, Program.exec_await, hreply, Program.andThen_ok, exec_putItem]
  obtain ⟨reply', hreply'⟩ := perform_answers paging delete (perform paging set start).2
  rw [Program.exec_bind, Program.exec_await, hreply', Program.andThen_ok, exec_putItem]
  -- The last profile says authorized; the credentials are gone since the delete.
  intro hmatch
  have hauthorized := (calls.get setter).profiled_profileAttrs
  rw [hsetter] at hauthorized
  have hcreds := hmatch.mp ⟨_, hauthorized, (Table.getElem?_insert ..).trans (if_pos rfl)⟩
  have hdeletes : Deletes (credsKey orgId) delete := by
    cases hcall : calls.get deleter with
    | set tokens entropy now profileNow =>
        rw [hcall] at hdeleter
        cases hdeleter
    | delete profileNow => rwa [hcall] at hdelete
  simp only [Table.getElem?_insert, if_neg (profileKey_ne_credsKey orgId),
    absent_of_deletes hdeletes] at hcreds
  cases hcreds

/-! ## Every set of calls -/

/-- Calls without failures leave profile and credentials in agreement under every
interleaving exactly when they are all of one kind, and a table that nobody
writes to agreed before. -/
theorem callsInFlight_match_iff (lib : TokenLib) (key orgId : String) (paging : Paging)
    (table : Table) (calls : List TokenCall)
    (hencrypts : ∀ call ∈ calls, call.Encrypts lib key) :
    (∀ schedule,
      ((callsInFlight lib key orgId table calls).runSchedule (perform paging)
        schedule).Settled →
      CredsMatchProfile orgId
        ((callsInFlight lib key orgId table calls).runSchedule (perform paging)
          schedule).state) ↔
      OfOneKind calls ∧ (calls = [] → CredsMatchProfile orgId table) := by
  constructor
  · intro hmatch
    constructor
    · by_contra hkind
      obtain ⟨setter, hsetter⟩ := exists_state_of_mixed hkind .authorized
      obtain ⟨deleter, hdeleter⟩ := exists_state_of_mixed hkind .deauthorized
      obtain ⟨schedule, hsettled, hmismatch⟩ :=
        exists_mismatch table paging hencrypts hsetter hdeleter
      exact hmismatch (hmatch schedule hsettled)
    · intro hnone
      subst hnone
      exact hmatch [] fun who => who.elim0
  · intro h schedule hsettled
    by_cases hnone : calls = []
    · subst hnone
      cases schedule with
      | nil => exact h.2 rfl
      | cons who schedule => exact who.elim0
    · exact credsMatchProfile_of_one_kind hnone hencrypts h.1 schedule hsettled

/-! ## Tokens stored and deleted at once -/

/-- A webhook that authorizes an org and one that deauthorizes it. -/
def authorizeAndDeauthorize : List TokenCall :=
  [.set sampleTokens "nonce" noon noon, .delete noon]

theorem authorizeAndDeauthorize_encrypts :
    ∀ call ∈ authorizeAndDeauthorize, call.Encrypts sampleLib sampleKey := by
  intro call hcall
  simp only [authorizeAndDeauthorize, List.mem_cons, List.not_mem_nil, or_false] at hcall
  rcases hcall with rfl | rfl
  · obtain ⟨blob, hblob, -⟩ := exists_decodes ⟨by decide, by decide⟩ sampleTokens_roundTrip
    exact ⟨_, hblob⟩
  · trivial

theorem callsInFlight_match_iff_sample :
    (∀ schedule,
      ((callsInFlight sampleLib sampleKey "org-1" ∅ authorizeAndDeauthorize).runSchedule dynamo
        schedule).Settled →
      CredsMatchProfile "org-1"
        ((callsInFlight sampleLib sampleKey "org-1" ∅ authorizeAndDeauthorize).runSchedule dynamo
          schedule).state) ↔
      OfOneKind authorizeAndDeauthorize ∧
        (authorizeAndDeauthorize = [] → CredsMatchProfile "org-1" ∅) :=
  callsInFlight_match_iff sampleLib sampleKey "org-1" Paging.single ∅ authorizeAndDeauthorize
    authorizeAndDeauthorize_encrypts

/-- The tokens are put, then the deauthorization makes both its writes, and last
the org is marked authorized. -/
theorem authorized_without_tokens :
    ∃ schedule,
      ((callsInFlight sampleLib sampleKey "org-1" ∅ authorizeAndDeauthorize).runSchedule dynamo
        schedule).Settled ∧
      ¬ CredsMatchProfile "org-1"
        ((callsInFlight sampleLib sampleKey "org-1" ∅ authorizeAndDeauthorize).runSchedule dynamo
          schedule).state := by
  have hsetter : (authorizeAndDeauthorize.get ⟨0, by decide⟩).state = .authorized := rfl
  have hdeleter : (authorizeAndDeauthorize.get ⟨1, by decide⟩).state = .deauthorized := rfl
  exact exists_mismatch ∅ Paging.single authorizeAndDeauthorize_encrypts hsetter hdeleter

end ByodsServer
