/-
# What becomes of the time of authorization

Both profile writes replace the whole item. The one for an authorized org sets
every attribute, the one for a deauthorized org leaves the time of authorization
out: from a deletion on the profile does not tell when the org was authorized.
-/

import ByodsServer.Persistence.TokenConcurrency

namespace ByodsServer

open Effects Python

namespace TokenCall

variable (lib : TokenLib) (key orgId : String)

/-- The table after a call, whether the call returned or raised. -/
def after (call : TokenCall) (table : Table) : Table :=
  ((call.program lib key orgId).exec dynamo table).2

/-- The time of authorization a call stores. A set whose tokens cannot be encrypted
raises before it stores anything. -/
def authorizedAt : TokenCall → Option DateTime
  | set tokens entropy _ profileNow =>
      if (encryptTokenPayload lib.toCryptoLib key entropy (tokensToPayload tokens)).isOk then
        some profileNow
      else none
  | delete _ => none

theorem after_set_of_encrypts {tokens : ServiceAppTokens} {entropy : String}
    {blob : String × Int}
    (h : encryptTokenPayload lib.toCryptoLib key entropy (tokensToPayload tokens) = .ok blob)
    (now profileNow : DateTime) (table : Table) :
    (set tokens entropy now profileNow).after lib key orgId table =
      (table.insert (credsKey orgId) (credsAttrs blob.1 blob.2 now)).insert (profileKey orgId)
        (authorizedAttrs profileNow) := by
  rw [after, program, setServiceAppTokens, h]
  rfl

theorem after_set_of_raises {tokens : ServiceAppTokens} {entropy : String} {e : PyException}
    (h : encryptTokenPayload lib.toCryptoLib key entropy (tokensToPayload tokens) = .error e)
    (now profileNow : DateTime) (table : Table) :
    (set tokens entropy now profileNow).after lib key orgId table = table := by
  rw [after, program, setServiceAppTokens, h]
  rfl

theorem after_delete (profileNow : DateTime) (table : Table) :
    (delete profileNow).after lib key orgId table =
      (table.erase (credsKey orgId)).insert (profileKey orgId) (deauthorizedAttrs profileNow) :=
  rfl

end TokenCall

/-! ## Runs of calls -/

section Runs

variable (lib : TokenLib) (key orgId : String)

/-- The table after a sequence of calls. -/
def afterCalls (calls : List TokenCall) (table : Table) : Table :=
  calls.foldl (fun table call => call.after lib key orgId table) table

/-- The time of the most recent set, if tokens were set at all. -/
def lastAuthorizedAt (calls : List TokenCall) : Option DateTime :=
  calls.reverse.findSome? (TokenCall.authorizedAt lib key)

theorem afterCalls_concat (calls : List TokenCall) (call : TokenCall) (table : Table) :
    afterCalls lib key orgId (calls ++ [call]) table =
      call.after lib key orgId (afterCalls lib key orgId calls table) := by
  rw [afterCalls, List.foldl_append]
  rfl

theorem lastAuthorizedAt_concat (calls : List TokenCall) (call : TokenCall) :
    lastAuthorizedAt lib key (calls ++ [call]) =
      (call.authorizedAt lib key).or (lastAuthorizedAt lib key calls) := by
  rw [lastAuthorizedAt, List.reverse_append, List.reverse_singleton, List.singleton_append,
    List.findSome?_cons, lastAuthorizedAt]
  cases call.authorizedAt lib key <;> rfl

/-- The profile holds a time of authorization. -/
def HoldsAuthorizedAt (time : DateTime) (table : Table) : Prop :=
  Holds (profileKey orgId)
    (fun attrs => attrs.lookup "authorized_at" = some (.str time.isoformat)) table

variable {lib key orgId}

/-- A set stores its time, or raises and changes nothing. -/
theorem holdsAuthorizedAt_after_set (tokens : ServiceAppTokens) (entropy : String)
    (now profileNow : DateTime) {calls : List TokenCall} {table : Table}
    (h : ∀ time ∈ lastAuthorizedAt lib key calls, HoldsAuthorizedAt orgId time table) :
    ∀ time ∈ lastAuthorizedAt lib key (calls ++ [.set tokens entropy now profileNow]),
      HoldsAuthorizedAt orgId time
        ((TokenCall.set tokens entropy now profileNow).after lib key orgId table) := by
  rw [lastAuthorizedAt_concat, TokenCall.authorizedAt]
  cases hblob : encryptTokenPayload lib.toCryptoLib key entropy (tokensToPayload tokens) with
  | ok blob =>
      intro time htime
      obtain rfl : profileNow = time := Option.some.inj htime
      rw [TokenCall.after_set_of_encrypts lib key orgId hblob]
      exact ⟨authorizedAttrs profileNow, rfl, by rw [Table.getElem?_insert, if_pos rfl]⟩
  | error e =>
      rw [TokenCall.after_set_of_raises lib key orgId hblob]
      exact h

/-- A deletion writes a profile without a time of authorization. -/
theorem not_holdsAuthorizedAt_after_delete (profileNow time : DateTime) (table : Table) :
    ¬ HoldsAuthorizedAt orgId time ((TokenCall.delete profileNow).after lib key orgId table) := by
  rintro ⟨attrs, htime, hattrs⟩
  rw [TokenCall.after_delete, Table.getElem?_insert, if_pos rfl] at hattrs
  obtain rfl := Option.some.inj hattrs
  cases htime

/-- As long as no deletion comes after a set, the time of the latest set is kept. -/
theorem holdsAuthorizedAt_of_no_delete (table : Table) (calls : List TokenCall)
    (h : ∀ front profileNow rest, calls = front ++ .delete profileNow :: rest →
      lastAuthorizedAt lib key front = none) :
    ∀ time ∈ lastAuthorizedAt lib key calls,
      HoldsAuthorizedAt orgId time (afterCalls lib key orgId calls table) := by
  induction calls using List.reverseRecOn with
  | nil => intro time htime; cases htime
  | append_singleton calls call ih =>
      have hcalls := ih fun front profileNow rest hsplit =>
        h front profileNow (rest ++ [call]) (by simp [hsplit])
      rw [afterCalls_concat]
      cases call with
      | set tokens entropy now profileNow =>
          exact holdsAuthorizedAt_after_set tokens entropy now profileNow hcalls
      | delete profileNow =>
          rw [lastAuthorizedAt_concat, h calls profileNow [] rfl]
          intro time htime
          cases htime

end Runs

/-! ## What a deletion keeps of a profile -/

/-- The attributes a deletion is to change. -/
def deauthorizedNames : List String := ["authorization_state", "deauthorized_at", "updated_at"]

/-- Every other attribute of the profile is as it was. -/
def KeepsOtherAttrs (orgId : String) (before after : Table) : Prop :=
  ∀ attrs, before[profileKey orgId]? = some attrs →
    ∃ attrs', after[profileKey orgId]? = some attrs' ∧
      ∀ name ∉ deauthorizedNames, attrs'.lookup name = attrs.lookup name

theorem lookup_deauthorizedAttrs {name : String} (h : name ∉ deauthorizedNames)
    (profileNow : DateTime) : (deauthorizedAttrs profileNow).lookup name = none := by
  simp only [deauthorizedNames, List.mem_cons, List.not_mem_nil, or_false, not_or] at h
  obtain ⟨hstate, hdeauthorized, hupdated⟩ := h
  simp [deauthorizedAttrs, List.lookup_cons, beq_false_of_ne hstate, beq_false_of_ne hdeauthorized,
    beq_false_of_ne hupdated]

/-- Nothing else is kept: a deletion keeps the other attributes when there are none. -/
theorem keepsOtherAttrs_after_delete_iff (lib : TokenLib) (key orgId : String)
    (profileNow : DateTime) (table : Table) :
    KeepsOtherAttrs orgId table ((TokenCall.delete profileNow).after lib key orgId table) ↔
      ∀ attrs, table[profileKey orgId]? = some attrs →
        ∀ name ∉ deauthorizedNames, attrs.lookup name = none := by
  have hprofile : ((TokenCall.delete profileNow).after lib key orgId table)[profileKey orgId]? =
      some (deauthorizedAttrs profileNow) := by
    rw [TokenCall.after_delete, Table.getElem?_insert, if_pos rfl]
  constructor
  · intro h attrs hattrs name hname
    obtain ⟨attrs', hattrs', hkept⟩ := h attrs hattrs
    obtain rfl := Option.some.inj (hprofile.symm.trans hattrs')
    rw [← hkept name hname, lookup_deauthorizedAttrs hname]
  · intro h attrs hattrs
    refine ⟨_, hprofile, ?_⟩
    intro name hname
    rw [lookup_deauthorizedAttrs hname, h attrs hattrs name hname]

/-- After every call of a sequence the profile holds the time of the most recent set
exactly when no deletion comes after a set; and a deletion keeps the other attributes
of a profile exactly when the profile has none. -/
theorem profile_keeps_authorized_at_iff (lib : TokenLib) (key orgId : String) (table : Table) :
    (∀ calls : List TokenCall,
      (∀ front rest, calls = front ++ rest → ∀ time ∈ lastAuthorizedAt lib key front,
          HoldsAuthorizedAt orgId time (afterCalls lib key orgId front table)) ↔
        ∀ front profileNow rest, calls = front ++ .delete profileNow :: rest →
          lastAuthorizedAt lib key front = none) ∧
      ∀ profileNow : DateTime,
        KeepsOtherAttrs orgId table
            ((TokenCall.delete profileNow).after lib key orgId table) ↔
          ∀ attrs, table[profileKey orgId]? = some attrs →
            ∀ name ∉ deauthorizedNames, attrs.lookup name = none := by
  constructor
  · intro calls
    constructor
    · intro h front profileNow rest hsplit
      by_contra hset
      obtain ⟨time, htime⟩ := Option.ne_none_iff_exists'.mp hset
      have hlast : lastAuthorizedAt lib key (front ++ [.delete profileNow]) = some time := by
        rw [lastAuthorizedAt_concat, htime]
        rfl
      have hholds := h (front ++ [.delete profileNow]) rest (by simp [hsplit]) time hlast
      rw [afterCalls_concat] at hholds
      exact not_holdsAuthorizedAt_after_delete profileNow time _ hholds
    · intro h front rest hsplit
      apply holdsAuthorizedAt_of_no_delete
      intro earlier profileNow later hearlier
      exact h earlier profileNow (later ++ rest) (by simp [hsplit, hearlier])
  · exact fun profileNow => keepsOtherAttrs_after_delete_iff lib key orgId profileNow table

/-- A set and a deletion, and the profile tells no more when the org was authorized. -/
theorem authorized_at_lost {lib : TokenLib} {key : String} {tokens : ServiceAppTokens}
    {entropy : String} {now profileNow : DateTime}
    (h : (TokenCall.set tokens entropy now profileNow).Encrypts lib key) (orgId : String)
    (later : DateTime) (table : Table) :
    lastAuthorizedAt lib key [.set tokens entropy now profileNow, .delete later] =
        some profileNow ∧
      HoldsAuthorizedAt orgId profileNow
        (afterCalls lib key orgId [.set tokens entropy now profileNow] table) ∧
      ¬ HoldsAuthorizedAt orgId profileNow
        (afterCalls lib key orgId [.set tokens entropy now profileNow, .delete later] table) := by
  obtain ⟨blob, hblob⟩ := h
  have hset : (TokenCall.set tokens entropy now profileNow).authorizedAt lib key =
      some profileNow := by
    rw [TokenCall.authorizedAt, hblob]
    rfl
  have hlast : lastAuthorizedAt lib key [.set tokens entropy now profileNow] =
      some profileNow := by
    rw [← List.nil_append [TokenCall.set _ _ _ _], lastAuthorizedAt_concat, hset]
    rfl
  refine ⟨?_, ?_, not_holdsAuthorizedAt_after_delete later profileNow _⟩
  · rw [← List.singleton_append, lastAuthorizedAt_concat, hlast]
    rfl
  · exact holdsAuthorizedAt_of_no_delete table [.set tokens entropy now profileNow]
      (by simp [List.cons_eq_append_iff]) profileNow hlast

/-- The tokens of an org are set at noon and deleted. -/
theorem authorized_at_lost_by_delete :
    lastAuthorizedAt sampleLib sampleKey [.set sampleTokens "nonce" noon noon, .delete noon] =
        some noon ∧
      HoldsAuthorizedAt "org-1" noon
        (afterCalls sampleLib sampleKey "org-1" [.set sampleTokens "nonce" noon noon] ∅) ∧
      ¬ HoldsAuthorizedAt "org-1" noon
        (afterCalls sampleLib sampleKey "org-1"
          [.set sampleTokens "nonce" noon noon, .delete noon] ∅) :=
  authorized_at_lost (authorizeAndDeauthorize_encrypts _ List.mem_cons_self) "org-1" noon ∅

end ByodsServer
