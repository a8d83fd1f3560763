/-
# Token updates that fail halfway

Setting or deleting the tokens of an org is two writes, first the credentials,
then the profile. An update whose first write fails leaves everything as it was;
one whose second write fails leaves the new credentials next to the old profile,
which nobody notices only when the credentials said the same before.
-/

import ByodsServer.Persistence.TokenRefinement

namespace ByodsServer

open Effects Python

/-- Only which orgs have credentials decides about the listing. -/
theorem registeredOrgs_eq {before after : Table}
    (h : ∀ orgId, after[credsKey orgId]? ≠ none ↔ before[credsKey orgId]? ≠ none) :
    registeredOrgs after = registeredOrgs before := by
  apply insertionSort_eq_of_perm
  rw [List.perm_ext_iff_of_nodup nodup_orgsOfItems_creds nodup_orgsOfItems_creds]
  intro orgId
  rw [mem_orgsOfItems_creds, mem_orgsOfItems_creds, h]

/-! ## Updates -/

/-- An update of the tokens of an org. -/
inductive TokenUpdate
  | set (tokens : ServiceAppTokens) (entropy : String) (now : DateTime)
  | delete

section Updates

variable (lib : TokenLib) (key : String) (orgId : String)

/-- The method that carries the update out. -/
def TokenUpdate.run (profileNow : DateTime) : TokenUpdate → TableProgram Unit
  | set tokens entropy now => setServiceAppTokens lib key entropy now profileNow orgId tokens
  | delete => deleteServiceAppTokens profileNow orgId

/-- The tokens to set survive encryption, printing and parsing. -/
def TokenUpdate.RoundTrips : TokenUpdate → Prop
  | set tokens entropy _ => TokensRoundTrip lib key entropy tokens
  | delete => True

/-- The update would not change what the credentials say: those of the org
already read as the tokens to set, or there are none to delete. -/
def TokenUpdate.Redundant (table : Table) : TokenUpdate → Prop
  | set tokens _ _ => ∃ attrs, table[credsKey orgId]? = some attrs ∧
      ∀ now, readCreds lib key now ⟨credsKey orgId, attrs⟩ = .ok tokens
  | delete => table[credsKey orgId]? = none

/-- Nobody can tell the two tables apart by the tokens or the profile of an org or
by the list of orgs. -/
structure SameToCallers (paging : Paging) (before after : Table) : Prop where
  tokens : ∀ now other, ((getServiceAppTokens lib key now other).exec (perform paging) after).1 =
    ((getServiceAppTokens lib key now other).exec (perform paging) before).1
  profile : ∀ other, ((getProfile other).exec (perform paging) after).1 =
    ((getProfile other).exec (perform paging) before).1
  orgs : ∃ enough, ∀ fuel ≥ enough,
    ((listRegisteredOrgs fuel).exec (perform paging) after).1 =
      ((listRegisteredOrgs fuel).exec (perform paging) before).1

variable {lib key orgId} {paging : Paging} {table : Table}

theorem SameToCallers.refl (lib : TokenLib) (key : String) (paging : Paging) (table : Table) :
    SameToCallers lib key paging table table :=
  ⟨fun _ _ => rfl, fun _ => rfl, 0, fun _ _ => rfl⟩

/-- The getter returns no tokens exactly when there is no credentials item. -/
theorem getServiceAppTokens_eq_none_iff {now : DateTime} :
    ((getServiceAppTokens lib key now orgId).exec (perform paging) table).1 = .ok none ↔
      table[credsKey orgId]? = none := by
  rw [exec_getServiceAppTokens_eq]
  cases table[credsKey orgId]? with
  | none => exact iff_of_true rfl rfl
  | some attrs =>
      dsimp only
      cases readCreds lib key now ⟨credsKey orgId, attrs⟩ with
      | error e => exact ⟨fun h => (nomatch h), fun h => (nomatch h)⟩
      | ok tokens => exact ⟨fun h => (nomatch h), fun h => (nomatch h)⟩

/-- The getter returns tokens exactly when the credentials item reads as them. -/
theorem getServiceAppTokens_eq_some_iff {now : DateTime} {tokens : ServiceAppTokens} :
    ((getServiceAppTokens lib key now orgId).exec (perform paging) table).1 = .ok (some tokens) ↔
      ∃ attrs, table[credsKey orgId]? = some attrs ∧
        readCreds lib key now ⟨credsKey orgId, attrs⟩ = .ok tokens := by
  rw [exec_getServiceAppTokens_eq]
  cases table[credsKey orgId]? with
  | none => exact ⟨fun h => (nomatch h), fun ⟨_, h, _⟩ => (nomatch h)⟩
  | some attrs =>
      dsimp only
      cases hread : readCreds lib key now ⟨credsKey orgId, attrs⟩ with
      | error e =>
          refine ⟨fun h => (nomatch h), ?_⟩
          rintro ⟨_, hattrs, h⟩
          rw [← Option.some.inj hattrs, hread] at h
          cases h
      | ok read =>
          constructor
          · intro h
            cases h
            exact ⟨attrs, rfl, hread⟩
          · rintro ⟨_, hattrs, h⟩
            rw [← Option.some.inj hattrs, hread] at h
            cases h
            rfl

/-- Tables that differ in one org's credentials look the same to callers exactly
when these are read alike. -/
theorem sameToCallers_iff {after : Table}
    (hframe : ∀ itemKey, itemKey ≠ credsKey orgId → after[itemKey]? = table[itemKey]?) :
    SameToCallers lib key paging table after ↔
      ∀ now, ((getServiceAppTokens lib key now orgId).exec (perform paging) after).1 =
        ((getServiceAppTokens lib key now orgId).exec (perform paging) table).1 := by
  constructor
  · exact fun h now => h.tokens now orgId
  · intro h
    have hother (other : String) (hne : other ≠ orgId) :
        after[credsKey other]? = table[credsKey other]? :=
      hframe _ fun hkey => hne (credsKey_injective hkey)
    refine ⟨fun now other => ?_, fun other => ?_, ?_⟩
    · by_cases hsame : other = orgId
      · rw [hsame]
        exact h now
      · rw [exec_getServiceAppTokens_eq, exec_getServiceAppTokens_eq, hother other hsame]
    · have hprofile : profileKey other ≠ credsKey orgId := fun hkey =>
        profileKey_not_creds other (Or.inr ⟨orgId, hkey⟩)
      rw [getProfile, exec_getItem, exec_getItem, Table.item?, Table.item?,
        hframe _ hprofile]
    · have hlisted : registeredOrgs after = registeredOrgs table := by
        apply registeredOrgs_eq
        intro other
        by_cases hsame : other = orgId
        · -- Reading alike, both tables have credentials for the org or neither has.
          have hread := h ⟨1970, 1, 1, 0, 0, 0, 0, none⟩
          have hnone := getServiceAppTokens_eq_none_iff.symm.trans
            ((Eq.congr_left hread).trans getServiceAppTokens_eq_none_iff)
          rw [hsame]
          exact not_congr hnone
        · rw [hother other hsame]
      obtain ⟨first, hfirst⟩ := exec_listRegisteredOrgs_eq paging after
      obtain ⟨second, hsecond⟩ := exec_listRegisteredOrgs_eq paging table
      refine ⟨max first second, fun fuel hfuel => ?_⟩
      rw [hfirst fuel (le_of_max_le_left hfuel), hsecond fuel (le_of_max_le_right hfuel), hlisted]

/-! ## An update that fails -/

/-- The credentials are those of the update; nothing else has changed. -/
def TokenUpdate.HalfDone (lib : TokenLib) (key orgId : String) (table after : Table) :
    TokenUpdate → Prop
  | set tokens _ _ => ∃ attrs, Decodes lib key tokens attrs ∧
      after = table.insert (credsKey orgId) attrs
  | delete => after = table.erase (credsKey orgId)

/-- An update that raises has failed at its first call, or at its second one and
is half done. -/
theorem TokenUpdate.failed_cases (hkey : KeyUsable lib.toCryptoLib key) {update : TokenUpdate}
    (hround : update.RoundTrips lib key) {profileNow : DateTime}
    {plan rest : List (Option PyException)} {e : PyException} {after : Table}
    (h : (update.run lib key orgId profileNow).exec (perform paging).faulty (table, plan) =
      (.error e, after, rest)) :
    (plan = some e :: rest ∧ after = table) ∨
      (plan = none :: some e :: rest ∧ update.HalfDone lib key orgId table after) := by
  cases update with
  | set tokens entropy now =>
      obtain ⟨blob, hencrypt, hdecodes⟩ := exists_decodes hkey hround
      rw [run, setServiceAppTokens, tokensToPayload, hencrypt] at h
      refine (Program.failed_of_two_awaits (perform_answers paging) h).imp_right ?_
      rintro ⟨hplan, hafter⟩
      exact ⟨hplan, _, hdecodes now, hafter⟩
  | delete => exact Program.failed_of_two_awaits (perform_answers paging) h

/-- Half done, an update is noticed unless it is redundant. -/
theorem TokenUpdate.HalfDone.sameToCallers_iff {update : TokenUpdate} {after : Table}
    (h : update.HalfDone lib key orgId table after) :
    SameToCallers lib key paging table after ↔ update.Redundant lib key orgId table := by
  cases update with
  | set tokens entropy now =>
      obtain ⟨attrs, hdecodes, rfl⟩ := h
      have hafter (now : DateTime) :
          ((getServiceAppTokens lib key now orgId).exec (perform paging)
            (table.insert (credsKey orgId) attrs)).1 = .ok (some tokens) := by
        rw [getServiceAppTokens_eq_some_iff]
        exact ⟨attrs, by rw [Table.getElem?_insert, if_pos rfl], hdecodes.readCreds now⟩
      rw [ByodsServer.sameToCallers_iff fun itemKey hne => by
        rw [Table.getElem?_insert, if_neg hne.symm]]
      constructor
      · intro hsame
        have hread (now : DateTime) := getServiceAppTokens_eq_some_iff.mp
          ((hsame now).symm.trans (hafter now))
        obtain ⟨stored, hstored, -⟩ := hread now
        refine ⟨stored, hstored, fun now => ?_⟩
        obtain ⟨other, hother, htokens⟩ := hread now
        obtain rfl := Option.some.inj (hstored.symm.trans hother)
        exact htokens
      · rintro ⟨stored, hstored, htokens⟩ now
        rw [hafter now]
        exact (getServiceAppTokens_eq_some_iff.mpr ⟨stored, hstored, htokens now⟩).symm
  | delete =>
      have hafter : after = table.erase (credsKey orgId) := h
      subst hafter
      have hnone (now : DateTime) : ((getServiceAppTokens lib key now orgId).exec (perform paging)
          (table.erase (credsKey orgId))).1 = .ok none := by
        rw [getServiceAppTokens_eq_none_iff, Table.getElem?_erase, if_pos rfl]
      rw [ByodsServer.sameToCallers_iff fun itemKey hne => by
        rw [Table.getElem?_erase, if_neg hne.symm]]
      constructor
      · intro hsame
        have hread := (hsame ⟨1970, 1, 1, 0, 0, 0, 0, none⟩).symm.trans (hnone _)
        exact getServiceAppTokens_eq_none_iff.mp hread
      · intro hredundant now
        rw [hnone now]
        exact (getServiceAppTokens_eq_none_iff.mpr hredundant).symm

/-- An update that raises because one of its calls has failed goes unnoticed
exactly when the first call has failed or the update is redundant. -/
theorem tokenUpdate_unnoticed_iff (hkey : KeyUsable lib.toCryptoLib key) {update : TokenUpdate}
    (hround : update.RoundTrips lib key) {profileNow : DateTime}
    {plan rest : List (Option PyException)} {e : PyException} {after : Table}
    (h : (update.run lib key orgId profileNow).exec (perform paging).faulty (table, plan) =
      (.error e, after, rest)) :
    SameToCallers lib key paging table after ↔
      plan = some e :: rest ∨ update.Redundant lib key orgId table := by
  rcases TokenUpdate.failed_cases hkey hround h with ⟨hplan, rfl⟩ | ⟨hplan, hhalf⟩
  · exact iff_of_true (SameToCallers.refl lib key paging after) (Or.inl hplan)
  · have hsecond : plan ≠ some e :: rest := by
      rw [hplan]
      exact fun h => nomatch h
    rw [or_iff_right hsecond]
    exact hhalf.sameToCallers_iff

end Updates

/-! ## One org -/

/-- A deauthorized org without credentials. -/
def deauthorizedTable : Table :=
  (∅ : Table).insert (profileKey "org-1") (deauthorizedAttrs noon)

/-- The tokens of the org are set, by calls that fail as planned. -/
abbrev setFailing (table : Table) (plan : List (Option PyException)) :
    Except PyException Unit × Table × List (Option PyException) :=
  (TokenUpdate.run sampleLib sampleKey "org-1" noon (.set sampleTokens "nonce" noon)).exec
    dynamo.faulty (table, plan)

/-- What the second call fails to do is the profile. -/
theorem exists_setFailing : ∃ attrs, Decodes sampleLib sampleKey sampleTokens attrs ∧
    (∀ table, setFailing table [some (.clientError "throttled")] =
      (.error (.clientError "throttled"), table, [])) ∧
    ∀ table, setFailing table [none, some (.clientError "throttled")] =
      (.error (.clientError "throttled"), table.insert (credsKey "org-1") attrs, []) := by
  obtain ⟨blob, hencrypt, hdecodes⟩ := exists_decodes
    (⟨by decide, by decide⟩ : KeyUsable sampleLib.toCryptoLib sampleKey) sampleTokens_roundTrip
  refine ⟨credsAttrs blob ciphertextVersion noon, hdecodes noon, fun table => ?_,
    fun table => ?_⟩
  · rw [setFailing, TokenUpdate.run, setServiceAppTokens, tokensToPayload, hencrypt]
    rfl
  · rw [setFailing, TokenUpdate.run, setServiceAppTokens, tokensToPayload, hencrypt]
    rfl

/-- A failure of the first call is not noticed, one of the second call is; when the same
happens again, it is not. -/
theorem tokenUpdate_unnoticed_iff_sample :
    let half := (setFailing deauthorizedTable [none, some (.clientError "throttled")]).2.1
    SameToCallers sampleLib sampleKey Paging.single deauthorizedTable
        (setFailing deauthorizedTable [some (.clientError "throttled")]).2.1 ∧
      ¬ SameToCallers sampleLib sampleKey Paging.single deauthorizedTable half ∧
      SameToCallers sampleLib sampleKey Paging.single half
        (setFailing half [none, some (.clientError "throttled")]).2.1 := by
  intro half
  have hkey : KeyUsable sampleLib.toCryptoLib sampleKey := ⟨by decide, by decide⟩
  have hround : (TokenUpdate.set sampleTokens "nonce" noon).RoundTrips sampleLib sampleKey :=
    sampleTokens_roundTrip
  obtain ⟨attrs, hdecodes, hfirst, hsecond⟩ := exists_setFailing
  have hhalf : half = deauthorizedTable.insert (credsKey "org-1") attrs :=
    congrArg (fun outcome => outcome.2.1) (hsecond deauthorizedTable)
  have hcreds : half[credsKey "org-1"]? = some attrs := by
    rw [hhalf, Table.getElem?_insert, if_pos rfl]
  refine ⟨?_, ?_, ?_⟩
  · rw [hfirst]
    exact (tokenUpdate_unnoticed_iff hkey hround (hfirst deauthorizedTable)).mpr (Or.inl rfl)
  · rw [hhalf]
    refine mt (tokenUpdate_unnoticed_iff hkey hround (hsecond deauthorizedTable)).mp ?_
    rintro (hplan | ⟨stored, hstored, -⟩)
    · cases hplan
    · rw [show deauthorizedTable[credsKey "org-1"]? = none by decide] at hstored
      cases hstored
  · rw [hsecond]
    exact (tokenUpdate_unnoticed_iff hkey hround (hsecond half)).mpr
      (Or.inr ⟨attrs, hcreds, fun now => hdecodes.readCreds now⟩)

/-- When the profile cannot be written, the org has tokens and is listed, and its
profile still says that it is deauthorized. -/
theorem tokens_without_authorization :
    let failed := (TokenUpdate.run sampleLib sampleKey "org-1" noon
      (.set sampleTokens "nonce" noon)).exec dynamo.faulty
        (deauthorizedTable, [none, some (.clientError "throttled")])
    failed.1 = .error (.clientError "throttled") ∧
      ((getServiceAppTokens sampleLib sampleKey noon "org-1").exec dynamo
        deauthorizedTable).1 = .ok none ∧
      ((getServiceAppTokens sampleLib sampleKey noon "org-1").exec dynamo failed.2.1).1 =
        .ok (some sampleTokens) ∧
      ¬ SameToCallers sampleLib sampleKey Paging.single deauthorizedTable failed.2.1 := by
  intro failed
  obtain ⟨attrs, hdecodes, -, hsecond⟩ := exists_setFailing
  have hfailed : failed = (.error (.clientError "throttled"),
      deauthorizedTable.insert (credsKey "org-1") attrs, []) := hsecond deauthorizedTable
  have hbefore : ((getServiceAppTokens sampleLib sampleKey noon "org-1").exec dynamo
      deauthorizedTable).1 = .ok none :=
    getServiceAppTokens_eq_none_iff.mpr (by decide)
  have hafter : ((getServiceAppTokens sampleLib sampleKey noon "org-1").exec dynamo
      failed.2.1).1 = .ok (some sampleTokens) := by
    rw [hfailed]
    refine getServiceAppTokens_eq_some_iff.mpr ⟨attrs, ?_, hdecodes.readCreds noon⟩
    rw [Table.getElem?_insert, if_pos rfl]
  refine ⟨by rw [hfailed], hbefore, hafter, fun hsame => ?_⟩
  have htokens := (hafter.symm.trans (hsame.tokens noon "org-1")).trans hbefore
  cases htokens

end ByodsServer
