/-
# Registrations of one org at the same time

An org's authorized webhook may be delivered again while the first delivery is
still at work, so several `auto_register_for_org` run at once. Each looks for the
configured URL and creates a data source when it has not found it. How many there
are in the end is the number of registrations that looked before there was one.
-/

import ByodsServer.Byods.UniqueUrls
import ByodsServer.Effects.Schedule
import Mathlib.Algebra.BigOperators.Group.Finset.Piecewise

namespace ByodsServer

open Effects Python

/-! ## One registration -/

/-- An org whose data source is to be registered under a configured URL. A listed
item that carries a URL carries its data source's. -/
structure AutoRegistration where
  repr : Json → String
  lib : UrlLib
  service : DataSourceService
  settings : Settings
  orgId : String
  url : String
  enabled : settings.autoRegisterDatasource = true
  configured : settings.buildDatasourceUrl lib = .ok (some url)
  listsOwnUrls : ∀ record, (service.listItem record).hasUrl url = true → record.url = url

/-- A configured URL is not empty. -/
theorem Settings.buildDatasourceUrl_ne_empty {settings : Settings} {lib : UrlLib} {url : String}
    (h : settings.buildDatasourceUrl lib = .ok (some url)) : url ≠ "" := by
  unfold Settings.buildDatasourceUrl at h
  split_ifs at h
  · cases h
  · cases hparsed : urlparse lib settings.datasourceBase with
    | error message => simp [hparsed] at h
    | ok parsed =>
        simp only [hparsed] at h
        split_ifs at h
        · cases h
        · cases h
          simp
        · cases h
          simp

namespace AutoRegistration

variable (org : AutoRegistration)

/-- `auto_register_for_org`, with the UUID of its nonce. -/
def program (uuid : String) : ByodsProgram (Option DataSource) :=
  autoRegisterForOrg org.repr org.lib org.settings uuid org.orgId

/-- What a registration does once it knows whether the URL is there. -/
def afterLooking (uuid : String) (found : Bool) : ByodsProgram (Option DataSource) :=
  if found then return none
  else do
    let created ← createDataSource org.repr org.orgId
      (buildCreatePayload org.settings uuid org.url) true
    return some created

/-- The last call of a registration that has not found the URL. -/
def creation (uuid : String) : ByodsProgram (Option DataSource) := do
  let created ← callByods (.acreate org.orgId (buildCreatePayload org.settings uuid org.url))
  return some created

/-- A data source has the URL. -/
def Registered (sources : OrgDataSources) : Prop :=
  ∃ record ∈ sources.records, record.url = org.url

theorem program_eq (uuid : String) :
    org.program uuid = (callByods (.agetClientForOrg org.orgId) >>= fun _ =>
      urlExists org.repr org.orgId org.url >>= org.afterLooking uuid) := by
  have hurl := Settings.buildDatasourceUrl_ne_empty org.configured
  rw [program, autoRegisterForOrg, org.enabled, org.configured]
  simp only [Bool.not_true, Bool.false_eq_true, if_false, Program.ofExcept_eq,
    Program.finish_bind, textOrEmpty, Option.getD_some, if_neg hurl]
  rfl

theorem afterLooking_false (uuid : String) :
    org.afterLooking uuid false =
      (callByods (.agetClientForOrg org.orgId) >>= fun _ => org.creation uuid) := by
  have hskip (payload : DataSourceCreate) : ¬ (!true ∧ payload.url ≠ "") := by simp
  rw [afterLooking, if_neg Bool.false_ne_true, createDataSource, Program.bind_bind]
  simp only [if_neg (hskip _)]
  rfl

/-- Only a data source with the URL can be listed with it. -/
theorem not_hasUrl_of_ne {record : DataSource} (h : record.url ≠ org.url) :
    (org.service.listItem record).hasUrl org.url = false := by
  by_contra hlisted
  exact h (org.listsOwnUrls record (by simpa using hlisted))

/-- The loop fetches the next data source, unless its listed item has the URL. -/
theorem urlExistsAmong_cons (sources : OrgDataSources) {record : DataSource}
    (hrecord : record ∈ sources.records)
    (hlisted : (org.service.listItem record).hasUrl org.url = false)
    (items : List DataSourceListItem) (uuid : String) :
    (urlExistsAmong org.repr org.orgId org.url (org.service.listItem record :: items) >>=
        org.afterLooking uuid) =
      (callByods (.aget org.orgId record.id) >>= fun detail =>
        if detail.url = org.url then org.afterLooking uuid true
        else urlExistsAmong org.repr org.orgId org.url items >>= org.afterLooking uuid) := by
  rw [urlExistsAmong, if_neg (by simp [hlisted]),
    fetchId?_listItem record (sources.ids_ne_empty record hrecord)]
  dsimp only
  rw [Program.bind_bind]
  congr 1
  funext detail
  by_cases hurl : detail.url = org.url
  · rw [if_pos hurl, if_pos hurl]
    rfl
  · rw [if_neg hurl, if_neg hurl]

/-! ## How far a registration has come -/

/-- The stages of a registration: it has not looked, it is bound to create, or it
creates nothing any more. -/
inductive RegistrationStage
  | waiting
  | bound
  | idle
  deriving DecidableEq

/-- At each stage, the programs that occur. Listed data sources stay, so a
registration finds the URL exactly when it was there when it looked. -/
inductive AtStage (uuid : String) (sources : OrgDataSources) :
    RegistrationStage → ByodsProgram (Option DataSource) → Prop
  | start : AtStage uuid sources .waiting (org.program uuid)
  | looks : AtStage uuid sources .waiting
      (urlExists org.repr org.orgId org.url >>= org.afterLooking uuid)
  | missing {records : List DataSource} (hrecords : records ⊆ sources.records)
      (hnone : ∀ record ∈ records, record.url ≠ org.url) :
      AtStage uuid sources .bound
        (urlExistsAmong org.repr org.orgId org.url (records.map org.service.listItem) >>=
          org.afterLooking uuid)
  | creates : AtStage uuid sources .bound (org.creation uuid)
  | found {records : List DataSource} (hrecords : records ⊆ sources.records)
      (hsome : ∃ record ∈ records, record.url = org.url) :
      AtStage uuid sources .idle
        (urlExistsAmong org.repr org.orgId org.url (records.map org.service.listItem) >>=
          org.afterLooking uuid)
  | finished (hregistered : org.Registered sources)
      (result : Except PyException (Option DataSource)) :
      AtStage uuid sources .idle (.finish result)

variable {org} {uuid : String} {sources : OrgDataSources} {stage : RegistrationStage}
  {p : ByodsProgram (Option DataSource)}

theorem AtStage.grow (h : org.AtStage uuid sources stage p) {later : OrgDataSources}
    (hlater : sources.records ⊆ later.records) : org.AtStage uuid later stage p := by
  cases h with
  | start => exact .start
  | looks => exact .looks
  | missing hrecords hnone => exact .missing (List.Subset.trans hrecords hlater) hnone
  | creates => exact .creates
  | found hrecords hsome => exact .found (List.Subset.trans hrecords hlater) hsome
  | finished hregistered result =>
      obtain ⟨record, hrecord, hurl⟩ := hregistered
      exact .finished ⟨record, hlater hrecord, hurl⟩ result

theorem AtStage.registered_of_idle (h : org.AtStage uuid sources .idle p) :
    org.Registered sources := by
  cases h with
  | found hrecords hsome =>
      obtain ⟨record, hrecord, hurl⟩ := hsome
      exact ⟨record, hrecords hrecord, hurl⟩
  | finished hregistered result => exact hregistered

/-- What a turn does to a registration's stage and to the org's data sources: it
goes on, it looks and finds the URL or misses it, or it creates. -/
inductive StageStep (org : AutoRegistration) :
    ByodsCall → RegistrationStage → OrgDataSources → RegistrationStage → OrgDataSources → Prop
  | goesOn {request : ByodsCall} (hrequest : request ≠ .alist org.orgId)
      (stage : RegistrationStage) (sources : OrgDataSources) :
      StageStep org request stage sources stage sources
  | finds {sources : OrgDataSources} (hregistered : org.Registered sources) :
      StageStep org (.alist org.orgId) .waiting sources .idle sources
  | misses {sources : OrgDataSources} (hnone : ¬ org.Registered sources) :
      StageStep org (.alist org.orgId) .waiting sources .bound sources
  | creates {request : ByodsCall} (hrequest : request ≠ .alist org.orgId)
      {sources later : OrgDataSources} {created : DataSource} (hurl : created.url = org.url)
      (hlater : later.records = sources.records ++ [created]) :
      StageStep org request .bound sources .idle later

theorem handler_aget {registry : DataSourceRegistry} {record : DataSource}
    (hrecord : record ∈ (registry org.orgId).records) :
    org.service.handler (.aget org.orgId record.id) registry = (.ok record, registry) := by
  rw [DataSourceService.handler, OrgDataSources.get?_of_mem hrecord]

/-- Whatever the next call of a registration is, a turn with it takes one step from
the stage. -/
def TakesStep (org : AutoRegistration) (uuid : String) (registry : DataSourceRegistry)
    (stage : RegistrationStage) (p : ByodsProgram (Option DataSource)) : Prop :=
  ∀ (request : ByodsCall) (next : Except PyException request.Reply →
      ByodsProgram (Option DataSource)), p = Program.call (S := byodsCalls) request next →
    ∃ later, org.StageStep request stage (registry org.orgId) later
        ((org.service.handler request registry).2 org.orgId) ∧
      org.AtStage uuid ((org.service.handler request registry).2 org.orgId) later
        (next (org.service.handler request registry).1)

variable {registry : DataSourceRegistry} {records : List DataSource}

/-- Without the URL among the records, the search goes on to the next one, and from
the last one to the creation. -/
theorem takesStep_of_missing (hrecords : records ⊆ (registry org.orgId).records)
    (hnone : ∀ record ∈ records, record.url ≠ org.url) :
    org.TakesStep uuid registry .bound
      (urlExistsAmong org.repr org.orgId org.url (records.map org.service.listItem) >>=
        org.afterLooking uuid) := by
  intro request next hcall
  cases records with
  | nil =>
      have hstart : (urlExistsAmong org.repr org.orgId org.url
          (([] : List DataSource).map org.service.listItem) >>= org.afterLooking uuid) =
            org.afterLooking uuid false := rfl
      rw [hstart, afterLooking_false] at hcall
      cases hcall
      exact ⟨.bound, .goesOn (by rintro ⟨⟩) _ _, .creates⟩
  | cons record records =>
      rw [List.cons_subset] at hrecords
      obtain ⟨hurl, hrest⟩ := List.forall_mem_cons.mp hnone
      have hlisted := org.not_hasUrl_of_ne hurl
      rw [List.map_cons, urlExistsAmong_cons org _ hrecords.1 hlisted] at hcall
      cases hcall
      rw [handler_aget hrecords.1]
      refine ⟨.bound, .goesOn (by rintro ⟨⟩) _ _, ?_⟩
      show org.AtStage uuid _ .bound (if record.url = org.url then _ else _)
      rw [if_neg hurl]
      exact .missing hrecords.2 hrest

/-- With the URL among the records, the search goes on until it comes to it. -/
theorem takesStep_of_found (hrecords : records ⊆ (registry org.orgId).records)
    (hsome : ∃ record ∈ records, record.url = org.url) :
    org.TakesStep uuid registry .idle
      (urlExistsAmong org.repr org.orgId org.url (records.map org.service.listItem) >>=
        org.afterLooking uuid) := by
  intro request next hcall
  cases records with
  | nil =>
      obtain ⟨record, hrecord, -⟩ := hsome
      cases hrecord
  | cons record records =>
      rw [List.cons_subset] at hrecords
      by_cases hlisted : (org.service.listItem record).hasUrl org.url = true
      · rw [List.map_cons, urlExistsAmong, if_pos hlisted] at hcall
        cases hcall
      · rw [List.map_cons, urlExistsAmong_cons org _ hrecords.1 (by simpa using hlisted)] at hcall
        cases hcall
        rw [handler_aget hrecords.1]
        refine ⟨.idle, .goesOn (by rintro ⟨⟩) _ _, ?_⟩
        show org.AtStage uuid _ .idle (if record.url = org.url then _ else _)
        by_cases hurl : record.url = org.url
        · rw [if_pos hurl]
          exact .finished ⟨record, hrecords.1, hurl⟩ _
        · rw [if_neg hurl]
          refine .found hrecords.2 ?_
          simpa [hurl] using hsome

/-- One turn of a registration. -/
theorem AtStage.turn (h : org.AtStage uuid (registry org.orgId) stage p) :
    org.TakesStep uuid registry stage p := by
  cases h with
  | start =>
      intro request next hcall
      rw [program_eq] at hcall
      cases hcall
      exact ⟨.waiting, .goesOn (by rintro ⟨⟩) _ _, .looks⟩
  | looks =>
      intro request next hcall
      rw [urlExists, Program.bind_bind] at hcall
      cases hcall
      by_cases hregistered : org.Registered (registry org.orgId)
      · exact ⟨.idle, .finds hregistered, .found (List.Subset.refl _) hregistered⟩
      · refine ⟨.bound, .misses hregistered, .missing (List.Subset.refl _) ?_⟩
        exact fun record hrecord hurl => hregistered ⟨record, hrecord, hurl⟩
  | missing hrecords hnone => exact takesStep_of_missing hrecords hnone
  | creates =>
      intro request next hcall
      cases hcall
      have hadded : ((org.service.handler (.acreate org.orgId
          (buildCreatePayload org.settings uuid org.url)) registry).2 org.orgId).records =
            (registry org.orgId).records ++ [⟨org.service.newId (registry org.orgId)
              (buildCreatePayload org.settings uuid org.url), org.url⟩] :=
        congrArg OrgDataSources.records (Function.update_self org.orgId _ registry)
      have hregistered : org.Registered ((org.service.handler (.acreate org.orgId
          (buildCreatePayload org.settings uuid org.url)) registry).2 org.orgId) := by
        rw [Registered, hadded]
        exact ⟨_, List.mem_append_right _ (List.mem_singleton_self _), rfl⟩
      exact ⟨.idle, .creates (by rintro ⟨⟩) rfl hadded, .finished hregistered _⟩
  | found hrecords hsome => exact takesStep_of_found hrecords hsome
  | finished hregistered result =>
      intro request next hcall
      cases hcall

/-- A registration that has not looked is at its start or about to list. -/
def HasNotLooked (org : AutoRegistration) (uuid : String)
    (p : ByodsProgram (Option DataSource)) : Prop :=
  p = org.program uuid ∨ p.nextCall? = some (.alist org.orgId)

/-- A registration that looks up the URL again is not at its start: what follows
its first call is no listing. -/
theorem afterLooking_ne_program : org.afterLooking uuid false ≠ org.program uuid := by
  rw [program_eq, afterLooking_false]
  intro hsame
  have hnext : (Program.andThen (fun _ => org.creation uuid) : Except PyException Unit → _) =
      Program.andThen fun _ =>
        urlExists org.repr org.orgId org.url >>= org.afterLooking uuid := by
    injection hsame
  have hcalls := congrArg Program.nextCall? (congrFun hnext (.ok ()))
  cases hcalls

theorem AtStage.hasNotLooked (h : org.AtStage uuid sources .waiting p) :
    org.HasNotLooked uuid p := by
  cases h with
  | start => exact Or.inl rfl
  | looks => exact Or.inr rfl

theorem HasNotLooked.nextCall? (h : org.HasNotLooked uuid p) :
    p.nextCall? = some (.agetClientForOrg org.orgId) ∨ p.nextCall? = some (.alist org.orgId) := by
  refine h.imp (fun hstart => ?_) id
  rw [hstart, program_eq]
  rfl

/-- The loop connects again, fetches or has nothing to do. -/
theorem not_hasNotLooked_loop {records : List DataSource}
    (hrecords : records ⊆ sources.records) :
    ¬ org.HasNotLooked uuid (urlExistsAmong org.repr org.orgId org.url
      (records.map org.service.listItem) >>= org.afterLooking uuid) := by
  cases records with
  | nil =>
      rintro (hstart | hlists)
      · exact afterLooking_ne_program hstart
      · cases hlists
  | cons record records =>
      intro hnot
      have hcalls := hnot.nextCall?
      by_cases hlisted : (org.service.listItem record).hasUrl org.url = true
      · rw [List.map_cons, urlExistsAmong, if_pos hlisted] at hcalls
        rcases hcalls with hcall | hcall
        · cases hcall
        · cases hcall
      · rw [List.map_cons, urlExistsAmong_cons org sources (hrecords List.mem_cons_self)
          (by simpa using hlisted)] at hcalls
        rcases hcalls with hcall | hcall
        · cases hcall
        · cases hcall

theorem AtStage.waiting_of_hasNotLooked (h : org.AtStage uuid sources stage p)
    (hnot : org.HasNotLooked uuid p) : stage = .waiting := by
  cases h with
  | start => rfl
  | looks => rfl
  | missing hrecords _ => exact (not_hasNotLooked_loop hrecords hnot).elim
  | creates =>
      rcases hnot.nextCall? with hcall | hcall
      · cases hcall
      · cases hcall
  | found hrecords _ => exact (not_hasNotLooked_loop hrecords hnot).elim
  | finished _ result =>
      rcases hnot.nextCall? with hcall | hcall
      · cases hcall
      · cases hcall

/-- Only a registration that creates nothing any more can have finished. -/
theorem AtStage.idle_of_finish (h : org.AtStage uuid sources stage p)
    {result : Except PyException (Option DataSource)} (hfinish : p = .finish result) :
    stage = .idle := by
  cases h with
  | start =>
      rw [program_eq] at hfinish
      cases hfinish
  | looks => cases hfinish
  | @missing records hrecords hnone =>
      cases records with
      | nil => cases hfinish
      | cons record records =>
          have hlisted := org.not_hasUrl_of_ne (hnone record List.mem_cons_self)
          rw [List.map_cons, urlExistsAmong_cons org sources (hrecords List.mem_cons_self)
            hlisted] at hfinish
          cases hfinish
  | creates => cases hfinish
  | found _ _ => rfl
  | finished _ _ => rfl

/-! ## Registrations together -/

variable {ι : Type}

/-- How many data sources there are under the URL. -/
def registeredCount (org : AutoRegistration) (sources : OrgDataSources) : ℕ :=
  sources.records.countP fun record => record.url = org.url

theorem registeredCount_eq_zero : org.registeredCount sources = 0 ↔ ¬ org.Registered sources := by
  simp [registeredCount, Registered, List.countP_eq_zero]

theorem StageStep.grows {request : ByodsCall} {later : RegistrationStage}
    {laterSources : OrgDataSources} (h : org.StageStep request stage sources later laterSources) :
    sources.records ⊆ laterSources.records := by
  cases h with
  | goesOn _ _ _ => exact List.Subset.refl _
  | finds _ => exact List.Subset.refl _
  | misses _ => exact List.Subset.refl _
  | creates _ _ hlater =>
      rw [hlater]
      exact List.subset_append_left _ _

/-- Only a look that misses the URL adds to the data sources there are and will be. -/
theorem StageStep.count {request : ByodsCall} {later : RegistrationStage}
    {laterSources : OrgDataSources} (h : org.StageStep request stage sources later laterSources) :
    ((request = .alist org.orgId → org.Registered sources) ∧
      org.registeredCount laterSources + (if later = .bound then 1 else 0) =
        org.registeredCount sources + (if stage = .bound then 1 else 0)) ∨
    (request = .alist org.orgId ∧ ¬ org.Registered sources ∧
      org.registeredCount laterSources + (if later = .bound then 1 else 0) =
        org.registeredCount sources + (if stage = .bound then 1 else 0) + 1) := by
  cases h with
  | goesOn hrequest _ _ => exact Or.inl ⟨fun heq => (hrequest heq).elim, rfl⟩
  | finds hregistered => exact Or.inl ⟨fun _ => hregistered, rfl⟩
  | misses hnone => exact Or.inr ⟨rfl, hnone, rfl⟩
  | creates hrequest hurl hlater =>
      refine Or.inl ⟨fun heq => (hrequest heq).elim, ?_⟩
      simp [registeredCount, hlater, hurl]

/-- Registrations of the org that are about to start. -/
def registrationPool (org : AutoRegistration) (uuids : ι → String)
    (registry : DataSourceRegistry) :
    Pool byodsCalls PyException (Option DataSource) ι DataSourceRegistry where
  state := registry
  programs who := org.program (uuids who)

section Together

variable (org) (uuids : ι → String)

/-- A registration lists the org's data sources only when one has the URL, or when
no other registration has listed them yet. -/
def LooksInTime [DecidableEq ι]
    (pool : Pool byodsCalls PyException (Option DataSource) ι DataSourceRegistry)
    (schedule : List ι) : Prop :=
  pool.AtEveryTurn org.service.handler schedule fun pool who =>
    (pool.programs who).nextCall? = some (.alist org.orgId) →
      org.Registered (pool.state org.orgId) ∨
        ∀ other, other ≠ who → org.HasNotLooked (uuids other) (pool.programs other)

/-- Each registration is at its stage, and so many data sources are registered
under the URL or still going to be. -/
def Owes [Fintype ι]
    (pool : Pool byodsCalls PyException (Option DataSource) ι DataSourceRegistry) (total : ℕ) :
    Prop :=
  ∃ stages : ι → RegistrationStage,
    (∀ who, org.AtStage (uuids who) (pool.state org.orgId) (stages who) (pool.programs who)) ∧
    total = org.registeredCount (pool.state org.orgId) +
      (Finset.univ.filter fun who => stages who = .bound).card

variable {org uuids} [Fintype ι] [DecidableEq ι]
  {pool : Pool byodsCalls PyException (Option DataSource) ι DataSourceRegistry} {total : ℕ}

omit uuids in
theorem card_bound_update (stages : ι → RegistrationStage) (who : ι) (later : RegistrationStage) :
    (Finset.univ.filter fun other => Function.update stages who later other = .bound).card +
        (if stages who = .bound then 1 else 0) =
      (Finset.univ.filter fun other => stages other = .bound).card +
        (if later = .bound then 1 else 0) := by
  rw [Finset.card_filter, Finset.card_filter, Fintype.sum_eq_add_sum_compl who,
    Fintype.sum_eq_add_sum_compl who fun other => if stages other = .bound then 1 else 0,
    Function.update_self]
  have hothers : ∑ other ∈ {who}ᶜ,
      (if Function.update stages who later other = .bound then 1 else 0) =
        ∑ other ∈ {who}ᶜ, if stages other = .bound then 1 else 0 := by
    apply Finset.sum_congr rfl
    intro other hother
    rw [Function.update_of_ne (by simpa using hother)]
  omega

/-- One turn: the number grows by one when a registration looks and misses the URL,
and is the same after any other turn. -/
theorem Owes.step (h : org.Owes uuids pool total) (who : ι) :
    ∃ later, org.Owes uuids (pool.stepAt org.service.handler who) later ∧
      ((later = total ∧ ((pool.programs who).nextCall? = some (.alist org.orgId) →
          org.Registered (pool.state org.orgId))) ∨
        (later = total + 1 ∧ ¬ org.Registered (pool.state org.orgId) ∧
          (pool.programs who).nextCall? = some (.alist org.orgId))) := by
  obtain ⟨stages, hstages, rfl⟩ := h
  cases hprogram : pool.programs who with
  | finish result =>
      rw [Pool.stepAt_finish org.service.handler hprogram]
      exact ⟨_, ⟨stages, hstages, rfl⟩, Or.inl ⟨rfl, fun hlists => nomatch hlists⟩⟩
  | call request next =>
      obtain ⟨later, hstep, hlater⟩ := (hstages who).turn _ _ hprogram
      rw [Pool.stepAt_call org.service.handler hprogram]
      have hall (other : ι) : org.AtStage (uuids other)
          ((org.service.handler request pool.state).2 org.orgId)
          (Function.update stages who later other)
          (Function.update pool.programs who (next (org.service.handler request pool.state).1)
            other) := by
        by_cases hother : other = who
        · subst hother
          simpa using hlater
        · simpa [Function.update_of_ne hother] using (hstages other).grow hstep.grows
      refine ⟨_, ⟨Function.update stages who later, hall, rfl⟩, ?_⟩
      have hcard := card_bound_update stages who later
      rcases hstep.count with ⟨hlooks, hcount⟩ | ⟨rfl, hnone, hcount⟩
      · exact Or.inl ⟨by dsimp only; omega, fun hlists => hlooks (Option.some.inj hlists)⟩
      · exact Or.inr ⟨by dsimp only; omega, hnone, rfl⟩

/-- The number never shrinks. -/
theorem Owes.run (schedule : List ι) : ∀ {pool total}, org.Owes uuids pool total →
    ∃ later, total ≤ later ∧
      org.Owes uuids (pool.runSchedule org.service.handler schedule) later := by
  induction schedule with
  | nil => exact fun h => ⟨_, le_rfl, h⟩
  | cons who schedule ih =>
      intro pool total h
      obtain ⟨next, hnext, hturn⟩ := h.step who
      obtain ⟨later, hle, hlater⟩ := ih hnext
      refine ⟨later, ?_, hlater⟩
      rcases hturn with ⟨rfl, -⟩ | ⟨rfl, -⟩
      · exact hle
      · omega

/-- When a registration looks and the URL is not there, the others have not looked
exactly when nothing is owed. -/
theorem Owes.others_hasNotLooked_iff (h : org.Owes uuids pool total) {who : ι}
    (hlists : (pool.programs who).nextCall? = some (.alist org.orgId))
    (hnone : ¬ org.Registered (pool.state org.orgId)) :
    (∀ other, other ≠ who → org.HasNotLooked (uuids other) (pool.programs other)) ↔
      total = 0 := by
  obtain ⟨stages, hstages, rfl⟩ := h
  rw [registeredCount_eq_zero.mpr hnone, Nat.zero_add, Finset.card_eq_zero,
    Finset.filter_eq_empty_iff]
  constructor
  · intro hothers other _ hbound
    have hnot : org.HasNotLooked (uuids other) (pool.programs other) := by
      by_cases hother : other = who
      · rw [hother]
        exact Or.inr hlists
      · exact hothers other hother
    rw [(hstages other).waiting_of_hasNotLooked hnot] at hbound
    cases hbound
  · intro hunbound other _
    cases hstage : stages other with
    | waiting => exact (hstage ▸ hstages other).hasNotLooked
    | bound => exact (hunbound (Finset.mem_univ other) hstage).elim
    | idle => exact (hnone (hstage ▸ hstages other).registered_of_idle).elim

omit [DecidableEq ι] in
/-- Once all have finished, what is owed is there, and it is at least one. -/
theorem Owes.settled [Nonempty ι] (h : org.Owes uuids pool total) (hsettled : pool.Settled) :
    org.registeredCount (pool.state org.orgId) = total ∧ 1 ≤ total := by
  obtain ⟨stages, hstages, rfl⟩ := h
  have hidle (who : ι) : stages who = .idle := by
    obtain ⟨result, hresult⟩ := hsettled who
    exact (hstages who).idle_of_finish hresult
  have hunbound : (Finset.univ.filter fun who => stages who = .bound).card = 0 := by
    rw [Finset.card_eq_zero, Finset.filter_eq_empty_iff]
    intro who _ hbound
    rw [hidle who] at hbound
    cases hbound
  have who := Classical.arbitrary ι
  have hregistered := (hidle who ▸ hstages who).registered_of_idle
  have hpositive := mt registeredCount_eq_zero.mp (not_not.mpr hregistered)
  omega

/-- While every registration looks in time, at most one data source is owed. -/
theorem owes_le_one (schedule : List ι) : ∀ {pool total}, org.Owes uuids pool total →
    total ≤ 1 → org.LooksInTime uuids pool schedule →
    ∃ later ≤ 1, org.Owes uuids (pool.runSchedule org.service.handler schedule) later := by
  induction schedule with
  | nil => exact fun h hle _ => ⟨_, hle, h⟩
  | cons who schedule ih =>
      intro pool total h hle htime
      obtain ⟨next, hnext, hturn⟩ := h.step who
      refine ih hnext ?_ (Pool.AtEveryTurn.tail org.service.handler htime)
      rcases hturn with ⟨rfl, -⟩ | ⟨rfl, hnone, hlists⟩
      · exact hle
      · have hothers := (Pool.AtEveryTurn.head org.service.handler htime hlists).resolve_left hnone
        have hzero := (h.others_hasNotLooked_iff hlists hnone).mp hothers
        omega

omit [DecidableEq ι] in
theorem owes_start {registry : DataSourceRegistry}
    (hnew : ¬ org.Registered (registry org.orgId)) :
    org.Owes uuids (org.registrationPool uuids registry) 0 := by
  refine ⟨fun _ => .waiting, fun who => .start, ?_⟩
  have hcount := registeredCount_eq_zero.mpr hnew
  simp [registrationPool, hcount]

/-- A registration that looks too late makes a second data source. -/
theorem two_le_of_not_looksInTime {registry : DataSourceRegistry} {schedule : List ι}
    (hnew : ¬ org.Registered (registry org.orgId))
    (h : ¬ org.LooksInTime uuids (org.registrationPool uuids registry) schedule) :
    ∃ later, 2 ≤ later ∧ org.Owes uuids
      ((org.registrationPool uuids registry).runSchedule org.service.handler schedule) later := by
  simp only [LooksInTime, Pool.AtEveryTurn, not_forall, not_or] at h
  obtain ⟨before, who, after, rfl, hlists, hnone, hothers⟩ := h
  obtain ⟨total, -, hbefore⟩ := (owes_start hnew).run before
  have howed : total ≠ 0 := by
    intro hzero
    obtain ⟨other, hother, hlooked⟩ := hothers
    exact hlooked ((hbefore.others_hasNotLooked_iff hlists hnone).mpr hzero other hother)
  obtain ⟨next, hnext, hturn⟩ := hbefore.step who
  obtain ⟨later, hle, hlater⟩ := hnext.run after
  refine ⟨later, ?_, ?_⟩
  · rcases hturn with ⟨-, hfound⟩ | ⟨rfl, -⟩
    · exact (hnone (hfound hlists)).elim
    · omega
  · rw [Pool.runSchedule_append]
    exact hlater

/-- Registrations of an org that has no data source at the configured URL, in any
number and with their calls in any order, leave exactly one there if and only if
each of them looks in time. -/
theorem one_data_source_iff [Nonempty ι] {registry : DataSourceRegistry} {schedule : List ι}
    (hnew : ¬ org.Registered (registry org.orgId))
    (hsettled : ((org.registrationPool uuids registry).runSchedule org.service.handler
      schedule).Settled) :
    org.registeredCount (((org.registrationPool uuids registry).runSchedule
        org.service.handler schedule).state org.orgId) = 1 ↔
      org.LooksInTime uuids (org.registrationPool uuids registry) schedule := by
  constructor
  · intro hone
    by_contra hlate
    obtain ⟨total, htwo, howes⟩ := two_le_of_not_looksInTime hnew hlate
    have hcount := (howes.settled hsettled).1
    omega
  · intro htime
    obtain ⟨total, hle, howes⟩ := owes_le_one schedule (owes_start hnew) (Nat.zero_le 1) htime
    obtain ⟨hcount, hpositive⟩ := howes.settled hsettled
    omega

end Together

end AutoRegistration

/-! ## Two deliveries -/

/-- Settings with a public URL. -/
def publicSettings : Settings :=
  { defaultSettings with datasourcePublicUrl := some "https://api.example.com" }

/-- An org whose URLs are listed. -/
def publicOrg : AutoRegistration where
  repr _ := ""
  lib := plainUrlLib
  service := listingService
  settings := publicSettings
  orgId := "org-1"
  url := "https://api.example.com/grpc"
  enabled := rfl
  configured := by decide
  listsOwnUrls record h := by
    have hurl : (record.url == "https://api.example.com/grpc") = true := h
    exact beq_iff_eq.mp hurl

/-- No org has a data source. -/
def noDataSources : DataSourceRegistry := fun _ =>
  { records := []
    ids_nodup := List.nodup_nil
    ids_ne_empty := by simp }

/-- The nonces of two deliveries. -/
def nonces (who : Bool) : String := if who then "nonce-1" else "nonce-2"

/-- The second delivery starts when the first one is through. -/
theorem one_data_source_iff_retry :
    publicOrg.LooksInTime nonces (publicOrg.registrationPool nonces noDataSources)
      [true, true, true, true, false, false] := by
  refine (AutoRegistration.one_data_source_iff ?_ ?_).mp ?_
  · rintro ⟨record, hrecord, -⟩
    cases hrecord
  · apply Pool.settled_of_nextCall?
    decide +kernel
  · decide +kernel

/-- Both deliveries list the data sources before either creates one. -/
theorem two_lookups_register_twice :
    let final := (publicOrg.registrationPool nonces noDataSources).runSchedule
      publicOrg.service.handler [true, true, false, false, true, true, false, false]
    ¬ publicOrg.Registered (noDataSources "org-1") ∧ final.Settled ∧
      (final.state "org-1").records.map DataSource.url =
        ["https://api.example.com/grpc", "https://api.example.com/grpc"] := by
  refine ⟨?_, ?_, by decide +kernel⟩
  · rintro ⟨record, hrecord, -⟩
    cases hrecord
  · apply Pool.settled_of_nextCall?
    decide +kernel

end ByodsServer
