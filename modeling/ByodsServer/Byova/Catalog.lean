/-
# The virtual agent catalog

The entries Flow Designer discovers, their validation, and the seed file they
can be loaded from. `validateCatalogEntries` is the loop of the source;
`ValidCatalog` says what it accepts, and `Catalog` is a list that carries the
fact with it.

The seed file is given by what reading it does. The JSON parser and the texts of
lists and dictionaries are the runtime's and stay parameters.
-/

import ByodsServer.Exceptions
import ByodsServer.Python.Json
import ByodsServer.Python.Text
import Mathlib.Data.List.Nodup
import Mathlib.Data.List.Perm.Subperm

namespace ByodsServer

open Python

/-- One agent advertised to Flow Designer. -/
structure VirtualAgentCatalogEntry where
  virtualAgentId : String
  virtualAgentName : String
  isDefault : Bool := false
  deriving DecidableEq, Repr

/-! ## Validation -/

/-- The loop of the validation, with the ids seen and the defaults counted so
far; it returns the number of defaults. -/
def validateEntriesFrom (seenIds : List String) (defaultCount : ℕ) :
    List VirtualAgentCatalogEntry → Except PyException ℕ
  | [] => .ok defaultCount
  | entry :: entries =>
      if strip entry.virtualAgentId = "" then
        .error (.catalogLoadError "virtual_agent_id must be non-empty.")
      else if strip entry.virtualAgentName = "" then
        .error (.catalogLoadError
          ("virtual_agent_id '" ++ entry.virtualAgentId ++ "' has an empty virtual_agent_name."))
      else if entry.virtualAgentId ∈ seenIds then
        .error (.catalogLoadError
          ("Duplicate virtual_agent_id '" ++ entry.virtualAgentId ++ "' in catalog."))
      else
        validateEntriesFrom (entry.virtualAgentId :: seenIds)
          (if entry.isDefault then defaultCount + 1 else defaultCount) entries

/-- Validate aggregate catalog rules. -/
def validateCatalogEntries (entries : List VirtualAgentCatalogEntry) :
    Except PyException Unit :=
  if entries.isEmpty then
    .error (.catalogLoadError "Catalog is empty. At least one virtual agent is required.")
  else do
    let defaultCount ← validateEntriesFrom [] 0 entries
    if defaultCount > 1 then
      .error (.catalogLoadError ("Catalog marks more than one agent as is_default=true. " ++
        "At most one default agent is allowed."))
    else
      .ok ()

/-- At least one agent, ids and names that are not blank, each id once, and at
most one default. -/
structure ValidCatalog (entries : List VirtualAgentCatalogEntry) : Prop where
  nonempty : entries ≠ []
  id_not_blank : ∀ entry ∈ entries, strip entry.virtualAgentId ≠ ""
  name_not_blank : ∀ entry ∈ entries, strip entry.virtualAgentName ≠ ""
  ids_nodup : (entries.map VirtualAgentCatalogEntry.virtualAgentId).Nodup
  at_most_one_default : entries.countP VirtualAgentCatalogEntry.isDefault ≤ 1

theorem validateEntriesFrom_eq_ok_iff (entries : List VirtualAgentCatalogEntry)
    (seenIds : List String) (defaultCount total : ℕ) :
    validateEntriesFrom seenIds defaultCount entries = .ok total ↔
      (∀ entry ∈ entries, strip entry.virtualAgentId ≠ "" ∧
        strip entry.virtualAgentName ≠ "" ∧ entry.virtualAgentId ∉ seenIds) ∧
      (entries.map VirtualAgentCatalogEntry.virtualAgentId).Nodup ∧
      total = defaultCount + entries.countP VirtualAgentCatalogEntry.isDefault := by
  induction entries generalizing seenIds defaultCount with
  | nil => simp only [validateEntriesFrom, Except.ok.injEq, List.not_mem_nil, false_implies,
      implies_true, List.map_nil, List.nodup_nil, List.countP_nil, Nat.add_zero, true_and,
      eq_comm]
  | cons entry entries ih =>
      by_cases hid : strip entry.virtualAgentId = ""
      · simp [validateEntriesFrom, hid]
      by_cases hname : strip entry.virtualAgentName = ""
      · simp [validateEntriesFrom, hid, hname]
      by_cases hseen : entry.virtualAgentId ∈ seenIds
      · simp [validateEntriesFrom, hid, hname, hseen]
      have hcount : (if entry.isDefault then defaultCount + 1 else defaultCount) +
          entries.countP VirtualAgentCatalogEntry.isDefault =
            defaultCount + (entry :: entries).countP VirtualAgentCatalogEntry.isDefault := by
        by_cases hdefault : entry.isDefault <;> simp [hdefault]; omega
      rw [validateEntriesFrom, if_neg hid, if_neg hname, if_neg hseen, ih, hcount]
      rw [List.forall_mem_cons, List.map_cons, List.nodup_cons]
      simp only [List.mem_cons, not_or, List.mem_map, not_exists, not_and]
      constructor
      · rintro ⟨hrest, hnodup, htotal⟩
        exact ⟨⟨⟨hid, hname, hseen⟩, fun other hother =>
          ⟨(hrest other hother).1, (hrest other hother).2.1, (hrest other hother).2.2.2⟩⟩,
          ⟨fun other hother => (hrest other hother).2.2.1, hnodup⟩, htotal⟩
      · rintro ⟨⟨-, hrest⟩, ⟨hfresh, hnodup⟩, htotal⟩
        exact ⟨fun other hother => ⟨(hrest other hother).1, (hrest other hother).2.1,
          hfresh other hother, (hrest other hother).2.2⟩, hnodup, htotal⟩

/-- The loop raises nothing but load errors. -/
theorem validateEntriesFrom_error {entries : List VirtualAgentCatalogEntry}
    {seenIds : List String} {defaultCount : ℕ} {e : PyException}
    (h : validateEntriesFrom seenIds defaultCount entries = .error e) :
    ∃ message, e = .catalogLoadError message := by
  induction entries generalizing seenIds defaultCount with
  | nil => simp [validateEntriesFrom] at h
  | cons entry entries ih =>
      rw [validateEntriesFrom] at h
      split_ifs at h
      · exact ⟨_, (Except.error.inj h).symm⟩
      · exact ⟨_, (Except.error.inj h).symm⟩
      · exact ⟨_, (Except.error.inj h).symm⟩
      · exact ih h
      · exact ih h

theorem validateCatalogEntries_cons (entry : VirtualAgentCatalogEntry)
    (entries : List VirtualAgentCatalogEntry) :
    validateCatalogEntries (entry :: entries) =
      (validateEntriesFrom [] 0 (entry :: entries) >>= fun defaultCount =>
        if defaultCount > 1 then
          .error (.catalogLoadError ("Catalog marks more than one agent as is_default=true. " ++
            "At most one default agent is allowed."))
        else .ok ()) := rfl

theorem validateCatalogEntries_eq_ok_iff (entries : List VirtualAgentCatalogEntry) :
    validateCatalogEntries entries = .ok () ↔ ValidCatalog entries := by
  cases entries with
  | nil => exact ⟨fun h => (nomatch h), fun h => (h.nonempty rfl).elim⟩
  | cons entry entries =>
      rw [validateCatalogEntries_cons]
      constructor
      · intro h
        cases hloop : validateEntriesFrom [] 0 (entry :: entries) with
        | error e => simp [hloop, bind, Except.bind] at h
        | ok total =>
            obtain ⟨hblank, hnodup, htotal⟩ :=
              (validateEntriesFrom_eq_ok_iff _ _ _ _).mp hloop
            have hle : ¬ total > 1 := fun hgt => by
              simp [hloop, bind, Except.bind, hgt] at h
            exact ⟨List.cons_ne_nil _ _, fun other hother => (hblank other hother).1,
              fun other hother => (hblank other hother).2.1, hnodup, by omega⟩
      · intro h
        have hloop : validateEntriesFrom [] 0 (entry :: entries) =
            .ok ((entry :: entries).countP VirtualAgentCatalogEntry.isDefault) := by
          rw [validateEntriesFrom_eq_ok_iff]
          exact ⟨fun other hother => ⟨h.id_not_blank other hother,
            h.name_not_blank other hother, List.not_mem_nil⟩, h.ids_nodup, (Nat.zero_add _).symm⟩
        rw [hloop]
        exact if_neg (Nat.not_lt.mpr h.at_most_one_default)

/-- Validation raises nothing but load errors. -/
theorem validateCatalogEntries_error {entries : List VirtualAgentCatalogEntry}
    {e : PyException} (h : validateCatalogEntries entries = .error e) :
    ∃ message, e = .catalogLoadError message := by
  cases entries with
  | nil => exact ⟨_, (Except.error.inj h).symm⟩
  | cons entry entries =>
      rw [validateCatalogEntries_cons] at h
      cases hloop : validateEntriesFrom [] 0 (entry :: entries) with
      | error e' =>
          simp only [hloop, bind, Except.bind, Except.error.injEq] at h
          exact h ▸ validateEntriesFrom_error hloop
      | ok total =>
          simp only [hloop, bind, Except.bind] at h
          split_ifs at h
          exact ⟨_, (Except.error.inj h).symm⟩

/-- A non-empty selection of entries of a valid catalog is valid. -/
theorem ValidCatalog.of_subset {entries listed : List VirtualAgentCatalogEntry}
    (h : ValidCatalog entries) (hnonempty : listed ≠ [])
    (hnodup : (listed.map VirtualAgentCatalogEntry.virtualAgentId).Nodup)
    (hsubset : ∀ entry ∈ listed, entry ∈ entries) : ValidCatalog listed where
  nonempty := hnonempty
  id_not_blank entry hentry := h.id_not_blank entry (hsubset entry hentry)
  name_not_blank entry hentry := h.name_not_blank entry (hsubset entry hentry)
  ids_nodup := hnodup
  at_most_one_default :=
    ((List.subperm_of_subset (hnodup.of_map _) hsubset).countP_le _).trans h.at_most_one_default

/-- The order of a catalog does not matter. -/
theorem ValidCatalog.perm {entries others : List VirtualAgentCatalogEntry}
    (h : ValidCatalog entries) (hperm : entries.Perm others) : ValidCatalog others := by
  refine h.of_subset ?_ ?_ fun entry hentry => hperm.mem_iff.mpr hentry
  · rintro rfl
    exact h.nonempty hperm.eq_nil
  · exact (hperm.map _).nodup h.ids_nodup

/-- A catalog stays valid when its entries keep their ids and get names that are
not blank and at most one default. -/
theorem ValidCatalog.map {entries : List VirtualAgentCatalogEntry} (h : ValidCatalog entries)
    {change : VirtualAgentCatalogEntry → VirtualAgentCatalogEntry}
    (hid : ∀ entry ∈ entries, (change entry).virtualAgentId = entry.virtualAgentId)
    (hname : ∀ entry ∈ entries, strip (change entry).virtualAgentName ≠ "")
    (hdefault : entries.countP (fun entry => (change entry).isDefault) ≤ 1) :
    ValidCatalog (entries.map change) where
  nonempty hnil := h.nonempty (List.map_eq_nil_iff.mp hnil)
  id_not_blank changed hchanged := by
    obtain ⟨entry, hentry, rfl⟩ := List.mem_map.mp hchanged
    rw [hid entry hentry]
    exact h.id_not_blank entry hentry
  name_not_blank changed hchanged := by
    obtain ⟨entry, hentry, rfl⟩ := List.mem_map.mp hchanged
    exact hname entry hentry
  ids_nodup := by
    have hids : (entries.map change).map VirtualAgentCatalogEntry.virtualAgentId =
        entries.map VirtualAgentCatalogEntry.virtualAgentId := by
      rw [List.map_map]
      exact List.map_congr_left hid
    rw [hids]
    exact h.ids_nodup
  at_most_one_default := by
    rw [List.countP_map]
    exact hdefault

/-- A new agent can be added at the end, as a default only if there was none. -/
theorem ValidCatalog.concat {entries : List VirtualAgentCatalogEntry} (h : ValidCatalog entries)
    {added : VirtualAgentCatalogEntry} (hid : strip added.virtualAgentId ≠ "")
    (hname : strip added.virtualAgentName ≠ "")
    (hnew : added.virtualAgentId ∉ entries.map VirtualAgentCatalogEntry.virtualAgentId)
    (hdefault : added.isDefault = true →
      entries.countP VirtualAgentCatalogEntry.isDefault = 0) :
    ValidCatalog (entries ++ [added]) where
  nonempty := List.append_ne_nil_of_right_ne_nil _ (List.cons_ne_nil _ _)
  id_not_blank entry hentry := by
    rcases List.mem_append.mp hentry with hentry | hentry
    · exact h.id_not_blank entry hentry
    · rw [List.mem_singleton.mp hentry]
      exact hid
  name_not_blank entry hentry := by
    rcases List.mem_append.mp hentry with hentry | hentry
    · exact h.name_not_blank entry hentry
    · rw [List.mem_singleton.mp hentry]
      exact hname
  ids_nodup := by
    rw [List.map_append, List.map_singleton, List.nodup_append_comm]
    exact List.nodup_cons.mpr ⟨hnew, h.ids_nodup⟩
  at_most_one_default := by
    rw [List.countP_append]
    by_cases hadded : added.isDefault = true
    · simp [hdefault hadded, hadded]
    · simpa [hadded] using h.at_most_one_default

instance (entries : List VirtualAgentCatalogEntry) : Decidable (ValidCatalog entries) :=
  decidable_of_iff _ (validateCatalogEntries_eq_ok_iff entries)

/-- A valid list of entries. -/
structure Catalog where
  entries : List VirtualAgentCatalogEntry
  valid : ValidCatalog entries

namespace Catalog

theorem validate (catalog : Catalog) : validateCatalogEntries catalog.entries = .ok () :=
  (validateCatalogEntries_eq_ok_iff _).mpr catalog.valid

/-- An entry of a catalog is determined by its id. -/
theorem eq_of_id_eq (catalog : Catalog) {first second : VirtualAgentCatalogEntry}
    (hfirst : first ∈ catalog.entries) (hsecond : second ∈ catalog.entries)
    (hid : first.virtualAgentId = second.virtualAgentId) : first = second :=
  List.inj_on_of_nodup_map catalog.valid.ids_nodup hfirst hsecond hid

end Catalog

/-! ## The seed file -/

/-- The runtime's JSON parser and the texts it gives to lists and dictionaries. -/
structure JsonLib where
  loads : String → Except PyException Json
  repr : Json → String

/-- A path with what looking there and reading from there does. -/
structure SeedFile where
  path : String
  isFile : Bool
  readText : Except PyException String

/-- Turn one dictionary of the file into an entry. -/
def parseCatalogItem (json : JsonLib) (item : List (String × Json)) (source : String) :
    Except PyException VirtualAgentCatalogEntry :=
  let agentIdRaw := (Json.get? item "virtual_agent_id").getD .null
  let agentName := (Json.get? item "virtual_agent_name").getD .null
  let isDefault := ((Json.get? item "is_default").getD (.bool false)).truthy
  match agentIdRaw with
  | .null => .error (.catalogLoadError
      ("Catalog entry in " ++ source ++ " is missing virtual_agent_id."))
  | agentIdRaw =>
      let agentId := strip (agentIdRaw.toText json.repr)
      if agentId = "" then
        .error (.catalogLoadError
          ("Catalog entry in " ++ source ++ " has an empty virtual_agent_id."))
      else
        let emptyName : PyException := .catalogLoadError
          ("Catalog entry '" ++ agentId ++ "' in " ++ source ++ " has an empty virtual_agent_name.")
        match agentName with
        | .str name =>
            if strip name = "" then .error emptyName
            else .ok ⟨agentId, strip name, isDefault⟩
        | _ => .error emptyName

/-- The dictionaries among the values of the file. -/
def dictItems (values : List Json) : List (List (String × Json)) :=
  values.filterMap fun
    | .obj fields => some fields
    | _ => none

/-- `json.loads`, a decoding error becoming a load error. -/
def loadsSeed (json : JsonLib) (path text : String) : Except PyException Json :=
  match json.loads text with
  | .error (.jsonDecodeError message) => .error (.catalogLoadError
      ("Invalid JSON in catalog file " ++ path ++ ": " ++ message))
  | result => result

/-- Load, validate and return catalog entries from a JSON file. -/
def loadCatalog (json : JsonLib) (file : SeedFile) :
    Except PyException (List VirtualAgentCatalogEntry) :=
  if !file.isFile then
    .error (.catalogLoadError ("Catalog file not found: " ++ file.path ++ ". " ++
      "Copy config/virtual_agents.json or set WEBEX_VIRTUAL_AGENTS_CONFIG."))
  else do
    let text ← file.readText
    let raw ← loadsSeed json file.path text
    match raw with
    | .arr values => do
        let entries ← (dictItems values).mapM fun item => parseCatalogItem json item file.path
        if entries.length ≠ values.length then
          .error (.catalogLoadError
            ("Catalog file " ++ file.path ++ " contains invalid entry types."))
        else do
          validateCatalogEntries entries
          return entries
    | _ => .error (.catalogLoadError
        ("Catalog file " ++ file.path ++ " must contain a JSON array of agent objects."))

/-- A file that loads gives a valid catalog. -/
theorem loadCatalog_valid {json : JsonLib} {file : SeedFile}
    {entries : List VirtualAgentCatalogEntry} (h : loadCatalog json file = .ok entries) :
    ValidCatalog entries := by
  unfold loadCatalog at h
  split_ifs at h
  simp only [bind, Except.bind] at h
  split at h
  · cases h
  split at h
  · cases h
  split at h
  · split at h
    · cases h
    · split_ifs at h
      split at h
      · cases h
      · rename_i hvalid
        cases h
        exact (validateCatalogEntries_eq_ok_iff _).mp hvalid
  · cases h

end ByodsServer
