/-
# Which catalog files load, and how they are read

`loadCatalog` turns every object of the file into an entry with `str`, `strip`
and `bool`, and validates the list. `readEntry` is the entry it makes of an
object and `Readable` says which objects it makes one of; a file loads exactly
when it is an array of readable objects whose entries form a valid catalog.

The documented schema knows fewer values: ids are numbers or strings, names are
strings and `is_default` is a boolean. On such objects the loader's coercions
are `documentedEntry`. Everything else that loads is text or truth value of a
value the schema excludes.
-/

import ByodsServer.Byova.Catalog
import ByodsServer.Effects.Raising

namespace ByodsServer

open Python

/-! ## The objects of a file -/

/-- The entry the loader makes of an object. -/
def readEntry (json : JsonLib) (fields : List (String × Json)) : VirtualAgentCatalogEntry where
  virtualAgentId := strip (((Json.get? fields "virtual_agent_id").getD .null).toText json.repr)
  virtualAgentName :=
    match Json.get? fields "virtual_agent_name" with
    | some (.str name) => strip name
    | _ => ""
  isDefault := ((Json.get? fields "is_default").getD (.bool false)).truthy

/-- The loader makes an entry of the object: its id is neither absent nor
`null`, its name is a string, and neither is blank as text. -/
structure Readable (json : JsonLib) (fields : List (String × Json)) : Prop where
  id_given : (Json.get? fields "virtual_agent_id").getD .null ≠ .null
  name_string : ∃ name, Json.get? fields "virtual_agent_name" = some (.str name)
  id_not_blank : (readEntry json fields).virtualAgentId ≠ ""
  name_not_blank : (readEntry json fields).virtualAgentName ≠ ""

/-- With an id, what is left to check is its text and the name. -/
theorem parseCatalogItem_of_id_given {json : JsonLib} {fields : List (String × Json)}
    (source : String) (hid : (Json.get? fields "virtual_agent_id").getD .null ≠ .null) :
    parseCatalogItem json fields source =
      if (readEntry json fields).virtualAgentId = "" then
        .error (.catalogLoadError
          ("Catalog entry in " ++ source ++ " has an empty virtual_agent_id."))
      else if (readEntry json fields).virtualAgentName = "" then
        .error (.catalogLoadError
          ("Catalog entry '" ++ (readEntry json fields).virtualAgentId ++ "' in " ++ source ++
            " has an empty virtual_agent_name."))
      else .ok (readEntry json fields) := by
  unfold parseCatalogItem readEntry
  generalize (Json.get? fields "virtual_agent_id").getD .null = raw at hid ⊢
  rcases Json.get? fields "virtual_agent_name" with _ | (_ | _ | _ | _ | _ | _ | _)
  all_goals
    cases raw with
    | null => exact absurd rfl hid
    | _ => rfl

theorem parseCatalogItem_eq_ok_iff {json : JsonLib} {fields : List (String × Json)}
    {source : String} {entry : VirtualAgentCatalogEntry} :
    parseCatalogItem json fields source = .ok entry ↔
      Readable json fields ∧ entry = readEntry json fields := by
  by_cases hid : (Json.get? fields "virtual_agent_id").getD .null = .null
  · have hmissing : parseCatalogItem json fields source = .error (.catalogLoadError
        ("Catalog entry in " ++ source ++ " is missing virtual_agent_id.")) := by
      simp only [parseCatalogItem, hid]
    rw [hmissing]
    exact ⟨fun h => (nomatch h), fun h => (h.1.id_given hid).elim⟩
  rw [parseCatalogItem_of_id_given source hid]
  constructor
  · intro h
    split_ifs at h with hblankId hblankName
    refine ⟨⟨hid, ?_, hblankId, hblankName⟩, (Except.ok.inj h).symm⟩
    -- A name that is not a string reads as the blank one.
    unfold readEntry at hblankName
    rcases hname : Json.get? fields "virtual_agent_name" with _ | (_ | _ | _ | _ | name | _ | _)
    case some.str => exact ⟨name, rfl⟩
    all_goals
      rw [hname] at hblankName
      exact absurd rfl hblankName
  · rintro ⟨hreadable, rfl⟩
    rw [if_neg hreadable.id_not_blank, if_neg hreadable.name_not_blank]

theorem mapM_parseCatalogItem_eq_ok_iff {json : JsonLib} {source : String}
    {objects : List (List (String × Json))} {entries : List VirtualAgentCatalogEntry} :
    (objects.mapM fun item => parseCatalogItem json item source) = .ok entries ↔
      (∀ fields ∈ objects, Readable json fields) ∧ entries = objects.map (readEntry json) := by
  have hread (fields : List (String × Json)) (entry : VirtualAgentCatalogEntry) :
      parseCatalogItem json fields source = .ok entry ↔
        Readable json fields ∧ readEntry json fields = entry := by
    rw [parseCatalogItem_eq_ok_iff, eq_comm (a := entry)]
  rw [Effects.mapM_eq_ok_iff, eq_comm (a := entries)]
  simp only [hread]
  rw [List.forall₂_and_left, ← List.forall₂_map_left_iff, List.forall₂_eq_eq_eq]

/-- As many dictionaries as values: the values are these dictionaries. -/
theorem dictItems_length_eq_iff {values : List Json} :
    (dictItems values).length = values.length ↔ values = (dictItems values).map .obj := by
  constructor
  · intro h
    induction values with
    | nil => rfl
    | cons value values ih =>
        have hle : (dictItems values).length ≤ values.length := List.length_filterMap_le _ _
        cases value with
        | obj fields =>
            exact congrArg (Json.obj fields :: ·) (ih (Nat.succ.inj h))
        | _ =>
            have hlt : (dictItems values).length = values.length + 1 := h
            omega
  · intro h
    conv_rhs => rw [h]
    rw [List.length_map]

theorem dictItems_map_obj (objects : List (List (String × Json))) :
    dictItems (objects.map .obj) = objects := by
  induction objects with
  | nil => rfl
  | cons fields objects ih => exact congrArg (fields :: ·) ih

/-! ## The file -/

/-- The value the text of the file parses to. -/
def fileValue (json : JsonLib) (file : SeedFile) : Except PyException Json :=
  file.readText >>= json.loads

/-- The objects of the file, when it holds an array. -/
def fileObjects (json : JsonLib) (file : SeedFile) : List (List (String × Json)) :=
  match fileValue json file with
  | .ok (.arr values) => dictItems values
  | _ => []

theorem loadsSeed_eq_ok_iff {json : JsonLib} {path text : String} {raw : Json} :
    loadsSeed json path text = .ok raw ↔ json.loads text = .ok raw := by
  unfold loadsSeed
  split
  next message herror =>
    rw [herror]
    exact ⟨fun h => (nomatch h), fun h => (nomatch h)⟩
  next => rfl

/-- What is left to do with a file that holds an array. -/
theorem loadCatalog_of_fileValue {json : JsonLib} {file : SeedFile} {values : List Json}
    (hfile : file.isFile = true) (hvalue : fileValue json file = .ok (.arr values)) :
    loadCatalog json file =
      ((dictItems values).mapM (fun item => parseCatalogItem json item file.path) >>= fun entries =>
        if entries.length ≠ values.length then
          .error (.catalogLoadError
            ("Catalog file " ++ file.path ++ " contains invalid entry types."))
        else validateCatalogEntries entries >>= fun _ => pure entries) := by
  unfold fileValue at hvalue
  cases htext : file.readText with
  | error e => rw [htext] at hvalue; cases hvalue
  | ok text =>
      have hraw : loadsSeed json file.path text = .ok (.arr values) :=
        loadsSeed_eq_ok_iff.mpr (by rwa [htext] at hvalue)
      unfold loadCatalog
      rw [hfile, htext]
      simp only [Bool.not_true, Bool.false_eq_true, if_false]
      show (loadsSeed json file.path text >>= _) = _
      rw [hraw]
      rfl

/-- A file that loads is a file holding an array. -/
theorem exists_fileValue_of_loadCatalog {json : JsonLib} {file : SeedFile}
    {entries : List VirtualAgentCatalogEntry} (h : loadCatalog json file = .ok entries) :
    file.isFile = true ∧ ∃ values, fileValue json file = .ok (.arr values) := by
  unfold loadCatalog at h
  split_ifs at h with hfile
  refine ⟨by simpa using hfile, ?_⟩
  cases htext : file.readText with
  | error e => rw [htext] at h; cases h
  | ok text =>
      rw [htext] at h
      change (loadsSeed json file.path text >>= _) = _ at h
      cases hraw : loadsSeed json file.path text with
      | error e => rw [hraw] at h; cases h
      | ok raw =>
          rw [hraw] at h
          have hvalue : fileValue json file = .ok raw := by
            unfold fileValue
            rw [htext]
            exact loadsSeed_eq_ok_iff.mp hraw
          cases raw with
          | arr values => exact ⟨values, hvalue⟩
          | _ => cases h

/-- A file loads exactly when it is an array of readable objects whose entries
form a valid catalog, and it loads as these entries. -/
theorem loadCatalog_eq_ok_iff {json : JsonLib} {file : SeedFile}
    {entries : List VirtualAgentCatalogEntry} :
    loadCatalog json file = .ok entries ↔
      file.isFile = true ∧
      fileValue json file = .ok (.arr ((fileObjects json file).map .obj)) ∧
      (∀ fields ∈ fileObjects json file, Readable json fields) ∧
      entries = (fileObjects json file).map (readEntry json) ∧ ValidCatalog entries := by
  constructor
  · intro h
    obtain ⟨hfile, values, hvalue⟩ := exists_fileValue_of_loadCatalog h
    have hobjects : fileObjects json file = dictItems values := by
      rw [fileObjects, hvalue]
    rw [loadCatalog_of_fileValue hfile hvalue] at h
    rw [hobjects]
    cases hread : (dictItems values).mapM fun item => parseCatalogItem json item file.path with
    | error e => rw [hread] at h; cases h
    | ok read =>
        obtain ⟨hreadable, hentries⟩ := mapM_parseCatalogItem_eq_ok_iff.mp hread
        rw [hread] at h
        change (if read.length ≠ values.length then _ else _) = _ at h
        split_ifs at h with hlength
        have hvalues : values = (dictItems values).map .obj := by
          refine dictItems_length_eq_iff.mp ?_
          rw [← not_not.mp hlength, hentries, List.length_map]
        cases hvalid : validateCatalogEntries read with
        | error e => rw [hvalid] at h; cases h
        | ok _ =>
            rw [hvalid] at h
            cases h
            exact ⟨hfile, hvalues ▸ hvalue, hreadable, hentries,
              (validateCatalogEntries_eq_ok_iff _).mp hvalid⟩
  · rintro ⟨hfile, hvalue, hreadable, hentries, hvalid⟩
    have hlength : entries.length = ((fileObjects json file).map Json.obj).length := by
      rw [hentries, List.length_map, List.length_map]
    rw [loadCatalog_of_fileValue hfile hvalue, dictItems_map_obj,
      mapM_parseCatalogItem_eq_ok_iff.mpr ⟨hreadable, hentries⟩]
    change (if entries.length ≠ _ then _ else _) = _
    rw [if_neg (not_not.mpr hlength), (validateCatalogEntries_eq_ok_iff _).mpr hvalid]
    rfl

/-! ## The documented schema -/

/-- A JSON number or string. -/
def IsNumberOrString : Json → Prop
  | .int _ | .float _ | .str _ => True
  | _ => False

/-- An object the schema describes: a number or string as id, a string as name
and a boolean, if anything, as `is_default`. -/
structure DocumentedObject (fields : List (String × Json)) : Prop where
  id : ∃ value, Json.get? fields "virtual_agent_id" = some value ∧ IsNumberOrString value
  name : ∃ name, Json.get? fields "virtual_agent_name" = some (.str name)
  is_default : ∀ value, Json.get? fields "is_default" = some value → ∃ flag, value = .bool flag

/-- The entry the schema means by an object: the number or string of the id and
the name, trimmed, and the default flag if it is given. -/
def documentedEntry (fields : List (String × Json)) : VirtualAgentCatalogEntry where
  virtualAgentId :=
    match Json.get? fields "virtual_agent_id" with
    | some (.int number) => strip (toString number)
    | some (.float text) => strip text
    | some (.str text) => strip text
    | _ => ""
  virtualAgentName :=
    match Json.get? fields "virtual_agent_name" with
    | some (.str name) => strip name
    | _ => ""
  isDefault :=
    match Json.get? fields "is_default" with
    | some (.bool flag) => flag
    | _ => false

/-- On objects of the schema the coercions of the loader are what it means. -/
theorem DocumentedObject.readEntry_eq {fields : List (String × Json)}
    (h : DocumentedObject fields) (json : JsonLib) :
    readEntry json fields = documentedEntry fields := by
  obtain ⟨value, hid, hvalue⟩ := h.id
  have hdefault : ((Json.get? fields "is_default").getD (.bool false)).truthy =
      (documentedEntry fields).isDefault := by
    unfold documentedEntry
    cases hflag : Json.get? fields "is_default" with
    | none => rfl
    | some value =>
        obtain ⟨flag, rfl⟩ := h.is_default value hflag
        rfl
  unfold readEntry
  rw [hdefault, hid]
  unfold documentedEntry
  rw [hid]
  cases value with
  | int number => rfl
  | float text => rfl
  | str text => rfl
  | _ => exact hvalue.elim

/-- Of an object of the schema it remains to see that the texts are not blank. -/
theorem DocumentedObject.readable_iff {fields : List (String × Json)}
    (h : DocumentedObject fields) (json : JsonLib) :
    Readable json fields ↔
      (documentedEntry fields).virtualAgentId ≠ "" ∧
        (documentedEntry fields).virtualAgentName ≠ "" := by
  rw [← h.readEntry_eq json]
  refine ⟨fun hreadable => ⟨hreadable.id_not_blank, hreadable.name_not_blank⟩, ?_⟩
  rintro ⟨hid, hname⟩
  refine ⟨?_, h.name, hid, hname⟩
  obtain ⟨value, hvalue, htyped⟩ := h.id
  rw [hvalue]
  rintro rfl
  exact htyped

/-- What the schema says of a file and of the entries it is read as: an array of
described objects, and the default flag of an entry is the JSON value `true`. -/
structure ReadAsDocumented (json : JsonLib) (file : SeedFile)
    (entries : List VirtualAgentCatalogEntry) : Prop where
  array_of_objects : fileValue json file = .ok (.arr ((fileObjects json file).map .obj))
  objects_documented : ∀ fields ∈ fileObjects json file, DocumentedObject fields
  default_iff : List.Forall₂ (fun fields entry =>
    entry.isDefault = true ↔ Json.get? fields "is_default" = some (.bool true))
    (fileObjects json file) entries

/-- An object whose id is a boolean, a list or a dictionary, or which gives an
`is_default` that is not a boolean. -/
def CoercedObject (fields : List (String × Json)) : Prop :=
  (match Json.get? fields "virtual_agent_id" with
    | some (.bool _) | some (.arr _) | some (.obj _) => True
    | _ => False) ∨
  match Json.get? fields "is_default" with
    | none | some (.bool _) => False
    | _ => True

/-- Of the objects that load, the schema describes the ones that are not
coerced. -/
theorem Readable.documentedObject_iff {json : JsonLib} {fields : List (String × Json)}
    (h : Readable json fields) : DocumentedObject fields ↔ ¬ CoercedObject fields := by
  constructor
  · rintro hdocumented (hid | hdefault)
    · obtain ⟨value, hvalue, htyped⟩ := hdocumented.id
      rw [hvalue] at hid
      cases value with
      | bool _ | arr _ | obj _ => exact htyped
      | _ => exact hid
    · cases hvalue : Json.get? fields "is_default" with
      | none => rwa [hvalue] at hdefault
      | some value =>
          obtain ⟨flag, rfl⟩ := hdocumented.is_default value hvalue
          rwa [hvalue] at hdefault
  · intro hcoerced
    unfold CoercedObject at hcoerced
    rw [not_or] at hcoerced
    obtain ⟨hid, hdefault⟩ := hcoerced
    refine ⟨?_, h.name_string, fun value hvalue => ?_⟩
    · have hgiven := h.id_given
      cases hvalue : Json.get? fields "virtual_agent_id" with
      | none =>
          rw [hvalue] at hgiven
          exact absurd rfl hgiven
      | some value =>
          rw [hvalue] at hid hgiven
          cases value with
          | null => exact absurd rfl hgiven
          | int _ | float _ | str _ => exact ⟨_, rfl, trivial⟩
          | _ => exact (hid trivial).elim
    · rw [hvalue] at hdefault
      cases value with
      | bool flag => exact ⟨flag, rfl⟩
      | _ => exact (hdefault trivial).elim

/-- The default flag of an object of the schema is the JSON value `true`. -/
theorem DocumentedObject.isDefault_iff {fields : List (String × Json)}
    (h : DocumentedObject fields) (json : JsonLib) :
    (readEntry json fields).isDefault = true ↔
      Json.get? fields "is_default" = some (.bool true) := by
  rw [h.readEntry_eq]
  unfold documentedEntry
  cases hvalue : Json.get? fields "is_default" with
  | none => exact ⟨fun h => (nomatch h), fun h => (nomatch h)⟩
  | some value =>
      obtain ⟨flag, rfl⟩ := h.is_default value hvalue
      exact ⟨fun hflag => by rw [show flag = true from hflag], fun hflag => by cases hflag; rfl⟩

/-- A file that loads is read as the schema says exactly when none of its
objects is coerced. -/
theorem loadCatalog_readAsDocumented_iff {json : JsonLib} {file : SeedFile}
    {entries : List VirtualAgentCatalogEntry} (h : loadCatalog json file = .ok entries) :
    ReadAsDocumented json file entries ↔
      ∀ fields ∈ fileObjects json file, ¬ CoercedObject fields := by
  obtain ⟨-, hvalue, hreadable, hentries, -⟩ := loadCatalog_eq_ok_iff.mp h
  constructor
  · intro hread fields hfields
    exact (hreadable fields hfields).documentedObject_iff.mp
      (hread.objects_documented fields hfields)
  · intro hcoerced
    have hdocumented : ∀ fields ∈ fileObjects json file, DocumentedObject fields :=
      fun fields hfields => (hreadable fields hfields).documentedObject_iff.mpr
        (hcoerced fields hfields)
    refine ⟨hvalue, hdocumented, ?_⟩
    rw [hentries, List.forall₂_map_right_iff, List.forall₂_same]
    exact fun fields hfields => (hdocumented fields hfields).isDefault_iff json

/-- A parser of one text: an agent whose `is_default` is the given value. -/
def helperJson (isDefault : Json) : JsonLib where
  loads _ := .ok (.arr [.obj [("virtual_agent_id", .int 1),
    ("virtual_agent_name", .str "Helper"), ("is_default", isDefault)]])
  repr _ := ""

/-- The file it is in. -/
def helperSeed : SeedFile := ⟨"config/virtual_agents.json", true, .ok ""⟩

/-- Three agents: an id is a number, another has blanks around it, one flag is given by a value
and one is left out. -/
def deskObjects (isDefault : Json) : List (List (String × Json)) :=
  [[("virtual_agent_id", .int 1), ("virtual_agent_name", .str "Helper"), ("is_default", isDefault)],
    [("virtual_agent_id", .str " desk "), ("virtual_agent_name", .str "Front desk")],
    [("virtual_agent_name", .str "Night "), ("virtual_agent_id", .float "2.5"),
      ("is_default", .bool false)]]

/-- A parser of the file that they are in. -/
def deskJson (isDefault : Json) : JsonLib where
  loads _ := .ok (.arr ((deskObjects isDefault).map .obj))
  repr _ := ""

/-- What is made of them. -/
def deskEntries : List VirtualAgentCatalogEntry :=
  [⟨"1", "Helper", true⟩, ⟨"desk", "Front desk", false⟩, ⟨"2.5", "Night", false⟩]

theorem loadCatalog_readAsDocumented_iff_desk :
    ReadAsDocumented (deskJson (.bool true)) helperSeed deskEntries ∧
      ¬ ReadAsDocumented (deskJson (.int 1)) helperSeed deskEntries := by
  constructor
  · refine (loadCatalog_readAsDocumented_iff (by decide)).mpr ?_
    show ∀ fields ∈ deskObjects (.bool true), ¬ CoercedObject fields
    simp only [deskObjects, List.forall_mem_cons]
    refine ⟨?_, ?_, ?_, List.forall_mem_nil _⟩
    all_goals
      rintro (hid | hdefault)
      · exact hid
      · exact hdefault
  · refine mt (loadCatalog_readAsDocumented_iff (by decide)).mp fun hcoerced => ?_
    exact hcoerced _ List.mem_cons_self (Or.inr trivial)

/-- The text `"false"` loads, and marks the agent as the default. -/
theorem quoted_false_is_default :
    loadCatalog (helperJson (.str "false")) helperSeed = .ok [⟨"1", "Helper", true⟩] ∧
      ¬ ReadAsDocumented (helperJson (.str "false")) helperSeed [⟨"1", "Helper", true⟩] := by
  refine ⟨by decide, fun h => ?_⟩
  have hdefault := h.default_iff
  rw [show fileObjects (helperJson (.str "false")) helperSeed = [[("virtual_agent_id", .int 1),
    ("virtual_agent_name", .str "Helper"), ("is_default", .str "false")]] from rfl,
    List.forall₂_cons] at hdefault
  exact nomatch hdefault.1.mp rfl

/-! ## Acceptance -/

/-- The verdict of the validation does not depend on the order. -/
theorem validateCatalogEntries_perm {entries others : List VirtualAgentCatalogEntry}
    (h : entries.Perm others) :
    validateCatalogEntries entries = .ok () ↔ validateCatalogEntries others = .ok () := by
  rw [validateCatalogEntries_eq_ok_iff, validateCatalogEntries_eq_ok_iff]
  exact ⟨fun hvalid => hvalid.perm h, fun hvalid => hvalid.perm h.symm⟩

/-- A file with an array of objects of the schema loads exactly when their
trimmed entries pass the validation. -/
theorem loadCatalog_documented {json : JsonLib} {file : SeedFile}
    {objects : List (List (String × Json))} {entries : List VirtualAgentCatalogEntry}
    (hfile : file.isFile = true) (hvalue : fileValue json file = .ok (.arr (objects.map .obj)))
    (hdocumented : ∀ fields ∈ objects, DocumentedObject fields) :
    loadCatalog json file = .ok entries ↔
      validateCatalogEntries (objects.map documentedEntry) = .ok () ∧
        entries = objects.map documentedEntry := by
  have hobjects : fileObjects json file = objects := by
    rw [fileObjects, hvalue]
    exact dictItems_map_obj objects
  have hentries : objects.map (readEntry json) = objects.map documentedEntry :=
    List.map_congr_left fun fields hfields => (hdocumented fields hfields).readEntry_eq json
  rw [loadCatalog_eq_ok_iff, hobjects, hentries, validateCatalogEntries_eq_ok_iff]
  constructor
  · rintro ⟨-, -, -, rfl, hvalid⟩
    exact ⟨hvalid, rfl⟩
  · rintro ⟨hvalid, rfl⟩
    refine ⟨hfile, hvalue, fun fields hfields => ?_, rfl, hvalid⟩
    -- A blank text is still blank after the validation trims it again.
    have hmem := List.mem_map_of_mem (f := documentedEntry) hfields
    refine ((hdocumented fields hfields).readable_iff json).mpr ⟨fun hblank => ?_, fun hblank => ?_⟩
    · exact hvalid.id_not_blank _ hmem (by rw [hblank]; rfl)
    · exact hvalid.name_not_blank _ hmem (by rw [hblank]; rfl)

/-- Acceptance is exact, of entries in any order and of files of the schema. -/
theorem catalog_acceptance :
    (∀ entries : List VirtualAgentCatalogEntry, validateCatalogEntries entries = .ok () ↔
      entries ≠ [] ∧
      (∀ entry ∈ entries, strip entry.virtualAgentId ≠ "" ∧ strip entry.virtualAgentName ≠ "") ∧
      entries.Pairwise (fun first second => first.virtualAgentId ≠ second.virtualAgentId) ∧
      entries.countP VirtualAgentCatalogEntry.isDefault ≤ 1) ∧
    (∀ entries others : List VirtualAgentCatalogEntry, entries.Perm others →
      (validateCatalogEntries entries = .ok () ↔ validateCatalogEntries others = .ok ())) ∧
    ∀ (json : JsonLib) (file : SeedFile) (objects : List (List (String × Json))),
      file.isFile = true → fileValue json file = .ok (.arr (objects.map .obj)) →
      (∀ fields ∈ objects, DocumentedObject fields) →
      ∀ entries, loadCatalog json file = .ok entries ↔
        validateCatalogEntries (objects.map documentedEntry) = .ok () ∧
          entries = objects.map documentedEntry := by
  refine ⟨fun entries => ?_, fun _ _ => validateCatalogEntries_perm,
    fun _ _ _ hfile hvalue hdocumented _ => loadCatalog_documented hfile hvalue hdocumented⟩
  rw [validateCatalogEntries_eq_ok_iff, ← List.pairwise_map]
  constructor
  · intro h
    exact ⟨h.nonempty, fun entry hentry => ⟨h.id_not_blank entry hentry,
      h.name_not_blank entry hentry⟩, h.ids_nodup, h.at_most_one_default⟩
  · rintro ⟨hnonempty, hblank, hnodup, hdefault⟩
    exact ⟨hnonempty, fun entry hentry => (hblank entry hentry).1,
      fun entry hentry => (hblank entry hentry).2, hnodup, hdefault⟩

theorem catalog_acceptance_desk :
    loadCatalog (deskJson (.bool true)) helperSeed = .ok deskEntries ∧
      validateCatalogEntries deskEntries.reverse = .ok () ∧
      validateCatalogEntries (⟨"desk", "Second desk", false⟩ :: deskEntries) ≠ .ok () ∧
      validateCatalogEntries (⟨"late", "Late desk", true⟩ :: deskEntries) ≠ .ok () := by
  obtain ⟨haccepts, hperm, hloads⟩ := catalog_acceptance
  have haccepted : validateCatalogEntries deskEntries = .ok () :=
    (haccepts deskEntries).mpr (by decide)
  have hdocumented : ∀ fields ∈ deskObjects (.bool true), DocumentedObject fields := by
    simp only [deskObjects, List.forall_mem_cons]
    refine ⟨⟨⟨_, rfl, trivial⟩, ⟨_, rfl⟩, ?_⟩, ⟨⟨_, rfl, trivial⟩, ⟨_, rfl⟩, ?_⟩,
      ⟨⟨_, rfl, trivial⟩, ⟨_, rfl⟩, ?_⟩, List.forall_mem_nil _⟩
    · exact fun value hvalue => ⟨true, (Option.some.inj hvalue).symm⟩
    · rintro value ⟨⟩
    · exact fun value hvalue => ⟨false, (Option.some.inj hvalue).symm⟩
  refine ⟨?_, (hperm _ _ deskEntries.reverse_perm).mpr haccepted, ?_, ?_⟩
  · exact (hloads (deskJson (.bool true)) helperSeed (deskObjects (.bool true)) rfl rfl
      hdocumented deskEntries).mpr ⟨haccepted, by decide⟩
  · exact mt (haccepts _).mp (by decide)
  · exact mt (haccepts _).mp (by decide)

-- The number 1 and the text of it with blanks around are one id.
example : (documentedEntry [("virtual_agent_id", .int 1)]).virtualAgentId =
    (documentedEntry [("virtual_agent_id", .str " 1 ")]).virtualAgentId := by decide

end ByodsServer
