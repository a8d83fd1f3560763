/-
# What becomes of the bytes of a seed file

Reading the file decodes it, and only an exception of the JSON parser is turned
into a load error: bytes that are no UTF-8 escape from `load_catalog`, from the
`except` clause of the seeding and so from the start of the app.
-/

import ByodsServer.Byova.CatalogFile
import ByodsServer.Persistence.CatalogAtomicity
import ByodsServer.Persistence.Encryption

namespace ByodsServer

open Effects Python

/-! ## Reading text -/

/-- Line ends as they are read from a text file. -/
def universalNewlines : List Char → List Char
  | [] => []
  | '\r' :: '\n' :: text => '\n' :: universalNewlines text
  | '\r' :: text => '\n' :: universalNewlines text
  | c :: text => c :: universalNewlines text

/-- `path.read_text(encoding="utf-8")` of a file with these bytes. -/
def readTextUtf8 (content : ByteArray) : Except PyException String := do
  let text ← decodeUtf8 content
  return String.ofList (universalNewlines text.toList)

/-- A file that exists and can be read. -/
def SeedFile.ofBytes (path : String) (content : ByteArray) : SeedFile :=
  ⟨path, true, readTextUtf8 content⟩

/-! ## Load errors -/

/-- `except CatalogLoadError` catches it. -/
def IsLoadError (e : PyException) : Prop := ∃ message, e = .catalogLoadError message

/-- A decoding error of the JSON parser, which is turned into a load error. -/
def IsDecodeError (e : PyException) : Prop := ∃ message, e = .jsonDecodeError message

theorem raisesOnly_validateCatalogEntries (entries : List VirtualAgentCatalogEntry) :
    RaisesOnly IsLoadError (validateCatalogEntries entries) :=
  fun _ h => validateCatalogEntries_error h

theorem raisesOnly_parseCatalogItem (json : JsonLib) (path : String)
    (item : List (String × Json)) : RaisesOnly IsLoadError (parseCatalogItem json item path) := by
  intro e h
  unfold parseCatalogItem at h
  dsimp only at h
  split at h
  · exact ⟨_, (Except.error.inj h).symm⟩
  · split_ifs at h
    · exact ⟨_, (Except.error.inj h).symm⟩
    · split at h
      · split_ifs at h
        exact ⟨_, (Except.error.inj h).symm⟩
      · exact ⟨_, (Except.error.inj h).symm⟩

/-- What `load_catalog` does with the value of the file. -/
def entriesOfValue (json : JsonLib) (path : String) :
    Json → Except PyException (List VirtualAgentCatalogEntry)
  | .arr values => do
      let entries ← (dictItems values).mapM fun item => parseCatalogItem json item path
      if entries.length ≠ values.length then
        .error (.catalogLoadError ("Catalog file " ++ path ++ " contains invalid entry types."))
      else do
        validateCatalogEntries entries
        return entries
  | _ => .error (.catalogLoadError
      ("Catalog file " ++ path ++ " must contain a JSON array of agent objects."))

theorem loadCatalog_ofBytes (json : JsonLib) (path : String) (content : ByteArray) :
    loadCatalog json (.ofBytes path content) =
      (readTextUtf8 content >>= fun text =>
        loadsSeed json path text >>= entriesOfValue json path) := by
  unfold loadCatalog SeedFile.ofBytes
  cases readTextUtf8 content with
  | error e => rfl
  | ok text =>
      show (loadsSeed json path text >>= _) = loadsSeed json path text >>= entriesOfValue json path
      apply congrArg
      funext raw
      cases raw <;> rfl

/-- Behind the parser nothing but load errors are raised. -/
theorem raisesOnly_entriesOfValue (json : JsonLib) (path : String) (raw : Json) :
    RaisesOnly IsLoadError (entriesOfValue json path raw) := by
  cases raw with
  | arr values =>
      apply (RaisesOnly.mapM (raisesOnly_parseCatalogItem json path) _).bind
      intro entries
      split_ifs
      · exact (raisesOnly_error _).mpr ⟨_, rfl⟩
      · exact (raisesOnly_validateCatalogEntries entries).bind fun _ => raisesOnly_ok entries
  | _ => exact (raisesOnly_error _).mpr ⟨_, rfl⟩

/-- Decoding raises no load error. -/
theorem raisesOnly_readTextUtf8 (content : ByteArray) :
    RaisesOnly (fun e => ¬ IsLoadError e) (readTextUtf8 content) := by
  unfold readTextUtf8 decodeUtf8
  cases decodeUtf8? content with
  | some text => exact raisesOnly_ok _
  | none =>
      refine (raisesOnly_error _).mpr ?_
      rintro ⟨message, h⟩
      cases h

/-- Of what the parser raises, decoding errors become load errors. -/
theorem raisesOnly_loadsSeed_iff (json : JsonLib) (path text : String) :
    RaisesOnly IsLoadError (loadsSeed json path text) ↔
      RaisesOnly (fun e => IsDecodeError e ∨ IsLoadError e) (json.loads text) := by
  unfold loadsSeed
  split
  next message h =>
    rw [h, raisesOnly_error, raisesOnly_error]
    exact iff_of_true ⟨_, rfl⟩ (Or.inl ⟨message, rfl⟩)
  next h =>
    cases hloads : json.loads text with
    | ok raw => exact iff_of_true (raisesOnly_ok raw) (raisesOnly_ok raw)
    | error e =>
        rw [raisesOnly_error, raisesOnly_error]
        have hother : ¬ IsDecodeError e := by
          rintro ⟨message, rfl⟩
          exact h message hloads
        exact (or_iff_right hother).symm

/-! ## Which bytes are reported -/

/-- The bytes are text, and parsing the text raises nothing but `JSONDecodeError`. (A
load error would be passed on as well; the parser does not raise one.) -/
def ReadsAsText (json : JsonLib) (content : ByteArray) : Prop :=
  ∃ text, readTextUtf8 content = .ok text ∧
    RaisesOnly (fun e => IsDecodeError e ∨ IsLoadError e) (json.loads text)

/-- A list that passes the validation, or a load error. -/
def LoadsOrReports (result : Except PyException (List VirtualAgentCatalogEntry)) : Prop :=
  (∃ entries, result = .ok entries ∧ entries ≠ [] ∧ validateCatalogEntries entries = .ok ()) ∨
    ∃ message, result = .error (.catalogLoadError message)

theorem loadsOrReports_iff (json : JsonLib) (file : SeedFile) :
    LoadsOrReports (loadCatalog json file) ↔ RaisesOnly IsLoadError (loadCatalog json file) := by
  cases hload : loadCatalog json file with
  | ok entries =>
      have hvalid := loadCatalog_valid hload
      exact iff_of_true
        (Or.inl ⟨entries, rfl, hvalid.nonempty, (validateCatalogEntries_eq_ok_iff _).mpr hvalid⟩)
        (raisesOnly_ok entries)
  | error e =>
      rw [raisesOnly_error]
      constructor
      · rintro (⟨entries, h, -⟩ | ⟨message, h⟩)
        · cases h
        · exact ⟨message, Except.error.inj h⟩
      · rintro ⟨message, rfl⟩
        exact Or.inr ⟨message, rfl⟩

theorem raisesOnly_loadCatalog_iff (json : JsonLib) (path : String) (content : ByteArray) :
    RaisesOnly IsLoadError (loadCatalog json (.ofBytes path content)) ↔
      ReadsAsText json content := by
  rw [loadCatalog_ofBytes, (raisesOnly_readTextUtf8 content).bind_iff_exists]
  apply exists_congr
  intro text
  rw [RaisesOnly.bind_iff_left (raisesOnly_entriesOfValue json path), raisesOnly_loadsSeed_iff]

/-! ## The seeding -/

/-- Without META the seeding ends with the exception that loading the file raises,
unless that is a load error. -/
theorem exec_ensureSeeded_of_no_meta (paging : Paging) {table : Table}
    (hmeta : table[metaKey]? = none) (json : JsonLib) (seed : SeedFile) (now : DateTime) :
    ((ensureSeeded json seed now).exec (perform paging) table).1 = .ok () ↔
      RaisesOnly IsLoadError (loadCatalog json seed) := by
  rw [ensureSeeded, Program.exec_bind, exec_getItem, Program.andThen_ok, Table.item?, hmeta,
    Option.map_none]
  dsimp only
  cases hload : loadCatalog json seed with
  | ok entries =>
      have hwrite :=
        exec_writeEntries_paging paging now ⟨entries, loadCatalog_valid hload⟩ true table
      exact iff_of_true (congrArg Prod.fst hwrite) (raisesOnly_ok entries)
  | error e =>
      rw [raisesOnly_error]
      constructor
      · intro h
        cases e with
        | catalogLoadError message => exact ⟨message, rfl⟩
        | _ => cases h
      · rintro ⟨message, rfl⟩
        rfl

/-- A catalog file is loaded or reported as `CatalogLoadError` exactly when its bytes are
text on which the parser raises nothing but `JSONDecodeError`; and seeding from the file
returns exactly when that is so or the table is seeded already. -/
theorem catalog_file_reported_iff (json : JsonLib) (path : String) (content : ByteArray) :
    (LoadsOrReports (loadCatalog json (.ofBytes path content)) ↔ ReadsAsText json content) ∧
      ∀ (paging : Paging) (table : Table) (now : DateTime),
        ((ensureSeeded json (.ofBytes path content) now).exec (perform paging) table).1 = .ok () ↔
          table[metaKey]? ≠ none ∨ ReadsAsText json content := by
  constructor
  · rw [loadsOrReports_iff, raisesOnly_loadCatalog_iff]
  · intro paging table now
    by_cases hmeta : table[metaKey]? = none
    · rw [exec_ensureSeeded_of_no_meta paging hmeta, raisesOnly_loadCatalog_iff]
      exact (or_iff_right (not_not.mpr hmeta)).symm
    · have hdone := exec_ensureSeeded_of_meta paging hmeta json (.ofBytes path content) now
      exact iff_of_true (congrArg Prod.fst hdone) (Or.inl hmeta)

/-- A file of one byte that no UTF-8 text has: neither is it loaded nor reported, and
the seeding fails. -/
theorem catalog_file_not_utf8 :
    ¬ LoadsOrReports (loadCatalog greeterJson (.ofBytes "virtual_agents.json" ⟨#[0xFF]⟩)) ∧
      ((ensureSeeded greeterJson (.ofBytes "virtual_agents.json" ⟨#[0xFF]⟩) noon).exec
        dynamo ∅).1 = .error (.unicodeDecodeError "'utf-8' codec can't decode bytes") := by
  have hread : readTextUtf8 ⟨#[0xFF]⟩ =
      .error (.unicodeDecodeError "'utf-8' codec can't decode bytes") := by decide
  have hload : loadCatalog greeterJson (.ofBytes "virtual_agents.json" ⟨#[0xFF]⟩) =
      .error (.unicodeDecodeError "'utf-8' codec can't decode bytes") := by
    rw [loadCatalog_ofBytes, hread]
    rfl
  constructor
  · rw [loadsOrReports_iff, hload, raisesOnly_error]
    rintro ⟨message, h⟩
    cases h
  · rw [ensureSeeded, Program.exec_bind, dynamo, exec_getItem, Program.andThen_ok, Table.item?]
    simp only [Std.ExtTreeMap.getElem?_empty, Option.map_none, hload]
    rfl

end ByodsServer
