/-
# Tokens in the shared table

`DynamoDBTokenStorage` call by call, with the codec between tokens and payloads.
Tokens of a service app and of the integration have the same six fields. The
time a method reads from the clock and the randomness of an encryption are
arguments.
-/

import ByodsServer.Persistence.Encryption
import ByodsServer.Persistence.OrgRepository
import Mathlib.Data.List.Sort

namespace ByodsServer

open Effects Python

/-- The six fields of a token set; the optional ones keep whatever JSON value
was stored. -/
structure TokenSet where
  accessToken : String
  refreshToken : Json
  expiresIn : Int
  tokenType : String
  obtainedAt : DateTime
  refreshTokenExpiresIn : Json

/-- `ServiceAppTokens`. -/
abbrev ServiceAppTokens := TokenSet

/-- `OAuthTokens`. -/
abbrev OAuthTokens := TokenSet

/-- What decoding a payload uses besides decryption: `datetime.fromisoformat`,
`int` of texts, floats and stored values, the texts of lists and dictionaries,
and the classes of the SDK, which may refuse their fields. -/
structure TokenLib extends CryptoLib where
  fromIsoformat : String → Except PyException DateTime
  intOfText : String → Except PyException Int
  intOfFloat : String → Except PyException Int
  intOfOther : String → Except PyException Int
  repr : Json → String
  serviceAppTokens : TokenSet → Except PyException ServiceAppTokens
  oauthTokens : TokenSet → Except PyException OAuthTokens

/-- `_INTEGRATION_PK` and `_INTEGRATION_SK`. -/
def integrationKey : Key := ⟨"INTEGRATION", "CREDS"⟩

/-- The key of the credentials of an org. -/
def credsKey (orgId : String) : Key := ⟨orgPk orgId, "CREDS"⟩

/-! ## Payloads -/

/-- The payload of a token set. -/
def payloadOfTokens (tokens : TokenSet) : List (String × Json) :=
  [("access_token", .str tokens.accessToken),
   ("refresh_token", tokens.refreshToken),
   ("expires_in", .int tokens.expiresIn),
   ("token_type", .str tokens.tokenType),
   ("obtained_at", .str tokens.obtainedAt.isoformat),
   ("refresh_token_expires_in", tokens.refreshTokenExpiresIn)]

/-- `_tokens_to_payload`. -/
def tokensToPayload (tokens : ServiceAppTokens) : List (String × Json) := payloadOfTokens tokens

/-- `_oauth_tokens_to_payload`. -/
def oauthTokensToPayload (tokens : OAuthTokens) : List (String × Json) := payloadOfTokens tokens

/-- `payload[name]`. -/
def payloadField (payload : List (String × Json)) (name : String) : Except PyException Json :=
  match Json.get? payload name with
  | some value => .ok value
  | none => .error (.keyError name)

/-- `int(value)` of a JSON value. -/
def intOfJson (lib : TokenLib) : Json → Except PyException Int
  | .int value => .ok value
  | .bool value => .ok (if value then 1 else 0)
  | .str text => lib.intOfText text
  | .float text => lib.intOfFloat text
  | .null | .arr _ | .obj _ => .error (.typeError
      "int() argument must be a string, a bytes-like object or a real number")

/-- The fields that a payload has for a token set. -/
def fieldsOfPayload (lib : TokenLib) (now : DateTime) (payload : List (String × Json)) :
    Except PyException TokenSet := do
  let obtainedAt ←
    match Json.get? payload "obtained_at" with
    | some (.str text) => lib.fromIsoformat text
    | _ => .ok now
  let accessToken ← payloadField payload "access_token"
  let expiresIn ← payloadField payload "expires_in"
  let expiresIn ← intOfJson lib expiresIn
  return {
    accessToken := accessToken.toText lib.repr
    refreshToken := (Json.get? payload "refresh_token").getD .null
    expiresIn := expiresIn
    tokenType := ((Json.get? payload "token_type").getD (.str "Bearer")).toText lib.repr
    obtainedAt := obtainedAt
    refreshTokenExpiresIn := (Json.get? payload "refresh_token_expires_in").getD .null }

/-- `_payload_to_tokens`. -/
def payloadToTokens (lib : TokenLib) (now : DateTime) (payload : List (String × Json)) :
    Except PyException ServiceAppTokens :=
  fieldsOfPayload lib now payload >>= lib.serviceAppTokens

/-- `_payload_to_oauth_tokens`. -/
def payloadToOauthTokens (lib : TokenLib) (now : DateTime) (payload : List (String × Json)) :
    Except PyException OAuthTokens :=
  fieldsOfPayload lib now payload >>= lib.oauthTokens

/-! ## Items -/

/-- The attributes of a credentials item. -/
def credsAttrs (tokenBlob : String) (version : Int) (now : DateTime) : Attrs :=
  [("token_blob", .str tokenBlob),
   ("ciphertext_version", .int version),
   ("updated_at", .str now.isoformat)]

/-- `int(value)` of a stored value. -/
def intOfAttr (lib : TokenLib) : Attr → Except PyException Int
  | .int value => .ok value
  | .bool value => .ok (if value then 1 else 0)
  | .str text => lib.intOfText text
  | .null => .error (.typeError
      "int() argument must be a string, a bytes-like object or a real number")
  | .other text _ => lib.intOfOther text

/-- The decrypted payload of a credentials item. -/
def decryptItem (lib : TokenLib) (key : String) (item : Item) :
    Except PyException (List (String × Json)) := do
  let tokenBlob ← item.get "token_blob"
  let version ← intOfAttr lib ((item.get? "ciphertext_version").getD (.int ciphertextVersion))
  decryptTokenPayload lib.toCryptoLib key tokenBlob.toText version

/-! ## The storage's methods -/

section Methods

variable (lib : TokenLib) (key : String)

/-- `get_integration_tokens`: what cannot be decrypted counts as missing. -/
def getIntegrationTokens (now : DateTime) : TableProgram (Option OAuthTokens) := do
  let stored ← getItem integrationKey
  match stored with
  | none => return none
  | some item =>
      match decryptItem lib key item with
      | .error _ => return none
      | .ok payload => do
          let tokens ← Program.ofExcept (payloadToOauthTokens lib now payload)
          return some tokens

/-- `set_integration_tokens`. -/
def setIntegrationTokens (entropy : String) (now : DateTime) (tokens : OAuthTokens) :
    TableProgram Unit := do
  let (tokenBlob, version) ← Program.ofExcept
    (encryptTokenPayload lib.toCryptoLib key entropy (oauthTokensToPayload tokens))
  putItem ⟨integrationKey, credsAttrs tokenBlob version now⟩

/-- `get_service_app_tokens`. -/
def getServiceAppTokens (now : DateTime) (orgId : String) :
    TableProgram (Option ServiceAppTokens) := do
  let stored ← getItem (credsKey orgId)
  match stored with
  | none => return none
  | some item => do
      let payload ← Program.ofExcept (decryptItem lib key item)
      let tokens ← Program.ofExcept (payloadToTokens lib now payload)
      return some tokens

/-- `set_service_app_tokens`; the profile is written at a time of its own. -/
def setServiceAppTokens (entropy : String) (now profileNow : DateTime) (orgId : String)
    (tokens : ServiceAppTokens) : TableProgram Unit := do
  let (tokenBlob, version) ← Program.ofExcept
    (encryptTokenPayload lib.toCryptoLib key entropy (tokensToPayload tokens))
  putItem ⟨credsKey orgId, credsAttrs tokenBlob version now⟩
  upsertAuthorized profileNow orgId

/-- `delete_service_app_tokens`. -/
def deleteServiceAppTokens (profileNow : DateTime) (orgId : String) : TableProgram Unit := do
  deleteItem (credsKey orgId)
  markDeauthorized profileNow orgId

/-- The orgs among the items of a page of credentials. -/
def orgsOfItems (items : List Item) : List String :=
  (items.filter fun item => startsWith item.key.pk "ORG#").map fun item => sliceFrom item.key.pk 4

/-- The page loop of `list_registered_orgs`, for at most some number of pages;
`none` when there are more. -/
def scanOrgs : ℕ → Option ℕ → List String → TableProgram (Option (List String))
  | 0, _, _ => return none
  | fuel + 1, exclusiveStartKey, orgIds => do
      let response ← scan "CREDS" exclusiveStartKey
      let orgIds := orgIds ++ orgsOfItems response.items
      match response.lastEvaluatedKey with
      | none => return some orgIds
      | some lastEvaluatedKey => scanOrgs fuel (some lastEvaluatedKey) orgIds

/-- `list_registered_orgs`, for at most some number of pages. -/
def listRegisteredOrgs (fuel : ℕ) : TableProgram (Option (List String)) := do
  let orgIds ← scanOrgs fuel none []
  return orgIds.map fun orgIds => orgIds.insertionSort (· ≤ ·)

end Methods

/-! ## What the getters make of an item -/

section Getters

variable (lib : TokenLib) (key : String) (paging : Paging) (table : Table)

/-- What the service getter makes of a credentials item. -/
def readCreds (now : DateTime) (item : Item) : Except PyException ServiceAppTokens :=
  decryptItem lib key item >>= payloadToTokens lib now

theorem exec_getServiceAppTokens_eq (now : DateTime) (orgId : String) :
    (getServiceAppTokens lib key now orgId).exec (perform paging) table =
      (match table[credsKey orgId]? with
        | none => .ok none
        | some attrs => (readCreds lib key now ⟨credsKey orgId, attrs⟩).map some, table) := by
  rw [getServiceAppTokens, Program.exec_bind, exec_getItem, Program.andThen_ok, Table.item?]
  cases table[credsKey orgId]? with
  | none => rfl
  | some attrs =>
      rw [Option.map_some]
      dsimp only
      rw [Program.exec_bind, readCreds]
      cases hpayload : decryptItem lib key ⟨credsKey orgId, attrs⟩ with
      | error e => rfl
      | ok payload =>
          rw [Program.ofExcept_eq, Program.exec_finish, Program.andThen_ok, Program.exec_bind]
          cases htokens : payloadToTokens lib now payload with
          | error e =>
              simp only [bind, Except.bind, htokens]
              rfl
          | ok tokens =>
              simp only [bind, Except.bind, htokens]
              rfl

theorem exec_getIntegrationTokens_eq (now : DateTime) :
    (getIntegrationTokens lib key now).exec (perform paging) table =
      (match table[integrationKey]? with
        | none => .ok none
        | some attrs =>
            match decryptItem lib key ⟨integrationKey, attrs⟩ with
            | .error _ => .ok none
            | .ok payload => (payloadToOauthTokens lib now payload).map some, table) := by
  rw [getIntegrationTokens, Program.exec_bind, exec_getItem, Program.andThen_ok, Table.item?]
  cases table[integrationKey]? with
  | none => rfl
  | some attrs =>
      rw [Option.map_some]
      dsimp only
      cases decryptItem lib key ⟨integrationKey, attrs⟩ with
      | error e => rfl
      | ok payload =>
          dsimp only
          cases payloadToOauthTokens lib now payload with
          | error e => rfl
          | ok tokens => rfl

end Getters

/-! ## Round trip of a token set -/

/-- A token set is made of its own fields: its time survives its text, and both
classes take the fields. -/
structure TokenSet.Rebuilds (lib : TokenLib) (tokens : TokenSet) : Prop where
  obtainedAt : lib.fromIsoformat tokens.obtainedAt.isoformat = .ok tokens.obtainedAt
  serviceAppTokens : lib.serviceAppTokens tokens = .ok tokens
  oauthTokens : lib.oauthTokens tokens = .ok tokens

/-- The payload of a token set survives storage, and the token set can be made
of it again. -/
structure TokensRoundTrip (lib : TokenLib) (key entropy : String) (tokens : TokenSet) :
    Prop where
  payload : PayloadRoundTrips lib.toCryptoLib key entropy (payloadOfTokens tokens)
  rebuilds : tokens.Rebuilds lib

/-- A payload has the fields of the tokens it was made of. -/
theorem fieldsOfPayload_payloadOfTokens {lib : TokenLib} {tokens : TokenSet}
    (h : tokens.Rebuilds lib) (now : DateTime) :
    fieldsOfPayload lib now (payloadOfTokens tokens) = .ok tokens := by
  have hread : Json.get? (payloadOfTokens tokens) "obtained_at" =
      some (.str tokens.obtainedAt.isoformat) := rfl
  rw [fieldsOfPayload, hread]
  simp only [h.obtainedAt]
  rfl

theorem payloadToTokens_payloadOfTokens {lib : TokenLib} {tokens : TokenSet}
    (h : tokens.Rebuilds lib) (now : DateTime) :
    payloadToTokens lib now (payloadOfTokens tokens) = .ok tokens := by
  rw [payloadToTokens, fieldsOfPayload_payloadOfTokens h]
  exact h.serviceAppTokens

theorem payloadToOauthTokens_payloadOfTokens {lib : TokenLib} {tokens : TokenSet}
    (h : tokens.Rebuilds lib) (now : DateTime) :
    payloadToOauthTokens lib now (payloadOfTokens tokens) = .ok tokens := by
  rw [payloadToOauthTokens, fieldsOfPayload_payloadOfTokens h]
  exact h.oauthTokens

/-- The item written for tokens is decrypted to their payload. -/
theorem decryptItem_of_roundTrip {lib : TokenLib} {key entropy : String} {tokens : TokenSet}
    (hkey : KeyUsable lib.toCryptoLib key) (h : TokensRoundTrip lib key entropy tokens) :
    ∃ blob,
      encryptTokenPayload lib.toCryptoLib key entropy (payloadOfTokens tokens) =
        .ok (blob, ciphertextVersion) ∧
      ∀ itemKey now, decryptItem lib key ⟨itemKey, credsAttrs blob ciphertextVersion now⟩ =
        .ok (payloadOfTokens tokens) := by
  obtain ⟨blob, hencrypt, hdecrypt⟩ := h.payload.decryptTokenPayload hkey
  exact ⟨blob, hencrypt, fun _ _ => hdecrypt⟩

end ByodsServer
