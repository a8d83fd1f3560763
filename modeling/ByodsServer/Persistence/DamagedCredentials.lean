/-
# Credentials that cannot be read

Which exceptions the two token getters raise, item by item. What is checked
inside the decryption fails as an encryption error, or as a missing token set
for the integration; what the code reads outside of it, from the item and from
the decrypted payload, raises whatever it raises.
-/

import ByodsServer.Effects.Raising
import ByodsServer.Persistence.TokenRefinement

namespace ByodsServer

open Effects Python

/-! ## Exceptions of the libraries -/

/-- An `EncryptionError`. -/
def IsEncryptionError (e : PyException) : Prop :=
  ∃ message, e = .encryptionError message

/-- Any exception but an `EncryptionError`. -/
def IsOtherError (e : PyException) : Prop :=
  ¬ IsEncryptionError e

/-- What the libraries raise: a refused key is a `ValueError` or a `TypeError`,
decryption raises `InvalidToken` only, and neither a parser nor a class of the SDK
knows the class of the server's own encryption errors. -/
structure LibraryExceptions (lib : TokenLib) : Prop where
  checkKey : ∀ key, RaisesOnly
    (fun e => e.isValueError = true ∨ ∃ message, e = .typeError message) (lib.checkKey key)
  decrypt : ∀ key token, RaisesOnly (fun e => e = .invalidToken) (lib.decrypt key token)
  loads : ∀ text, RaisesOnly IsOtherError (lib.loads text)
  fromIsoformat : ∀ text, RaisesOnly IsOtherError (lib.fromIsoformat text)
  intOfText : ∀ text, RaisesOnly IsOtherError (lib.intOfText text)
  intOfFloat : ∀ text, RaisesOnly IsOtherError (lib.intOfFloat text)
  intOfOther : ∀ text, RaisesOnly IsOtherError (lib.intOfOther text)
  serviceAppTokens : ∀ fields, RaisesOnly IsOtherError (lib.serviceAppTokens fields)

/-! ## What an item has to be -/

/-- A payload from which a class of the SDK can be made: an access token, a
lifetime that is a number, no text that is not a time as the time it was
obtained, and fields that the class takes. -/
structure UsablePayload (lib : TokenLib) (construct : TokenSet → Except PyException TokenSet)
    (now : DateTime) (payload : List (String × Json)) : Prop where
  accessToken : ∃ value, Json.get? payload "access_token" = some value
  expiresIn : ∃ value, Json.get? payload "expires_in" = some value ∧
    ∃ seconds, intOfJson lib value = .ok seconds
  obtainedAt : ∀ text, Json.get? payload "obtained_at" = some (.str text) →
    ∃ time, lib.fromIsoformat text = .ok time
  accepted : ∀ fields, fieldsOfPayload lib now payload = .ok fields →
    ∃ tokens, construct fields = .ok tokens

/-- `ciphertext_version`, or its default. -/
def versionAttr (item : Item) : Attr :=
  (item.get? "ciphertext_version").getD (.int ciphertextVersion)

/-- Every step of the decryption of an item succeeds, with this payload. -/
def DecryptsTo (lib : TokenLib) (key : String) (item : Item) (payload : List (String × Json)) :
    Prop :=
  ∃ blob, item.get? "token_blob" = some blob ∧
    intOfAttr lib (versionAttr item) = .ok ciphertextVersion ∧ KeyUsable lib.toCryptoLib key ∧
      ∃ bytes, encodeAscii? blob.toText = some bytes ∧ ∃ raw, lib.decrypt key bytes = .ok raw ∧
        ∃ text, decodeUtf8? raw = some text ∧ lib.loads text = .ok (.obj payload)

/-- Nothing outside the checked steps of the decryption can fail: there is a
blob, and a version that is a number; and as far as the decryption goes, the
blob is ASCII, what it hides is JSON text, and an object is a usable payload. -/
def ReadsSafely (lib : TokenLib) (key : String) (now : DateTime) (item : Item) : Prop :=
  ∃ blob, item.get? "token_blob" = some blob ∧
    ∃ version, intOfAttr lib (versionAttr item) = .ok version ∧
      (version = ciphertextVersion → KeyUsable lib.toCryptoLib key →
        ∃ bytes, encodeAscii? blob.toText = some bytes ∧
          ∀ raw, lib.decrypt key bytes = .ok raw → ∃ text, decodeUtf8? raw = some text ∧
            ∃ value, lib.loads text = .ok value ∧
              ∀ payload, value = .obj payload →
                UsablePayload lib lib.serviceAppTokens now payload)

/-! ## Step by step -/

section Steps

variable {lib : TokenLib}

theorem fernet_eq_ok_iff (key : String) (value : Unit) :
    fernet lib.toCryptoLib key = .ok value ↔ KeyUsable lib.toCryptoLib key := by
  constructor
  · intro h
    unfold fernet at h
    split_ifs at h with hkey
    refine ⟨hkey, ?_⟩
    split at h
    · assumption
    · nomatch h
    · split_ifs at h
  · exact fernet_of_keyUsable

theorem raisesOnly_fernet (hlib : LibraryExceptions lib) (key : String) :
    RaisesOnly IsEncryptionError (fernet lib.toCryptoLib key) := by
  unfold fernet
  split_ifs with hkey
  · simp [IsEncryptionError]
  · have hraised := hlib.checkKey key
    cases hchecked : lib.checkKey key with
    | ok _ => simp
    | error e =>
        rw [hchecked, raisesOnly_error] at hraised
        rcases hraised with hvalue | ⟨message, rfl⟩
        · cases e <;> simp_all [IsEncryptionError, PyException.isValueError]
        · simp [IsEncryptionError]

theorem encodeAscii_eq_ok_iff (text : String) (bytes : ByteArray) :
    encodeAscii text = .ok bytes ↔ encodeAscii? text = some bytes := by
  unfold encodeAscii
  cases encodeAscii? text <;> simp

theorem raisesOnly_encodeAscii (text : String) : RaisesOnly IsOtherError (encodeAscii text) := by
  unfold encodeAscii
  cases encodeAscii? text <;> simp [IsOtherError, IsEncryptionError]

/-- `except InvalidToken`. -/
def exceptInvalidToken : Except PyException ByteArray → Except PyException ByteArray
  | .error .invalidToken => .error (.encryptionError "Failed to decrypt token blob")
  | result => result

theorem exceptInvalidToken_eq_ok_iff (result : Except PyException ByteArray) (raw : ByteArray) :
    exceptInvalidToken result = .ok raw ↔ result = .ok raw := by
  unfold exceptInvalidToken
  split
  · simp
  · rfl

theorem raisesOnly_exceptInvalidToken (hlib : LibraryExceptions lib) (key : String)
    (token : ByteArray) :
    RaisesOnly IsEncryptionError (exceptInvalidToken (lib.decrypt key token)) := by
  have hraised := hlib.decrypt key token
  cases hdecrypt : lib.decrypt key token with
  | ok raw => simp [exceptInvalidToken]
  | error e =>
      rw [hdecrypt, raisesOnly_error] at hraised
      subst hraised
      simp [exceptInvalidToken, IsEncryptionError]

theorem decodeUtf8_eq_ok_iff (bytes : ByteArray) (text : String) :
    decodeUtf8 bytes = .ok text ↔ decodeUtf8? bytes = some text := by
  unfold decodeUtf8
  cases decodeUtf8? bytes <;> simp

theorem raisesOnly_decodeUtf8 (bytes : ByteArray) :
    RaisesOnly IsOtherError (decodeUtf8 bytes) := by
  unfold decodeUtf8
  cases decodeUtf8? bytes <;> simp [IsOtherError, IsEncryptionError]

/-- `isinstance(data, dict)`. -/
def requireObject : Json → Except PyException (List (String × Json))
  | .obj fields => .ok fields
  | _ => .error (.encryptionError "Decrypted token payload must be a JSON object")

theorem requireObject_eq_ok_iff (value : Json) (payload : List (String × Json)) :
    requireObject value = .ok payload ↔ value = .obj payload := by
  cases value <;> simp [requireObject]

theorem raisesOnly_requireObject (value : Json) :
    RaisesOnly IsEncryptionError (requireObject value) := by
  cases value <;> simp [requireObject, IsEncryptionError]

theorem get_eq_ok_iff (item : Item) (name : String) (value : Attr) :
    item.get name = .ok value ↔ item.get? name = some value := by
  unfold Item.get
  cases item.get? name <;> simp

theorem raisesOnly_get (item : Item) (name : String) :
    RaisesOnly IsOtherError (item.get name) := by
  unfold Item.get
  cases item.get? name <;> simp [IsOtherError, IsEncryptionError]

theorem raisesOnly_intOfAttr (hlib : LibraryExceptions lib) (value : Attr) :
    RaisesOnly IsOtherError (intOfAttr lib value) := by
  cases value with
  | null => simp [intOfAttr, IsOtherError, IsEncryptionError]
  | bool value => simp [intOfAttr]
  | int value => simp [intOfAttr]
  | str text => exact hlib.intOfText text
  | other text truth => exact hlib.intOfOther text

theorem raisesOnly_intOfJson (hlib : LibraryExceptions lib) (value : Json) :
    RaisesOnly IsOtherError (intOfJson lib value) := by
  cases value with
  | int value => simp [intOfJson]
  | bool value => simp [intOfJson]
  | str text => exact hlib.intOfText text
  | float text => exact hlib.intOfFloat text
  | null => simp [intOfJson, IsOtherError, IsEncryptionError]
  | arr items => simp [intOfJson, IsOtherError, IsEncryptionError]
  | obj fields => simp [intOfJson, IsOtherError, IsEncryptionError]

theorem payloadField_eq_ok_iff (payload : List (String × Json)) (name : String) (value : Json) :
    payloadField payload name = .ok value ↔ Json.get? payload name = some value := by
  unfold payloadField
  cases Json.get? payload name <;> simp

theorem raisesOnly_payloadField (payload : List (String × Json)) (name : String) :
    RaisesOnly IsOtherError (payloadField payload name) := by
  unfold payloadField
  cases Json.get? payload name <;> simp [IsOtherError, IsEncryptionError]

end Steps

/-! ## The decryption and the token set -/

section Reading

variable {lib : TokenLib}

/-- The decryption after the version was found to be the supported one. -/
def decryptSteps (lib : TokenLib) (key tokenBlob : String) :
    Except PyException (List (String × Json)) :=
  fernet lib.toCryptoLib key >>= fun _ => encodeAscii tokenBlob >>= fun bytes =>
    exceptInvalidToken (lib.decrypt key bytes) >>= fun raw =>
      decodeUtf8 raw >>= fun text => lib.loads text >>= requireObject

theorem decryptTokenPayload_eq (key tokenBlob : String) (version : Int) :
    decryptTokenPayload lib.toCryptoLib key tokenBlob version =
      if version = ciphertextVersion then decryptSteps lib key tokenBlob
      else .error (.encryptionError ("Unsupported ciphertext_version: " ++ toString version)) := by
  have hblob : decryptBlob lib.toCryptoLib key tokenBlob =
      (fernet lib.toCryptoLib key >>= fun _ => encodeAscii tokenBlob >>= fun bytes =>
        exceptInvalidToken (lib.decrypt key bytes)) := rfl
  have hsteps : decryptSteps lib key tokenBlob =
      (decryptBlob lib.toCryptoLib key tokenBlob >>= fun raw =>
        decodeUtf8 raw >>= fun text => lib.loads text >>= requireObject) := by
    simp only [decryptSteps, hblob, bind_assoc]
  rw [hsteps, decryptTokenPayload, ite_not]
  rfl

theorem decryptSteps_eq_ok_iff (key tokenBlob : String) (payload : List (String × Json)) :
    decryptSteps lib key tokenBlob = .ok payload ↔
      KeyUsable lib.toCryptoLib key ∧ ∃ bytes, encodeAscii? tokenBlob = some bytes ∧
        ∃ raw, lib.decrypt key bytes = .ok raw ∧ ∃ text, decodeUtf8? raw = some text ∧
          lib.loads text = .ok (.obj payload) := by
  simp only [decryptSteps, bind_eq_ok_iff, fernet_eq_ok_iff, exists_const,
    encodeAscii_eq_ok_iff, exceptInvalidToken_eq_ok_iff, decodeUtf8_eq_ok_iff,
    requireObject_eq_ok_iff, exists_eq_right]

theorem raisesOnly_decryptSteps_bind_iff (hlib : LibraryExceptions lib) (key tokenBlob : String)
    (next : List (String × Json) → Except PyException TokenSet) :
    RaisesOnly IsEncryptionError (decryptSteps lib key tokenBlob >>= next) ↔
      (KeyUsable lib.toCryptoLib key → ∃ bytes, encodeAscii? tokenBlob = some bytes ∧
        ∀ raw, lib.decrypt key bytes = .ok raw → ∃ text, decodeUtf8? raw = some text ∧
          ∃ value, lib.loads text = .ok value ∧ ∀ payload, value = .obj payload →
            RaisesOnly IsEncryptionError (next payload)) := by
  simp only [decryptSteps, bind_assoc, (raisesOnly_fernet hlib key).bind_iff_forall,
    (raisesOnly_encodeAscii _).bind_iff_exists,
    (raisesOnly_exceptInvalidToken hlib key _).bind_iff_forall,
    (raisesOnly_decodeUtf8 _).bind_iff_exists, (hlib.loads _).bind_iff_exists,
    (raisesOnly_requireObject _).bind_iff_forall]
  simp only [fernet_eq_ok_iff, forall_const, encodeAscii_eq_ok_iff,
    exceptInvalidToken_eq_ok_iff, decodeUtf8_eq_ok_iff, requireObject_eq_ok_iff]

/-- `obtained_at`, or the time of the reading. -/
def parseObtainedAt (lib : TokenLib) (now : DateTime) (payload : List (String × Json)) :
    Except PyException DateTime :=
  match Json.get? payload "obtained_at" with
  | some (.str text) => lib.fromIsoformat text
  | _ => .ok now

theorem raisesOnly_parseObtainedAt (hlib : LibraryExceptions lib) (now : DateTime)
    (payload : List (String × Json)) :
    RaisesOnly IsOtherError (parseObtainedAt lib now payload) := by
  unfold parseObtainedAt
  split
  · exact hlib.fromIsoformat _
  · exact raisesOnly_ok now

theorem parseObtainedAt_returns_iff (now : DateTime) (payload : List (String × Json)) :
    (∃ time, parseObtainedAt lib now payload = .ok time) ↔
      ∀ text, Json.get? payload "obtained_at" = some (.str text) →
        ∃ time, lib.fromIsoformat text = .ok time := by
  unfold parseObtainedAt
  split
  · next text h => simp [h]
  · next h => simpa using fun text htext => (h text htext).elim

theorem fieldsOfPayload_eq (now : DateTime) (payload : List (String × Json)) :
    fieldsOfPayload lib now payload =
      (parseObtainedAt lib now payload >>= fun obtainedAt =>
        payloadField payload "access_token" >>= fun accessToken =>
          payloadField payload "expires_in" >>= fun expiresIn =>
            intOfJson lib expiresIn >>= fun expiresIn => .ok
              { accessToken := accessToken.toText lib.repr
                refreshToken := (Json.get? payload "refresh_token").getD .null
                expiresIn := expiresIn
                tokenType :=
                  ((Json.get? payload "token_type").getD (.str "Bearer")).toText lib.repr
                obtainedAt := obtainedAt
                refreshTokenExpiresIn :=
                  (Json.get? payload "refresh_token_expires_in").getD .null }) := by
  unfold fieldsOfPayload parseObtainedAt
  cases Json.get? payload "obtained_at" with
  | none => rfl
  | some value => cases value <;> rfl

theorem fieldsOfPayload_returns_iff (now : DateTime) (payload : List (String × Json)) :
    (∃ fields, fieldsOfPayload lib now payload = .ok fields) ↔
      (∃ value, Json.get? payload "access_token" = some value) ∧
        (∃ value, Json.get? payload "expires_in" = some value ∧
          ∃ seconds, intOfJson lib value = .ok seconds) ∧
        ∀ text, Json.get? payload "obtained_at" = some (.str text) →
          ∃ time, lib.fromIsoformat text = .ok time := by
  simp only [fieldsOfPayload_eq, bind_eq_ok_iff, payloadField_eq_ok_iff, Except.ok.injEq]
  constructor
  · rintro ⟨fields, time, htime, access, haccess, value, hvalue, seconds, hseconds, -⟩
    exact ⟨⟨access, haccess⟩, ⟨value, hvalue, seconds, hseconds⟩,
      (parseObtainedAt_returns_iff now payload).mp ⟨time, htime⟩⟩
  · rintro ⟨⟨access, haccess⟩, ⟨value, hvalue, seconds, hseconds⟩, hobtained⟩
    obtain ⟨time, htime⟩ := (parseObtainedAt_returns_iff now payload).mpr hobtained
    exact ⟨_, time, htime, access, haccess, value, hvalue, seconds, hseconds, rfl⟩

theorem constructs_iff_usable (construct : TokenSet → Except PyException TokenSet)
    (now : DateTime) (payload : List (String × Json)) :
    (∃ tokens, (fieldsOfPayload lib now payload >>= construct) = .ok tokens) ↔
      UsablePayload lib construct now payload := by
  simp only [bind_eq_ok_iff]
  constructor
  · rintro ⟨tokens, fields, hfields, htokens⟩
    obtain ⟨haccess, hexpires, hobtained⟩ :=
      (fieldsOfPayload_returns_iff now payload).mp ⟨fields, hfields⟩
    refine ⟨haccess, hexpires, hobtained, fun other hother => ⟨tokens, ?_⟩⟩
    obtain rfl := Except.ok.inj (hfields.symm.trans hother)
    exact htokens
  · intro h
    obtain ⟨fields, hfields⟩ := (fieldsOfPayload_returns_iff now payload).mpr
      ⟨h.accessToken, h.expiresIn, h.obtainedAt⟩
    obtain ⟨tokens, htokens⟩ := h.accepted fields hfields
    exact ⟨tokens, fields, hfields, htokens⟩

/-- What is wrong with a payload is never reported as an encryption error. -/
theorem raisesOnly_payloadToTokens (hlib : LibraryExceptions lib) (now : DateTime)
    (payload : List (String × Json)) :
    RaisesOnly IsOtherError (payloadToTokens lib now payload) := by
  rw [payloadToTokens, fieldsOfPayload_eq]
  refine RaisesOnly.bind ?_ hlib.serviceAppTokens
  refine (raisesOnly_parseObtainedAt hlib now payload).bind fun obtainedAt => ?_
  refine (raisesOnly_payloadField payload "access_token").bind fun accessToken => ?_
  refine (raisesOnly_payloadField payload "expires_in").bind fun expiresIn => ?_
  exact (raisesOnly_intOfJson hlib expiresIn).bind fun seconds => raisesOnly_ok _

theorem raisesOnly_payloadToTokens_iff (hlib : LibraryExceptions lib) (now : DateTime)
    (payload : List (String × Json)) :
    RaisesOnly IsEncryptionError (payloadToTokens lib now payload) ↔
      UsablePayload lib lib.serviceAppTokens now payload := by
  rw [RaisesOnly.iff_returns (raisesOnly_payloadToTokens hlib now payload)]
  exact constructs_iff_usable lib.serviceAppTokens now payload

theorem decryptItem_eq_ok_iff (key : String) (item : Item) (payload : List (String × Json)) :
    decryptItem lib key item = .ok payload ↔ DecryptsTo lib key item payload := by
  have hversion : ∀ tokenBlob version,
      decryptTokenPayload lib.toCryptoLib key tokenBlob version = .ok payload ↔
        version = ciphertextVersion ∧ decryptSteps lib key tokenBlob = .ok payload := by
    intro tokenBlob version
    rw [decryptTokenPayload_eq]
    split_ifs with h <;> simp [h]
  simp only [decryptItem, bind_eq_ok_iff, get_eq_ok_iff, hversion, decryptSteps_eq_ok_iff]
  constructor
  · rintro ⟨blob, hblob, version, hint, rfl, hsteps⟩
    exact ⟨blob, hblob, hint, hsteps⟩
  · rintro ⟨blob, hblob, hint, hsteps⟩
    exact ⟨blob, hblob, ciphertextVersion, hint, rfl, hsteps⟩

theorem raisesOnly_readCreds_iff (hlib : LibraryExceptions lib) (key : String) (now : DateTime)
    (item : Item) :
    RaisesOnly IsEncryptionError (readCreds lib key now item) ↔
      ReadsSafely lib key now item := by
  have hversion : ∀ tokenBlob version,
      RaisesOnly IsEncryptionError (decryptTokenPayload lib.toCryptoLib key tokenBlob version >>=
          payloadToTokens lib now) ↔
        (version = ciphertextVersion → RaisesOnly IsEncryptionError
          (decryptSteps lib key tokenBlob >>= payloadToTokens lib now)) := by
    intro tokenBlob version
    rw [decryptTokenPayload_eq]
    split_ifs with h
    · simp [h]
    · simp only [h, false_implies, iff_true]
      exact (raisesOnly_error _).mpr ⟨_, rfl⟩
  simp only [readCreds, decryptItem, bind_assoc, (raisesOnly_get _ _).bind_iff_exists,
    (raisesOnly_intOfAttr hlib _).bind_iff_exists, hversion,
    raisesOnly_decryptSteps_bind_iff hlib, raisesOnly_payloadToTokens_iff hlib, get_eq_ok_iff]
  rfl

end Reading

/-! ## The two getters -/

theorem sampleLib_exceptions : LibraryExceptions sampleLib where
  checkKey key := by
    simp only [sampleLib]
    split_ifs <;> simp [PyException.isValueError]
  decrypt key token := by
    simp only [sampleLib]
    split_ifs <;> simp
  loads text := by
    simp only [sampleLib]
    split_ifs <;> simp [IsOtherError, IsEncryptionError]
  fromIsoformat text := by
    simp only [sampleLib]
    split_ifs <;> simp [IsOtherError, IsEncryptionError]
  intOfText text := by simp [sampleLib, IsOtherError, IsEncryptionError]
  intOfFloat text := by simp [sampleLib, IsOtherError, IsEncryptionError]
  intOfOther text := by simp [sampleLib, IsOtherError, IsEncryptionError]
  serviceAppTokens fields := by simp [sampleLib]

/-- The integration has the sample tokens; the item of the org is of a version
that is not supported. -/
def futureTable : Table :=
  ((∅ : Table).insert integrationKey (credsAttrs sampleBlob 1 noon)).insert
    (credsKey "org-1") (credsAttrs sampleBlob 2 noon)

/-- An empty dictionary, encrypted under the sample key. -/
def emptyBlob : String :=
  "gAAAAABqLUZAAAECAwQFBgcICQoLDA0ODworKycRL7MMhynm5ClE98y2P_tgs8abB6c9DxzfxybKEDqg" ++
    "aS3HMtE-p_-5eeA1NA=="

/-- The library, as far as an empty dictionary needs it. -/
def emptyPayloadLib : TokenLib where
  toCryptoLib :=
    { sampleLib.toCryptoLib with
      loads := fun text =>
        if text = "\x7b\x7d" then .ok (.obj []) else .error (.jsonDecodeError text)
      decrypt := fun key bytes =>
        if key = sampleKey ∧ bytes.data = emptyBlob.toUTF8.data then .ok "\x7b\x7d".toUTF8
        else .error .invalidToken }
  fromIsoformat := sampleLib.fromIsoformat
  intOfText := sampleLib.intOfText
  intOfFloat := sampleLib.intOfFloat
  intOfOther := sampleLib.intOfOther
  repr := sampleLib.repr
  serviceAppTokens := sampleLib.serviceAppTokens
  oauthTokens := sampleLib.oauthTokens

/-- The integration's item hides an empty dictionary; the item of the org has no
blob. -/
def damagedTable : Table :=
  ((∅ : Table).insert integrationKey (credsAttrs emptyBlob 1 noon)).insert
    (credsKey "org-1") [("ciphertext_version", .int 1), ("updated_at", .str noon.isoformat)]

theorem emptyPayloadLib_exceptions : LibraryExceptions emptyPayloadLib where
  checkKey := sampleLib_exceptions.checkKey
  decrypt key token := by
    simp only [emptyPayloadLib]
    split_ifs <;> simp
  loads text := by
    simp only [emptyPayloadLib]
    split_ifs <;> simp [IsOtherError, IsEncryptionError]
  fromIsoformat := sampleLib_exceptions.fromIsoformat
  intOfText := sampleLib_exceptions.intOfText
  intOfFloat := sampleLib_exceptions.intOfFloat
  intOfOther := sampleLib_exceptions.intOfOther
  serviceAppTokens := sampleLib_exceptions.serviceAppTokens

end ByodsServer
