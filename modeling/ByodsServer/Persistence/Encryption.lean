/-
# Encrypted token payloads

Serialising, encrypting and decrypting the payload of stored tokens. The JSON
functions and the encryption library are parameters; what the code does around
them, and which of their exceptions it turns into its own, is written out.
-/

import ByodsServer.Exceptions
import ByodsServer.Python.Json
import ByodsServer.Python.Text

namespace ByodsServer

open Python

/-- `CIPHERTEXT_VERSION`. -/
def ciphertextVersion : Int := 1

/-- The JSON functions and the encryption library. Each encryption draws fresh
randomness, given here as an argument. -/
structure CryptoLib where
  /-- `json.dumps(payload, default=str)`. -/
  dumps : List (String × Json) → String
  /-- `json.loads`. -/
  loads : String → Except PyException Json
  /-- `Fernet(key.encode())`: nothing, or why the key is refused. -/
  checkKey : String → Except PyException Unit
  /-- `Fernet(key).encrypt(data)`. -/
  encrypt : (key : String) → (entropy : String) → ByteArray → ByteArray
  /-- `Fernet(key).decrypt(token)`. -/
  decrypt : (key : String) → ByteArray → Except PyException ByteArray

/-- `_fernet`, up to the object it returns. -/
def fernet (lib : CryptoLib) (key : String) : Except PyException Unit :=
  if key = "" then
    .error (.encryptionError "PERSISTENCE_ENCRYPTION_KEY is required for DynamoDB persistence")
  else
    match lib.checkKey key with
    | .ok () => .ok ()
    | .error (.typeError _) => .error (.encryptionError "Invalid PERSISTENCE_ENCRYPTION_KEY format")
    | .error e =>
        if e.isValueError then
          .error (.encryptionError "Invalid PERSISTENCE_ENCRYPTION_KEY format")
        else .error e

/-- `bytes.decode("utf-8")`. -/
def decodeUtf8 (bytes : ByteArray) : Except PyException String :=
  match decodeUtf8? bytes with
  | some text => .ok text
  | none => .error (.unicodeDecodeError "'utf-8' codec can't decode bytes")

/-- `bytes.decode("ascii")`. -/
def decodeAscii (bytes : ByteArray) : Except PyException String :=
  match decodeAscii? bytes with
  | some text => .ok text
  | none => .error (.unicodeDecodeError "'ascii' codec can't decode bytes")

/-- `str.encode("ascii")`. -/
def encodeAscii (text : String) : Except PyException ByteArray :=
  match encodeAscii? text with
  | some bytes => .ok bytes
  | none => .error (.unicodeEncodeError "'ascii' codec can't encode characters")

/-- `encrypt_token_payload`: the ciphertext and its version. -/
def encryptTokenPayload (lib : CryptoLib) (key entropy : String)
    (payload : List (String × Json)) : Except PyException (String × Int) := do
  let raw := (lib.dumps payload).toUTF8
  fernet lib key
  let token ← decodeAscii (lib.encrypt key entropy raw)
  return (token, ciphertextVersion)

/-- `except InvalidToken` around the decryption. -/
def decryptBlob (lib : CryptoLib) (key tokenBlob : String) : Except PyException ByteArray := do
  fernet lib key
  let bytes ← encodeAscii tokenBlob
  match lib.decrypt key bytes with
  | .error .invalidToken => .error (.encryptionError "Failed to decrypt token blob")
  | result => result

/-- `decrypt_token_payload`. -/
def decryptTokenPayload (lib : CryptoLib) (key tokenBlob : String) (version : Int) :
    Except PyException (List (String × Json)) := do
  if version ≠ ciphertextVersion then
    .error (.encryptionError ("Unsupported ciphertext_version: " ++ toString version))
  else do
    let raw ← decryptBlob lib key tokenBlob
    let text ← decodeUtf8 raw
    match ← lib.loads text with
    | .obj fields => return fields
    | _ => .error (.encryptionError "Decrypted token payload must be a JSON object")

/-! ## Round trip -/

/-- The key is accepted. -/
def KeyUsable (lib : CryptoLib) (key : String) : Prop :=
  key ≠ "" ∧ lib.checkKey key = .ok ()

/-- Decryption inverts encryption and parsing inverts printing, for one payload
and one draw of randomness; the ciphertext is ASCII. -/
structure PayloadRoundTrips (lib : CryptoLib) (key entropy : String)
    (payload : List (String × Json)) : Prop where
  ascii : ∃ blob, decodeAscii? (lib.encrypt key entropy (lib.dumps payload).toUTF8) = some blob
  decrypt_encrypt : lib.decrypt key (lib.encrypt key entropy (lib.dumps payload).toUTF8) =
    .ok (lib.dumps payload).toUTF8
  loads_dumps : lib.loads (lib.dumps payload) = .ok (.obj payload)

theorem fernet_of_keyUsable {lib : CryptoLib} {key : String} (h : KeyUsable lib key) :
    fernet lib key = .ok () := by
  rw [fernet, if_neg h.1, h.2]

/-- What is encrypted is decrypted to the same payload. -/
theorem PayloadRoundTrips.decryptTokenPayload {lib : CryptoLib} {key entropy : String}
    {payload : List (String × Json)} (h : PayloadRoundTrips lib key entropy payload)
    (hkey : KeyUsable lib key) :
    ∃ blob, encryptTokenPayload lib key entropy payload = .ok (blob, ciphertextVersion) ∧
      ByodsServer.decryptTokenPayload lib key blob ciphertextVersion = .ok payload := by
  obtain ⟨blob, hblob⟩ := h.ascii
  refine ⟨blob, ?_, ?_⟩
  · rw [encryptTokenPayload, fernet_of_keyUsable hkey, decodeAscii, hblob]
    rfl
  · have hencode : encodeAscii blob =
        .ok (lib.encrypt key entropy (lib.dumps payload).toUTF8) := by
      rw [encodeAscii, encodeAscii?_of_decodeAscii? hblob]
    have hdecrypt : decryptBlob lib key blob = .ok (lib.dumps payload).toUTF8 := by
      rw [decryptBlob, fernet_of_keyUsable hkey, hencode]
      simp only [bind, Except.bind]
      rw [h.decrypt_encrypt]
    have hdecode : decodeUtf8 (lib.dumps payload).toUTF8 = .ok (lib.dumps payload) := by
      rw [decodeUtf8, decodeUtf8?_toUTF8]
    rw [ByodsServer.decryptTokenPayload, if_neg (not_not.mpr rfl), hdecrypt]
    simp only [bind, Except.bind]
    rw [hdecode]
    simp only
    rw [h.loads_dumps]
    rfl

end ByodsServer
