/-
# The text of an encrypted payload

Between `json.dumps` and `json.loads` a payload is encoded, encrypted, stored as text and
taken apart again. With the printer and the scanner of the runtime in place, all that is
left to assume of the outside is that the encryption library decrypts what it encrypted.
-/

import ByodsServer.Persistence.TokenRefinement
import ByodsServer.Python.JsonRoundTrip

namespace ByodsServer

open Python

/-- The JSON functions of the library are those of the runtime, as long as integers have no
more digits than it converts and values are nested no deeper than it recurses. -/
structure UsesRuntimeJson (nesting : ℕ) (floatRepr : Json.FloatRepr) (lib : CryptoLib) :
    Prop where
  dumps : ∀ payload, Json.Loadable floatRepr (.obj payload) →
    Json.NestsWithin nesting (.obj payload) → lib.dumps payload = Json.dumps (.obj payload)
  loads : Json.LoadsLike nesting floatRepr lib.loads

/-- What the encryption library promises for some data: its token is ASCII, and the key
decrypts the token to the data. -/
structure DecryptsBack (lib : CryptoLib) (key entropy : String) (data : ByteArray) : Prop where
  ascii : ∃ blob, decodeAscii? (lib.encrypt key entropy data) = some blob
  decrypt_encrypt : lib.decrypt key (lib.encrypt key entropy data) = .ok data

/-- The values of a token set that JSON can hold: the optional fields are loaded again, and
the seconds are not too many digits. -/
structure TokenSet.Printable (floatRepr : Json.FloatRepr) (tokens : TokenSet) : Prop where
  refreshToken : Json.Loadable floatRepr tokens.refreshToken
  expiresIn : Json.PrintableInt tokens.expiresIn
  refreshTokenExpiresIn : Json.Loadable floatRepr tokens.refreshTokenExpiresIn

variable {nesting : ℕ} {floatRepr : Json.FloatRepr}

theorem TokenSet.Printable.payload_loadable {tokens : TokenSet}
    (h : tokens.Printable floatRepr) :
    Json.Loadable floatRepr (.obj (payloadOfTokens tokens)) := by
  refine .obj (by decide : (["access_token", "refresh_token", "expires_in", "token_type",
    "obtained_at", "refresh_token_expires_in"]).Nodup) ?_
  simp only [payloadOfTokens, List.forall_mem_cons]
  exact ⟨.str _, h.refreshToken, .int h.expiresIn, .str _, .str _, h.refreshTokenExpiresIn,
    List.forall_mem_nil _⟩

/-- Printing, encoding, encrypting and storing lose nothing of a payload. -/
theorem payloadRoundTrips_of_decryptsBack {lib : CryptoLib}
    (hjson : UsesRuntimeJson nesting floatRepr lib) {key entropy : String}
    {payload : List (String × Json)} (hpayload : Json.Loadable floatRepr (.obj payload))
    (hnesting : Json.NestsWithin nesting (.obj payload))
    (hdecrypts : DecryptsBack lib key entropy (Json.dumps (.obj payload)).toUTF8) :
    PayloadRoundTrips lib key entropy payload where
  ascii := by
    rw [hjson.dumps payload hpayload hnesting]
    exact hdecrypts.ascii
  decrypt_encrypt := by
    rw [hjson.dumps payload hpayload hnesting]
    exact hdecrypts.decrypt_encrypt
  loads_dumps := by
    rw [hjson.dumps payload hpayload hnesting]
    exact hjson.loads.load_dumps none hpayload hnesting

/-- Every dictionary of JSON values within the limits of the interpreter is decrypted to itself,
under the version it was encrypted with and under no other; and if it is the payload of a token
set which can be made of its fields, the stored item is decoded to that token set. -/
theorem encrypted_payload_survives {lib : TokenLib}
    (hjson : UsesRuntimeJson nesting floatRepr lib.toCryptoLib) {key : String}
    (hkey : KeyUsable lib.toCryptoLib key) {entropy : String} {payload : List (String × Json)}
    (hpayload : Json.Loadable floatRepr (.obj payload))
    (hnesting : Json.NestsWithin nesting (.obj payload))
    (hdecrypts :
      DecryptsBack lib.toCryptoLib key entropy (Json.dumps (.obj payload)).toUTF8) :
    ∃ blob, encryptTokenPayload lib.toCryptoLib key entropy payload =
        .ok (blob, ciphertextVersion) ∧
      (∀ version, decryptTokenPayload lib.toCryptoLib key blob version =
        if version = ciphertextVersion then .ok payload
        else .error (.encryptionError ("Unsupported ciphertext_version: " ++ toString version))) ∧
      ∀ (tokens : TokenSet) (itemKey : Key) (stored now : DateTime),
        payload = payloadOfTokens tokens →
        tokens.Rebuilds lib →
        (decryptItem lib key ⟨itemKey, credsAttrs blob ciphertextVersion stored⟩ >>=
            payloadToTokens lib now) = .ok tokens ∧
          (decryptItem lib key ⟨itemKey, credsAttrs blob ciphertextVersion stored⟩ >>=
            payloadToOauthTokens lib now) = .ok tokens := by
  have hround := payloadRoundTrips_of_decryptsBack hjson hpayload hnesting hdecrypts
  obtain ⟨blob, hencrypt, hdecrypt⟩ := hround.decryptTokenPayload hkey
  refine ⟨blob, hencrypt, fun version => ?_, ?_⟩
  · split_ifs with hversion
    · rw [hversion, hdecrypt]
    · rw [decryptTokenPayload, if_pos hversion]
  · rintro tokens itemKey stored now rfl hrebuilds
    have hitem : decryptItem lib key ⟨itemKey, credsAttrs blob ciphertextVersion stored⟩ =
        .ok (payloadOfTokens tokens) := hdecrypt
    rw [hitem]
    exact ⟨payloadToTokens_payloadOfTokens hrebuilds now,
      payloadToOauthTokens_payloadOfTokens hrebuilds now⟩

/-- The sample library with the JSON functions of the runtime. -/
def runtimeLib : TokenLib :=
  { sampleLib with
    dumps := fun payload => Json.dumps (.obj payload)
    loads := fun text =>
      match Json.loads id text with
      | .ok value => .ok value
      | .error _ => .error (.jsonDecodeError text) }

theorem runtimeLib_usesRuntimeJson (nesting : ℕ) :
    UsesRuntimeJson nesting id runtimeLib.toCryptoLib where
  dumps _ _ _ := rfl
  loads _ _ _ _ _ _ loaded h := by
    simp only [runtimeLib, h]

theorem dumps_sampleTokens :
    Json.dumps (.obj (payloadOfTokens sampleTokens)) = sampleText := by
  decide +kernel

theorem sampleTokens_printable : sampleTokens.Printable id where
  refreshToken := .null
  expiresIn := show (Nat.toDigits 10 3600).length ≤ 4300 by decide
  refreshTokenExpiresIn := .null

theorem sampleTokens_nestsWithin :
    Json.NestsWithin 1 (.obj (payloadOfTokens sampleTokens)) := by
  refine .obj ?_
  simp only [payloadOfTokens, List.forall_mem_cons]
  exact ⟨.str _, .null, .int _, .str _, .str _, .null, List.forall_mem_nil _⟩

theorem encrypted_payload_survives_sample :
    ∃ blob, encryptTokenPayload runtimeLib.toCryptoLib sampleKey "nonce"
        (payloadOfTokens sampleTokens) = .ok (blob, ciphertextVersion) ∧
      (decryptItem runtimeLib sampleKey
        ⟨credsKey "org-1", credsAttrs blob ciphertextVersion noon⟩ >>=
          payloadToTokens runtimeLib noon) = .ok sampleTokens := by
  have hkey : KeyUsable runtimeLib.toCryptoLib sampleKey := ⟨by decide, by decide⟩
  have hdecrypts : DecryptsBack runtimeLib.toCryptoLib sampleKey "nonce"
      (Json.dumps (.obj (payloadOfTokens sampleTokens))).toUTF8 := by
    rw [dumps_sampleTokens]
    refine ⟨⟨sampleBlob, decodeAscii?_toUTF8 (by decide +kernel)⟩, ?_⟩
    simp only [runtimeLib, sampleLib]
    exact if_pos ⟨trivial, trivial⟩
  obtain ⟨blob, hencrypt, -, htokens⟩ := encrypted_payload_survives
    (runtimeLib_usesRuntimeJson 1) hkey sampleTokens_printable.payload_loadable
    sampleTokens_nestsWithin hdecrypts
  have hrebuilds : sampleTokens.Rebuilds runtimeLib :=
    ⟨sampleTokens_roundTrip.rebuilds.obtainedAt, rfl, rfl⟩
  exact ⟨blob, hencrypt,
    (htokens sampleTokens (credsKey "org-1") noon noon rfl hrebuilds).1⟩

end ByodsServer
