/-
# URLs

The scheme and the network location that `urllib.parse.urlparse` finds in a
text, and the `ValueError`s it raises on the way: brackets that do not match or
do not hold an IPv6 address, and letters that Unicode normalization turns into
delimiters. Normalization and the parser of IP addresses are parameters. An
error carries its message.
-/

import ByodsServer.Python.Text

namespace Python

/-- What the parser leaves to other modules. -/
structure UrlLib where
  /-- `unicodedata.normalize("NFKC", text)`. -/
  nfkc : String → String
  /-- `ipaddress.ip_address(text).version`, or the message of its `ValueError`. -/
  ipVersion : String → Except String ℕ

/-- The parts of a URL that the server reads. -/
structure UrlParts where
  scheme : String
  netloc : String
  deriving DecidableEq, Repr

/-- A white-space or control character that is dropped from the front. -/
def isC0ControlOrSpace (c : Char) : Bool := c.toNat ≤ 0x20

/-- A line break or tab, which is dropped everywhere. -/
def isUnsafeInUrl (c : Char) : Bool := c == '\t' || c == '\r' || c == '\n'

/-- `scheme_chars`. -/
def isSchemeChar (c : Char) : Bool := c.isAlphanum || c == '+' || c == '-' || c == '.'

/-- The text after the first separator, nothing when there is none. -/
def afterFirst (separator : Char) (text : List Char) : List Char :=
  (text.dropWhile (· ≠ separator)).drop 1

/-- The lower-case scheme in front of the first colon, and the rest. -/
def splitScheme (url : List Char) : List Char × List Char :=
  let scheme := url.takeWhile (· ≠ ':')
  if ':' ∈ url ∧ (scheme.head?.any Char.isAlpha) ∧ scheme.all isSchemeChar then
    (scheme.map Char.toLower, afterFirst ':' url)
  else ([], url)

/-- `_check_bracketed_host`. -/
def checkBracketedHost (lib : UrlLib) (hostname : List Char) : Except String Unit :=
  match hostname with
  | 'v' :: rest =>
      let address := (rest.dropWhile fun c => c.isDigit || 'a' ≤ c.toLower && c.toLower ≤ 'f')
      if address.length < rest.length ∧ address.head? = some '.' ∧ 1 < address.length then .ok ()
      else .error "IPvFuture address is invalid"
  | _ =>
      match lib.ipVersion (String.ofList hostname) with
      | .error message => .error message
      | .ok version =>
          if version = 4 then .error "An IPv4 address cannot be in brackets" else .ok ()

/-- `_check_bracketed_netloc`. -/
def checkBracketedNetloc (lib : UrlLib) (netloc : List Char) : Except String Unit :=
  let hostnameAndPort := netloc.rtakeWhile (· ≠ '@')
  if '[' ∈ hostnameAndPort then
    let bracketed := afterFirst '[' hostnameAndPort
    let port := afterFirst ']' bracketed
    if hostnameAndPort.head? ≠ some '[' then .error "Invalid IPv6 URL"
    else if port ≠ [] ∧ port.head? ≠ some ':' then .error "Invalid IPv6 URL"
    else checkBracketedHost lib (bracketed.takeWhile (· ≠ ']'))
  else checkBracketedHost lib (hostnameAndPort.takeWhile (· ≠ ':'))

/-- The checks of brackets in a network location. -/
def checkBrackets (lib : UrlLib) (netloc : List Char) : Except String Unit :=
  if ('[' ∈ netloc) ≠ (']' ∈ netloc) then .error "Invalid IPv6 URL"
  else if '[' ∈ netloc then checkBracketedNetloc lib netloc
  else .ok ()

/-- `_checknetloc`. -/
def checkNetloc (lib : UrlLib) (netloc : List Char) : Except String Unit :=
  let kept := String.ofList (netloc.filter fun c => !"@:#?".toList.contains c)
  if netloc.all (fun c => c.toNat < 128) ∨ lib.nfkc kept = kept then .ok ()
  else if "/?#@:".toList.any (lib.nfkc kept).toList.contains then
    .error ("netloc '" ++ String.ofList netloc ++
      "' contains invalid characters under NFKC normalization")
  else .ok ()

/-- `urlparse`, as far as its scheme and network location. -/
def urlparse (lib : UrlLib) (url : String) : Except String UrlParts :=
  let url := (url.toList.dropWhile isC0ControlOrSpace).filter fun c => !isUnsafeInUrl c
  match splitScheme url with
  | (scheme, '/' :: '/' :: rest) => do
      let netloc := rest.takeWhile fun c => !"/?#".toList.contains c
      checkBrackets lib netloc
      checkNetloc lib netloc
      return ⟨String.ofList scheme, String.ofList netloc⟩
  | (scheme, _) => return ⟨String.ofList scheme, ""⟩

example (lib : UrlLib) :
    urlparse lib " HTTPS://me@api.example.com:443/grpc?x#y" =
      .ok ⟨"https", "me@api.example.com:443"⟩ := rfl

/-- The host in a network location; user information and port are dropped. -/
def hostOf (netloc : List Char) : List Char :=
  let hostinfo := netloc.rtakeWhile (· ≠ '@')
  if '[' ∈ hostinfo then (afterFirst '[' hostinfo).takeWhile (· ≠ ']')
  else hostinfo.takeWhile (· ≠ ':')

/-- `hostname` of what `urlparse` returns; a zone is not lower-cased. -/
def UrlParts.hostname (parts : UrlParts) : Option String :=
  let host := hostOf parts.netloc.toList
  if host = [] then none
  else some (String.ofList
    ((host.takeWhile (· ≠ '%')).map Char.toLower ++ host.dropWhile (· ≠ '%')))

example (lib : UrlLib) :
    (urlparse lib "http://Me@LOCALHOST:8765/callback").map UrlParts.hostname =
      .ok (some "localhost") := rfl

/-- White space holds no network location. -/
theorem urlparse_of_blank (lib : UrlLib) {url : String} (h : strip url = "") :
    urlparse lib url = .ok ⟨"", ""⟩ := by
  have hspace : ∀ c ∈ (url.toList.dropWhile isC0ControlOrSpace).filter fun c => !isUnsafeInUrl c,
      isSpace c = true := by
    intro c hc
    exact isSpace_of_strip h c
      ((List.dropWhile_sublist _).subset (List.mem_of_mem_filter hc))
  rw [urlparse]
  generalize (url.toList.dropWhile isC0ControlOrSpace).filter (fun c => !isUnsafeInUrl c) = text
    at hspace ⊢
  have hcolon : ':' ∉ text := fun hmem => absurd (hspace _ hmem) (by decide)
  have hsplit : splitScheme text = ([], text) := by
    rw [splitScheme, if_neg fun hscheme => hcolon hscheme.1]
  simp only [hsplit]
  split
  case h_1 rest heq =>
    have hslash : '/' ∈ text := by simp [(Prod.mk.inj heq).2]
    exact absurd (hspace _ hslash) (by decide)
  case h_2 heq =>
    rw [← (Prod.mk.inj heq).1]
    rfl

end Python
