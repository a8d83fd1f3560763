/-
# JSON as a text

`json.dumps` and `json.loads` on the values of this model. Everything but ASCII is
escaped, in two halves where it takes more than one code unit; an indentation changes
white space alone. The scanner is the one of the runtime: a key that comes again replaces
the value before it, a number may be one of three names, and what follows the value but
white space is an error. A text with half of a surrogate pair has no value here.

The scanner's fuel is twice the length of the text: no nesting uses it up.
-/

import ByodsServer.Python.Json

namespace Python

namespace Json

/-! ## Printing -/

/-- The digits of the hexadecimal system. -/
def hexDigit (digit : ℕ) : Char := "0123456789abcdef".toList.getD digit '0'

/-- The escape of one code unit. -/
def unicodeEscape (unit : ℕ) : List Char :=
  ['\\', 'u', hexDigit (unit / 4096 % 16), hexDigit (unit / 256 % 16), hexDigit (unit / 16 % 16),
    hexDigit (unit % 16)]

/-- What `json.dumps` makes of one code point of a text, all of it ASCII. -/
def escapeChar (c : Char) : List Char :=
  if c = '"' then ['\\', '"']
  else if c = '\\' then ['\\', '\\']
  else if c = '\n' then ['\\', 'n']
  else if c = '\r' then ['\\', 'r']
  else if c = '\t' then ['\\', 't']
  else if c = '\x0c' then ['\\', 'f']
  else if c = '\x08' then ['\\', 'b']
  else if 0x20 ≤ c.toNat ∧ c.toNat ≤ 0x7e then [c]
  else if c.toNat < 0x10000 then unicodeEscape c.toNat
  else
    unicodeEscape (0xd800 + (c.toNat - 0x10000) / 1024) ++
      unicodeEscape (0xdc00 + (c.toNat - 0x10000) % 1024)

/-- A text as a JSON string. -/
def quoted (text : String) : List Char :=
  '"' :: (text.toList.flatMap escapeChar ++ ['"'])

/-- The text of a float; three of them have names of their own. -/
def floatText (text : String) : List Char :=
  if text = "nan" then "NaN".toList
  else if text = "inf" then "Infinity".toList
  else if text = "-inf" then "-Infinity".toList
  else text.toList

/-- What stands between a bracket and a value: nothing, or a new line when the output is
indented. -/
def lineBreak (indent : Option ℕ) (level : ℕ) : List Char :=
  match indent with
  | none => []
  | some width => '\n' :: List.replicate (width * level) ' '

/-- What separates two items. -/
def itemSeparator (indent : Option ℕ) (level : ℕ) : List Char :=
  match indent with
  | none => [',', ' ']
  | some _ => ',' :: lineBreak indent level

mutual

/-- `json.dumps(value, indent=indent)`, at some depth. -/
def dump (indent : Option ℕ) (level : ℕ) : Json → List Char
  | null => "null".toList
  | bool true => "true".toList
  | bool false => "false".toList
  | int value => (toString value).toList
  | float text => floatText text
  | str text => quoted text
  | arr [] => ['[', ']']
  | arr (item :: items) =>
      '[' :: (lineBreak indent (level + 1) ++ dump indent (level + 1) item ++
        dumpItems indent (level + 1) items ++ lineBreak indent level ++ [']'])
  | obj [] => ['{', '}']
  | obj ((name, value) :: fields) =>
      '{' :: (lineBreak indent (level + 1) ++ quoted name ++ [':', ' '] ++
        dump indent (level + 1) value ++ dumpFields indent (level + 1) fields ++
        lineBreak indent level ++ ['}'])

/-- The items after the first. -/
def dumpItems (indent : Option ℕ) (level : ℕ) : List Json → List Char
  | [] => []
  | item :: items =>
      itemSeparator indent level ++ dump indent level item ++ dumpItems indent level items

/-- The fields after the first. -/
def dumpFields (indent : Option ℕ) (level : ℕ) : List (String × Json) → List Char
  | [] => []
  | (name, value) :: fields =>
      itemSeparator indent level ++ quoted name ++ [':', ' '] ++ dump indent level value ++
        dumpFields indent level fields

end

/-- `json.dumps(value, indent=indent)`. -/
def dumps (value : Json) (indent : Option ℕ := none) : String := String.ofList (dump indent 0 value)


/-! ## Scanning -/

/-- Why a text is not loaded: it is no JSON, an integer is too long for `int`, or a string
has half of a surrogate pair, which no text here can hold. -/
inductive ScanError
  | decode (message : String)
  | value (message : String)
  | surrogate
  | fuel
  deriving DecidableEq, Repr

/-- White space between tokens. -/
def isBlank (c : Char) : Bool := c = ' ' || c = '\t' || c = '\n' || c = '\r'

/-- The text after white space. -/
def skipBlanks (text : List Char) : List Char := text.dropWhile isBlank

/-- The value of a hexadecimal digit. -/
def hexValue (c : Char) : Option ℕ :=
  if '0' ≤ c ∧ c ≤ '9' then some (c.toNat - 48)
  else if 'a' ≤ c ∧ c ≤ 'f' then some (c.toNat - 87)
  else if 'A' ≤ c ∧ c ≤ 'F' then some (c.toNat - 55)
  else none

/-- The four digits after `\u`, and the text after them. -/
def scanUnit : List Char → Except ScanError (ℕ × List Char)
  | a :: b :: c :: d :: text =>
      match hexValue a, hexValue b, hexValue c, hexValue d with
      | some a, some b, some c, some d => .ok (4096 * a + 256 * b + 16 * c + d, text)
      | _, _, _, _ => .error (.decode "Invalid \\uXXXX escape")
  | _ => .error (.decode "Invalid \\uXXXX escape")

/-- The code point of an escape `\u`, which may be one of two that belong together. -/
def scanUnicode (text : List Char) : Except ScanError (Char × List Char) := do
  let (unit, text) ← scanUnit text
  if unit < 0xd800 ∨ 0xdfff < unit then return (Char.ofNat unit, text)
  else
    match text with
    | '\\' :: 'u' :: rest => do
        let (second, rest) ← scanUnit rest
        if unit < 0xdc00 ∧ 0xdc00 ≤ second ∧ second ≤ 0xdfff then
          return (Char.ofNat (0x10000 + (unit - 0xd800) * 1024 + (second - 0xdc00)), rest)
        else throw .surrogate
    | _ => throw .surrogate

/-- The next code point of a string and the text after it, or `none` at its end. -/
def scanChar : List Char → Except ScanError (Option Char × List Char)
  | [] => .error (.decode "Unterminated string starting at")
  | '"' :: text => .ok (none, text)
  | '\\' :: 'u' :: text => do
      let (c, text) ← scanUnicode text
      return (some c, text)
  | ['\\'] => .error (.decode "Unterminated string starting at")
  | '\\' :: '"' :: text => .ok (some '"', text)
  | '\\' :: '\\' :: text => .ok (some '\\', text)
  | '\\' :: '/' :: text => .ok (some '/', text)
  | '\\' :: 'b' :: text => .ok (some '\x08', text)
  | '\\' :: 'f' :: text => .ok (some '\x0c', text)
  | '\\' :: 'n' :: text => .ok (some '\n', text)
  | '\\' :: 'r' :: text => .ok (some '\r', text)
  | '\\' :: 't' :: text => .ok (some '\t', text)
  | '\\' :: _ :: _ => .error (.decode "Invalid \\escape")
  | c :: text =>
      if c.toNat < 0x20 then .error (.decode "Invalid control character at")
      else .ok (some c, text)

/-- The rest of a string whose opening quote has been read. -/
def scanString : ℕ → List Char → Except ScanError (List Char × List Char)
  | 0, _ => .error .fuel
  | fuel + 1, text => do
      match ← scanChar text with
      | (none, text) => return ([], text)
      | (some c, text) =>
          let (rest, text) ← scanString fuel text
          return (c :: rest, text)

/-- A run of digits and the text after it. -/
def scanDigits (text : List Char) : List Char × List Char :=
  (text.takeWhile Char.isDigit, text.dropWhile Char.isDigit)

/-- The fraction of a number: a point and at least one digit, or nothing. -/
def scanFraction : List Char → List Char × List Char
  | '.' :: text =>
      match scanDigits text with
      | ([], _) => ([], '.' :: text)
      | (digits, rest) => ('.' :: digits, rest)
  | text => ([], text)

/-- The sign of an exponent, if it has one. -/
def scanSign : List Char → List Char × List Char
  | '+' :: text => (['+'], text)
  | '-' :: text => (['-'], text)
  | text => ([], text)

/-- The exponent of a number, or nothing. -/
def scanExponent : List Char → List Char × List Char
  | [] => ([], [])
  | c :: text =>
      if c = 'e' ∨ c = 'E' then
        match scanDigits (scanSign text).2 with
        | ([], _) => ([], c :: text)
        | (digits, rest) => (c :: (scanSign text).1 ++ digits, rest)
      else ([], c :: text)

/-- The digits before the point: a zero alone, or a number that starts with no zero. -/
def scanWhole : List Char → Option (List Char × List Char)
  | [] => none
  | c :: text =>
      if c = '0' then some (['0'], text)
      else if c.isDigit then some (c :: (scanDigits text).1, (scanDigits text).2)
      else none

/-- The most digits that `int` takes. -/
def intMaxStrDigits : ℕ := 4300

/-- What runtimes make of the text of a float. -/
abbrev FloatRepr := String → String

/-- A number without its sign, and the text after it. -/
def scanUnsigned (floatRepr : FloatRepr) (sign : List Char) (text : List Char) :
    Option (Except ScanError (Json × List Char)) := do
  let (whole, rest) ← scanWhole text
  let (fraction, rest) := scanFraction rest
  let (exponent, rest) := scanExponent rest
  if fraction = [] ∧ exponent = [] then
    if intMaxStrDigits < whole.length then
      return .error (.value "Exceeds the limit (4300 digits) for integer string conversion")
    else
      let digits : Int := Nat.ofDigitChars 10 whole 0
      return .ok (int (if sign = [] then digits else -digits), rest)
  else return .ok (float (floatRepr (String.ofList (sign ++ whole ++ fraction ++ exponent))), rest)

/-- A number, and the text after it. -/
def scanSigned (floatRepr : FloatRepr) :
    List Char → Option (Except ScanError (Json × List Char))
  | '-' :: text => scanUnsigned floatRepr ['-'] text
  | text => scanUnsigned floatRepr [] text

/-- A number, or one of the names of floats. -/
def scanNumber (floatRepr : FloatRepr) (text : List Char) : Except ScanError (Json × List Char) :=
  match scanSigned floatRepr text with
  | some scanned => scanned
  | none =>
      match text with
      | 'N' :: 'a' :: 'N' :: rest => .ok (float "nan", rest)
      | 'I' :: 'n' :: 'f' :: 'i' :: 'n' :: 'i' :: 't' :: 'y' :: rest => .ok (float "inf", rest)
      | '-' :: 'I' :: 'n' :: 'f' :: 'i' :: 'n' :: 'i' :: 't' :: 'y' :: rest =>
          .ok (float "-inf", rest)
      | _ => .error (.decode "Expecting value")

/-- `dict(pairs)`: a key that comes again takes the new value at its old place. -/
def insertField (fields : List (String × Json)) (name : String) (value : Json) :
    List (String × Json) :=
  if name ∈ fields.map Prod.fst then
    fields.map fun field => if field.1 = name then (name, value) else field
  else fields ++ [(name, value)]

/-- `dict(pairs)`. -/
def dictOf (pairs : List (String × Json)) : List (String × Json) :=
  pairs.foldl (fun fields pair => insertField fields pair.1 pair.2) []

mutual

/-- A value and the text after it. -/
def scanValue (floatRepr : FloatRepr) : ℕ → List Char → Except ScanError (Json × List Char)
  | 0, _ => .error .fuel
  | fuel + 1, text =>
      match text with
      | '"' :: rest => do
          let (chars, rest) ← scanString (rest.length + 1) rest
          return (str (String.ofList chars), rest)
      | '{' :: rest =>
          match skipBlanks rest with
          | '}' :: rest => .ok (obj [], rest)
          | rest => do
              let (pairs, rest) ← scanFields floatRepr fuel rest
              return (obj (dictOf pairs), rest)
      | '[' :: rest =>
          match skipBlanks rest with
          | ']' :: rest => .ok (arr [], rest)
          | rest => do
              let (items, rest) ← scanItems floatRepr fuel rest
              return (arr items, rest)
      | 'n' :: 'u' :: 'l' :: 'l' :: rest => .ok (null, rest)
      | 't' :: 'r' :: 'u' :: 'e' :: rest => .ok (bool true, rest)
      | 'f' :: 'a' :: 'l' :: 's' :: 'e' :: rest => .ok (bool false, rest)
      | text => scanNumber floatRepr text

/-- The items of an array from the next one on, to its end. -/
def scanItems (floatRepr : FloatRepr) : ℕ → List Char → Except ScanError (List Json × List Char)
  | 0, _ => .error .fuel
  | fuel + 1, text => do
      let (item, rest) ← scanValue floatRepr fuel text
      match skipBlanks rest with
      | ']' :: rest => return ([item], rest)
      | ',' :: rest => do
          let (items, rest) ← scanItems floatRepr fuel (skipBlanks rest)
          return (item :: items, rest)
      | _ => throw (.decode "Expecting ',' delimiter")

/-- The fields of an object from the next one on, to its end. -/
def scanFields (floatRepr : FloatRepr) :
    ℕ → List Char → Except ScanError (List (String × Json) × List Char)
  | 0, _ => .error .fuel
  | fuel + 1, '"' :: text => do
      let (name, rest) ← scanString (text.length + 1) text
      match skipBlanks rest with
      | ':' :: rest => do
          let (value, rest) ← scanValue floatRepr fuel (skipBlanks rest)
          match skipBlanks rest with
          | '}' :: rest => return ([(String.ofList name, value)], rest)
          | ',' :: rest => do
              let (fields, rest) ← scanFields floatRepr fuel (skipBlanks rest)
              return ((String.ofList name, value) :: fields, rest)
          | _ => throw (.decode "Expecting ',' delimiter")
      | _ => throw (.decode "Expecting ':' delimiter")
  | _ + 1, _ => .error (.decode "Expecting property name enclosed in double quotes")

end

/-- `json.loads(text)`. -/
def loads (floatRepr : FloatRepr) (text : String) : Except ScanError Json :=
  match text.toList with
  | '\ufeff' :: _ => .error (.decode "Unexpected UTF-8 BOM (decode using utf-8-sig)")
  | chars => do
      let (value, rest) ← scanValue floatRepr (2 * chars.length + 2) (skipBlanks chars)
      if skipBlanks rest = [] then return value else throw (.decode "Extra data")

end Json

end Python
