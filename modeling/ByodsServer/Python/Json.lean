/-
# Values of parsed JSON

What `json.loads` returns, as Python values: `None`, booleans, integers, floats
(by their shortest text), strings, lists and dictionaries. A dictionary keeps
its keys in order, each key once. The texts that `str` and `repr` give to lists
and dictionaries, like the parser and the printer themselves, are parameters of
whatever uses them.
-/

import Mathlib.Tactic.Common

namespace Python

/-- A parsed JSON value. -/
inductive Json
  | null
  | bool (value : Bool)
  | int (value : Int)
  | float (text : String)
  | str (value : String)
  | arr (items : List Json)
  | obj (fields : List (String × Json))

namespace Json

/-- `bool(value)`. -/
def truthy : Json → Bool
  | null => false
  | bool value => value
  | int value => value != 0
  | float text => text != "0.0" && text != "-0.0"
  | str value => value != ""
  | arr items => !items.isEmpty
  | obj fields => !fields.isEmpty

/-- `str(value)`; the texts of lists and dictionaries come from `repr`. -/
def toText (repr : Json → String) : Json → String
  | null => "None"
  | bool true => "True"
  | bool false => "False"
  | int value => toString value
  | float text => text
  | str value => value
  | arr items => repr (arr items)
  | obj fields => repr (obj fields)

/-- `fields.get(name)` of a dictionary. -/
def get? (fields : List (String × Json)) (name : String) : Option Json :=
  fields.lookup name

end Json

end Python
