import Mathlib.Data.Int.Notation
import Mathlib.Data.List.Dedup
import Mathlib.Tactic.Common

/-!
# JSON values

A JSON value once it is parsed. A number is known by its value if it is an integer, and a field that
a text gives twice has its last value.
-/

namespace Cthuwu

inductive Json
  | null
  | bool (value : Bool)
  | number (integer : Option ℤ)
  | string (value : String)
  | array (items : List Json)
  | object (fields : List (String × Json))

namespace Json

abbrev Record := List (String × Json)

def asRecord : Json → Option Record
  | object fields => some fields
  | _ => none

def asString : Json → Option String
  | string value => some value
  | _ => none

def asArray : Json → Option (List Json)
  | array items => some items
  | _ => none

def asBool : Json → Option Bool
  | bool value => some value
  | _ => none

def asInteger : Json → Option ℤ
  | number integer => integer
  | _ => none

/-- The value of a field. -/
def Record.get (record : Record) (key : String) : Option Json :=
  (record.findRev? (·.1 = key)).map (·.2)

/-- The record has these keys and no others. -/
def Record.HasExactKeys (record : Record) (expected : List String) : Prop :=
  (record.map (·.1)).dedup.Perm expected

instance (record : Record) (expected : List String) : Decidable (record.HasExactKeys expected) :=
  inferInstanceAs (Decidable (List.Perm _ _))

end Json

end Cthuwu
