import Mathlib.Data.Rat.Defs

/-!
# JSON values

The values of `serde_json`, and what the code asks of them. Its parser and its serializer
are parameters.
-/

namespace Strobengine.Rust

/-- `serde_json::Value`. -/
inductive Json where
  | null
  | bool (value : Bool)
  | number (value : ℚ)
  | string (text : String)
  | array (items : List Json)
  | object (fields : List (String × Json))

namespace Json

/-- `value.get(key)`: only objects have keys. -/
def get (key : String) : Json → Option Json
  | .object fields => fields.lookup key
  | _ => none

def asStr : Json → Option String
  | .string text => some text
  | _ => none

def asArray : Json → Option (List Json)
  | .array items => some items
  | _ => none

end Json

/-- `serde_json::from_str` and `serde_json::to_string`, with the texts of their errors. -/
structure JsonCodec where
  fromStr : String → Except String Json
  toStr : Json → Except String String

end Strobengine.Rust
