import KrustyKms.Common.Basic

/-!
# JSON documents

`Json` is the tree of a document as it is written: the entries of an object are in the order
of the text, and a key may be written twice. Numbers are told apart as `serde_json` does.
-/

namespace KrustyKms

inductive Json where
  | null
  | bool (value : Bool)
  | posInt (value : UInt64)
  | negInt (value : Int)
  | float (text : String)
  | string (text : String)
  | array (elements : List Json)
  | object (entries : List (String × Json))

namespace Json

def get : Json → String → Option Json
  | object entries, key => entries.lookup key
  | _, _ => none

def asArray : Json → Option (List Json)
  | array elements => some elements
  | _ => none

def isString : Json → String → Bool
  | string text, expected => text = expected
  | _, _ => false

end Json

/-- The parser of the `serde_json` crate: the tree of a text that is one JSON document. -/
class SerdeJson where
  parse : String → Option Json

end KrustyKms
