import Mathlib.Data.List.Sort
import TokensFlux.Common.Str

/-!
# JSON values

The values that Go decodes JSON into when the type is `any`, and their texts by `json.Marshal` and
the verb `%v`.
-/

namespace TokensFlux

/-- A JSON value.  A number is the text in which Go writes it; the fields of an object are in any
order. -/
inductive Json
  | null
  | bool (value : Bool)
  | number (text : String)
  | string (value : String)
  | array (values : List Json)
  | object (fields : List (String × Json))
deriving Repr

namespace Json

def field (fields : List (String × Json)) (key : String) : Json :=
  (fields.lookup key).getD .null

def hexByte (n : ℕ) : String :=
  String.ofList [Nat.digitChar (n / 16), Nat.digitChar (n % 16)]

def quoteChar (c : Char) : String :=
  match c with
  | '"' => "\\\""
  | '\\' => "\\\\"
  | '\n' => "\\n"
  | '\r' => "\\r"
  | '\t' => "\\t"
  | _ =>
    if c.toNat = 8 then "\\b"
    else if c.toNat = 12 then "\\f"
    else if c.toNat < 32 ∨ c = '<' ∨ c = '>' ∨ c = '&' then "\\u00" ++ hexByte c.toNat
    else if c.toNat = 0x2028 then "\\u2028"
    else if c.toNat = 0x2029 then "\\u2029"
    else String.singleton c

def quote (s : String) : String :=
  "\"" ++ String.join (s.toList.map quoteChar) ++ "\""

def sortFields (fields : List (String × String)) : List String :=
  (fields.insertionSort fun f g => f.1 ≤ g.1).map (·.2)

mutual

def marshal : Json → String
  | .null => "null"
  | .bool value => if value then "true" else "false"
  | .number text => text
  | .string value => quote value
  | .array values => "[" ++ String.intercalate "," (marshalValues values) ++ "]"
  | .object fields => "\x7b" ++ String.intercalate "," (sortFields (marshalFields fields)) ++ "\x7d"

def marshalValues : List Json → List String
  | [] => []
  | value :: values => marshal value :: marshalValues values

def marshalFields : List (String × Json) → List (String × String)
  | [] => []
  | (key, value) :: fields => (key, quote key ++ ":" ++ marshal value) :: marshalFields fields

end

mutual

def sprint : Json → String
  | .null => "<nil>"
  | .bool value => if value then "true" else "false"
  | .number text => text
  | .string value => value
  | .array values => "[" ++ String.intercalate " " (sprintValues values) ++ "]"
  | .object fields => "map[" ++ String.intercalate " " (sortFields (sprintFields fields)) ++ "]"

def sprintValues : List Json → List String
  | [] => []
  | value :: values => sprint value :: sprintValues values

def sprintFields : List (String × Json) → List (String × String)
  | [] => []
  | (key, value) :: fields => (key, key ++ ":" ++ sprint value) :: sprintFields fields

end

def interface2String : Json → String
  | .null => ""
  | value => sprint value

example : marshal (.object [("b", .array [.null, .number "1"]), ("a", .string "x\ny")]) =
    "\x7b\"a\":\"x\\ny\",\"b\":[null,1]\x7d" := by decide +kernel

end Json

end TokensFlux
