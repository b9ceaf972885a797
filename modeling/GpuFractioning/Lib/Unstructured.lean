import Mathlib.Tactic

/-!
# Unstructured objects

JSON values, and the accessors of `k8s.io/apimachinery`'s package
`unstructured`. An accessor tells a missing field from one of another type; no
caller here does, so both are `none`.
-/

inductive Json where
  | null
  | bool (value : Bool)
  | number (text : String)
  | string (value : String)
  | array (items : List Json)
  | object (fields : List (String × Json))

namespace Json

def field (key : String) : Json → Option Json
  | object fields => fields.lookup key
  | _ => none

def nested (path : List String) (j : Json) : Option Json :=
  path.foldl (fun value key => value.bind (field key)) (some j)

def asString : Json → Option String
  | string value => some value
  | _ => none

def nestedString (path : List String) (j : Json) : Option String := (j.nested path).bind asString

def nestedBool (path : List String) (j : Json) : Option Bool :=
  (j.nested path).bind fun
    | bool value => some value
    | _ => none

def nestedSlice (path : List String) (j : Json) : Option (List Json) :=
  (j.nested path).bind fun
    | array items => some items
    | _ => none

def isObject : Json → Bool
  | object _ => true
  | _ => false

/-- `NestedStringMap`: all values have to be strings. -/
def nestedStringMap (path : List String) (j : Json) : Option (List (String × String)) :=
  (j.nested path).bind fun
    | object fields => fields.mapM fun (key, value) => value.asString.map fun s => (key, s)
    | _ => none

/-- `GetName`. -/
def name (j : Json) : String := (j.nestedString ["metadata", "name"]).getD ""

/-- `GetLabels()[key]`. -/
def label (key : String) (j : Json) : String :=
  (((j.nestedStringMap ["metadata", "labels"]).getD []).lookup key).getD ""

end Json
