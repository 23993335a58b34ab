import PathQuery.Json.Reader
import PathQuery.Value.Json
import PathQuery.Power

namespace PathQuery

structure Settings where
  queryCapacity : Nat
  schemaCapacity : Nat
  numbers : NumberStyle
  logLevel : String
deriving DecidableEq, Repr

namespace Settings

instance : Inhabited Settings := ⟨⟨1024, 64, .bare, "warn"⟩⟩

def capacityBound : Nat := twos 64

def capacityOfDigits? (cs : List Char) : Option Nat :=
  if cs.isEmpty || !cs.all Char.isDigit then none
  else
    let n := Text.decimalValue cs
    if n < capacityBound then some n else none

def readCapacity? (text : String) : Option Nat :=
  match (Text.trim text).toList with
  | '+' :: cs => capacityOfDigits? cs
  | cs => capacityOfDigits? cs

def styleNamed (text : String) : NumberStyle :=
  if ["1", "true", "yes", "TRUE", "YES"].contains text then .quoted else .bare

def ofVariables (setting? : String → Option String) : Settings :=
  let capacity name default := ((setting? name).bind readCapacity?).getD default
  { queryCapacity := capacity "MPATH_QUERY_CACHE_CAPACITY" (default : Settings).queryCapacity
    schemaCapacity := capacity "MPATH_SCHEMA_CACHE_CAPACITY" (default : Settings).schemaCapacity
    numbers := ((setting? "MPATH_QUOTE_DECIMALS").map styleNamed).getD
      (default : Settings).numbers
    logLevel := (setting? "LOG_LEVEL").getD (default : Settings).logLevel }

abbrev Change := Settings → Json → Option Settings

def setQueryCapacity : Change
  | s, .number text => (capacityOfDigits? text.toList).map ({ s with queryCapacity := · })
  | _, _ => none

def setSchemaCapacity : Change
  | s, .number text => (capacityOfDigits? text.toList).map ({ s with schemaCapacity := · })
  | _, _ => none

def setNumbers : Change
  | s, .bool b => some { s with numbers := if b then .quoted else .bare }
  | _, _ => none

def setLogLevel : Change
  | s, .string level => some { s with logLevel := level }
  | _, _ => none

def changes : List (String × Change) :=
  [("queryCacheCapacity", setQueryCapacity), ("schemaCacheCapacity", setSchemaCapacity),
    ("quoteDecimals", setNumbers), ("logLevel", setLogLevel)]

def applyMember? (members : List (String × Json)) (s : Settings) (change : String × Change) :
    Option Settings :=
  match members.filter fun m => m.1 == change.1 with
  | [] => some s
  | [m] => change.2 s m.2
  | _ => none

def applyItems? (s : Settings) : List (String × Change) → List Json → Option Settings
  | _, [] => some s
  | [], _ :: _ => none
  | change :: changes, j :: items => (change.2 s j).bind fun s => applyItems? s changes items

def read? (text : String) : Option Settings :=
  match Json.read? text with
  | some (.object members) => changes.foldlM (applyMember? members) default
  | some (.array items) => applyItems? default changes items
  | _ => none

def areDirectives (depth : Nat) (hasLevel : Bool) : List Char → Bool
  | [] => true
  | '[' :: cs => areDirectives (depth + 1) hasLevel cs
  | ']' :: cs => areDirectives (depth - 1) hasLevel cs
  | ',' :: cs => areDirectives depth (hasLevel && depth != 0) cs
  | '=' :: cs =>
    if depth != 0 then areDirectives depth hasLevel cs
    else !hasLevel && areDirectives depth true cs
  | _ :: cs => areDirectives depth hasLevel cs

def hasLogFilter (s : Settings) : Bool := areDirectives 0 false s.logLevel.toList

end Settings
end PathQuery
