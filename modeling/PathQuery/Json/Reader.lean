import PathQuery.Json.Basic
import PathQuery.Json.Token

namespace PathQuery.Json

inductive Open where
  | array (items : List Json)
  | object (members : List (String × Json)) (name : String)

inductive Progress where
  | value (containers : List Open)
  | firstItem (containers : List Open)
  | firstName (containers : List Open)
  | member (containers : List Open) (members : List (String × Json))
  | colon (containers : List Open) (members : List (String × Json)) (name : String)
  | after (containers : List Open) (item : Json)

def maxDepth : Nat := 127

def Progress.afterItem? (containers : List Open) (item : Json) (token : Token) :
    Option Progress :=
  match containers, token with
  | .array items :: rest, .comma => some (.value (.array (item :: items) :: rest))
  | .array items :: rest, .closeArray => some (.after rest (.array (item :: items).reverse))
  | .object members name :: rest, .comma => some (.member rest ((name, item) :: members))
  | .object members name :: rest, .closeObject =>
    some (.after rest (.object ((name, item) :: members).reverse))
  | _, _ => none

def Progress.item? (containers : List Open) (token : Token) : Option Progress :=
  match token with
  | .null => some (.after containers .null)
  | .bool b => some (.after containers (.bool b))
  | .number text => some (.after containers (.number text))
  | .string s => some (.after containers (.string s))
  | .openArray => if containers.length < maxDepth then some (.firstItem containers) else none
  | .openObject => if containers.length < maxDepth then some (.firstName containers) else none
  | _ => none

def Progress.step? (p : Progress) (token : Token) : Option Progress :=
  match p with
  | .value containers => item? containers token
  | .firstItem containers =>
    match token with
    | .closeArray => some (.after containers (.array []))
    | token => item? (.array [] :: containers) token
  | .firstName containers =>
    match token with
    | .closeObject => some (.after containers (.object []))
    | .string s => some (.colon containers [] s)
    | _ => none
  | .member containers members =>
    match token with
    | .string s => some (.colon containers members s)
    | _ => none
  | .colon containers members name =>
    match token with
    | .colon => some (.value (.object members name :: containers))
    | _ => none
  | .after containers item => afterItem? containers item token

def Progress.done? : Progress → Option Json
  | .after [] item => some item
  | _ => none

def run? (p : Progress) : List Token → Option Progress
  | [] => some p
  | t :: ts => (p.step? t).bind fun p => run? p ts

def read? (text : String) : Option Json := do
  let tokens ← tokens? text.toList
  let p ← run? (.value []) tokens
  p.done?

end PathQuery.Json
