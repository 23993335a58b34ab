import PathQuery.Engine
import PathQuery.Typeahead.Printer

namespace PathQuery

inductive Command where
  | evaluate (query : String) (input? root? : Option String) (pretty : Bool)
  | validate (query schema target : String) (pretty : Bool)
  | dependencies (query : String)
  | canonical (query : String)

inductive CommandError where
  | query (e : QueryError)
  | malformedInput
  -- A file cannot be read, for a reason that the system gives.
  | unreadableFile (reason : String)
  | noInput
deriving DecidableEq, Repr

def CommandError.message : CommandError → String
  | .query e => e.message
  | .malformedInput => "invalid JSON input: *"
  | .unreadableFile reason => "IO error: " ++ reason
  | .noInput => "no input provided, use --input or pipe JSON to stdin"

def Value.readInput (text : String) : Except CommandError Value :=
  (Value.readJson text).mapError fun
    | .malformed => .malformedInput
    | .number e => .query (.number e)

abbrev FileText := Except String String

def Json.render (pretty : Bool) (j : Json) : String := if pretty then j.prettyText else j.text

namespace Command

def isDocument (argument : String) : Bool :=
  match Text.trimStart argument.toList with
  | '{' :: _ => true
  | _ => false

def schemaText (file : String → FileText) (argument : String) : Except CommandError String :=
  if isDocument argument then .ok argument else (file argument).mapError .unreadableFile

def file? : Command → Option String
  | .validate _ schema _ _ => if isDocument schema then none else some schema
  | _ => none

def awaitsInput : Command → Bool
  | .evaluate _ none _ _ => true
  | _ => false

def readInput (input? : Option String) : Except CommandError Value :=
  match input? with
  | some text => Value.readInput text
  | none => .error .noInput

def readRoot (input : Value) (root? : Option String) : Except CommandError Value :=
  match root? with
  | some text => Value.readInput text
  | none => .ok input

def canonicalText (e : Engine) (query : String) : Except CommandError String :=
  (e.parse query).1.map (·.query.text) |>.mapError fun fault => .query (.parse fault)

def evaluateText (e : Engine) (query : String) (input? root? : Option String) (pretty : Bool) :
    Except CommandError String := do
  let _ ← canonicalText e query
  let input ← readInput input?
  let root ← readRoot input root?
  let value ← (e.evaluate query input root).1.mapError .query
  return (value.toJson e.codecs.numbers).render pretty

def validateText (e : Engine) (query schema target : String) (pretty : Bool) :
    Except CommandError String := do
  let validation ← (e.validate query schema target).1.mapError .query
  return validation.toJson.render pretty

def dependencyLines (e : Engine) (query : String) : Except CommandError (List String) := do
  let chains ← (e.dependencies query).1.mapError .query
  return chains.map (Text.joined ".")

def lines (e : Engine) (file : String → FileText) : Command → Except CommandError (List String)
  | .evaluate query input? root? pretty => do
    return [← evaluateText e query input? root? pretty]
  | .validate query schema target pretty => do
    let text ← schemaText file schema
    return [← validateText e query text target pretty]
  | .dependencies query => dependencyLines e query
  | .canonical query => do
    return ["Syntax is valid: " ++ (← canonicalText e query)]

end Command
end PathQuery
