import PathQuery.Command.Basic

namespace PathQuery

inductive Stop where
  | usage
  | help
  | version
deriving DecidableEq, Repr

inductive OptionRole where
  | flag
  | value
  | stop (s : Stop)
deriving DecidableEq, Repr

structure OptionSpec where
  name : String
  letter? : Option Char
  role : OptionRole

structure Arguments where
  query? : Option String
  options : List (String × Option String)

namespace Arguments

def none : Arguments := ⟨Option.none, []⟩

def has (a : Arguments) (name : String) : Bool := a.options.any fun o => o.1 == name

def value? (a : Arguments) (name : String) : Option String :=
  (a.options.find? fun o => o.1 == name).bind (·.2)

def set (a : Arguments) (name : String) (value? : Option String) : Except Stop Arguments :=
  if a.has name then .error .usage else .ok { a with options := (name, value?) :: a.options }

def setQuery (a : Arguments) (query : String) : Except Stop Arguments :=
  match a.query? with
  | some _ => .error .usage
  | Option.none => .ok { a with query? := some query }

def bare (a : Arguments) (s : OptionSpec) : Except Stop (Arguments × Option OptionSpec) :=
  match s.role with
  | .flag => (a.set s.name Option.none).map (·, Option.none)
  | .value => .ok (a, some s)
  | .stop reason => .error reason

def attached (a : Arguments) (s : OptionSpec) (value : String) :
    Except Stop (Arguments × Option OptionSpec) :=
  match s.role with
  | .value => (a.set s.name (some value)).map (·, Option.none)
  | _ => .error .usage

def long (specs : List OptionSpec) (a : Arguments) (cs : List Char) :
    Except Stop (Arguments × Option OptionSpec) :=
  let name := String.ofList (cs.takeWhile (· != '='))
  match specs.find? fun s => s.name == name with
  | Option.none => .error .usage
  | some s =>
    match cs.dropWhile (· != '=') with
    | [] => a.bare s
    | _ :: value => a.attached s (String.ofList value)

def letters (specs : List OptionSpec) (a : Arguments) :
    List Char → Except Stop (Arguments × Option OptionSpec)
  | [] => .ok (a, Option.none)
  | c :: cs =>
    match specs.find? fun s => s.letter? == some c with
    | Option.none => .error .usage
    | some s =>
      match s.role, cs with
      | .value, '=' :: value => a.attached s (String.ofList value)
      | .value, c :: value => a.attached s (String.ofList (c :: value))
      | _, cs => do
        let (a, waiting?) ← a.bare s
        match waiting? with
        | some s => return (a, some s)
        | Option.none => letters specs a cs

def isOption (argument : String) : Bool :=
  match argument.toList with
  | '-' :: _ :: _ => true
  | _ => false

def option (specs : List OptionSpec) (a : Arguments) (argument : String) :
    Except Stop (Arguments × Option OptionSpec) :=
  match argument.toList with
  | '-' :: '-' :: cs => long specs a cs
  | '-' :: cs => letters specs a cs
  | _ => .error .usage

def positional (a : Arguments) : List String → Except Stop Arguments
  | [] => .ok a
  | s :: rest => do positional (← a.setQuery s) rest

def read (specs : List OptionSpec) (a : Arguments) (waiting? : Option OptionSpec) :
    List String → Except Stop Arguments
  | [] => if waiting?.isSome then .error .usage else .ok a
  | s :: rest =>
    match waiting? with
    | some spec =>
      if isOption s then .error .usage
      else do
        let a ← a.set spec.name (some s)
        read specs a Option.none rest
    | Option.none =>
      if s = "--" then a.positional rest
      else if isOption s then do
        let (a, waiting?) ← a.option specs s
        read specs a waiting? rest
      else do
        let a ← a.setQuery s
        read specs a Option.none rest

end Arguments

namespace OptionSpec

def quoteDecimals : OptionSpec := ⟨"quote-decimals", none, .flag⟩
def help : OptionSpec := ⟨"help", some 'h', .stop .help⟩
def version : OptionSpec := ⟨"version", some 'V', .stop .version⟩
def input : OptionSpec := ⟨"input", some 'i', .value⟩
def root : OptionSpec := ⟨"root", some 'r', .value⟩
def pretty : OptionSpec := ⟨"pretty", some 'p', .flag⟩
def schema : OptionSpec := ⟨"schema", some 's', .value⟩
def target : OptionSpec := ⟨"target", some 't', .value⟩

end OptionSpec

structure Invocation where
  command : Command
  quotesNumbers : Bool

structure CommandSpec where
  name : String
  options : List OptionSpec
  command? : Arguments → Option Command

namespace CommandSpec

def evaluate : CommandSpec where
  name := "eval"
  options := [.input, .root, .pretty]
  command? a := do
    return .evaluate (← a.query?) (a.value? "input") (a.value? "root") (a.has "pretty")

def validate : CommandSpec where
  name := "validate"
  options := [.schema, .target, .pretty]
  command? a := do
    return .validate (← a.query?) (← a.value? "schema") (← a.value? "target") (a.has "pretty")

def dependencies : CommandSpec where
  name := "deps"
  options := []
  command? a := a.query?.map .dependencies

def canonical : CommandSpec where
  name := "check"
  options := []
  command? a := a.query?.map .canonical

def all : List CommandSpec := [evaluate, validate, dependencies, canonical]

def named? (name : String) : Option CommandSpec := all.find? fun s => s.name == name

def invocation (s : CommandSpec) (quoted : Bool) (arguments : List String) :
    Except Stop Invocation := do
  let a ← Arguments.read (.quoteDecimals :: .help :: s.options) .none none arguments
  match s.command? a with
  | some command => return ⟨command, quoted || a.has "quote-decimals"⟩
  | none => .error .usage

end CommandSpec

namespace Invocation

def helpOn (arguments : List String) : Stop :=
  match arguments with
  | [] => .help
  | [name] => if name = "help" || (CommandSpec.named? name).isSome then .help else .usage
  | _ => .usage

def read (a : Arguments) : List String → Except Stop Invocation
  | [] => .error .usage
  | s :: rest =>
    match CommandSpec.named? s with
    | some spec => spec.invocation (a.has "quote-decimals") rest
    | none =>
      if s = "help" then .error (helpOn rest)
      else do
        let (a, _) ← a.option [.quoteDecimals, .help, .version] s
        read a rest

def ofArguments (arguments : List String) : Except Stop Invocation := read .none arguments

def withInput (i : Invocation) (input? : Option String) : Invocation :=
  match i.command with
  | .evaluate query none root? pretty =>
    { i with command := .evaluate query input? root? pretty }
  | _ => i

end Invocation
end PathQuery
