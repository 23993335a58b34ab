import PathQuery.Codec.Basic
import PathQuery.Command.Arguments

namespace PathQuery

inductive Outcome where
  | answered (lines : List String)
  | failed (e : CommandError)
  | stopped (s : Stop)
  | badLogLevel (level : String)

namespace Outcome

def code : Outcome → Nat
  | .answered _ => 0
  | .failed _ => 1
  | .stopped .usage => 2
  | .stopped _ => 0
  | .badLogLevel _ => 2

def usage : String :=
  "Usage: mpath [--quote-decimals] eval|validate|deps|check QUERY [OPTIONS]"

def unlines (lines : List String) : String := String.join (lines.map (· ++ "\n"))

def output : Outcome → String
  | .answered lines => unlines lines
  | .stopped .help => unlines [usage]
  | .stopped .version => unlines ["mpath 0.3.0"]
  | _ => ""

def complaint : Outcome → String
  | .failed e => unlines [e.message]
  | .stopped .usage => unlines [usage]
  | .badLogLevel level => unlines ["invalid log level filter '" ++ level ++ "'"]
  | _ => ""

end Outcome

def Invocation.run (i : Invocation) (settings : Settings) (codecs : NumberStyle → Codecs)
    (file : String → FileText) : Outcome :=
  if !settings.hasLogFilter then .badLogLevel settings.logLevel
  else
    let numbers := if i.quotesNumbers then .quoted else settings.numbers
    match i.command.lines (.ofSettings settings (codecs numbers)) file with
    | .ok lines => .answered lines
    | .error e => .failed e

def Program.run (arguments : List String) (setting? : String → Option String)
    (input? : Option String) (codecs : NumberStyle → Codecs) (file : String → FileText) :
    Outcome :=
  match Invocation.ofArguments arguments with
  | .ok i => (i.withInput input?).run (.ofVariables setting?) codecs file
  | .error s => .stopped s

end PathQuery
