import PathQuery.Value.Json

namespace PathQuery

inductive Format where
  | json | xml | yaml | toml
deriving DecidableEq, Repr

def Format.name : Format → String
  | .json => "JSON"
  | .xml => "XML"
  | .yaml => "YAML"
  | .toml => "TOML"

inductive XmlFault where
  | markup
  | unbalancedEndTag
  | multipleRoots
  | unexpectedEnd
  | missingRoot
  | unknownEntity (name : String)
deriving DecidableEq, Repr

def XmlFault.message : XmlFault → String
  | .markup => "*"
  | .unbalancedEndTag => "unbalanced end tag"
  | .multipleRoots => "multiple root elements"
  | .unexpectedEnd => "unexpected end of document"
  | .missingRoot => "missing root element"
  | .unknownEntity name => "unknown entity &" ++ name ++ ";"

inductive CodecFault where
  | missing (f : Format)
  | malformed (f : Format)
  | xml (fault : XmlFault)
  | number (e : NumberOutOfRange)
deriving DecidableEq, Repr

-- What is wrong with a malformed text is not spelled out; a star stands for it.
def CodecFault.message : CodecFault → String
  | .missing f => "no codec registered for " ++ f.name
  | .malformed f => "invalid " ++ f.name ++ ": *"
  | .xml fault => "invalid XML: " ++ fault.message
  | .number e => e.message

abbrev Reader := String → Except CodecFault Value

structure Codecs where
  reader? : Format → Option Reader
  numbers : NumberStyle

namespace Codecs

def none (numbers : NumberStyle) : Codecs := ⟨fun _ => Option.none, numbers⟩

def add (cs : Codecs) (f : Format) (r : Reader) : Codecs :=
  { cs with reader? := fun g => if g = f then some r else cs.reader? g }

def read (cs : Codecs) (f : Format) (text : String) : Except CodecFault Value :=
  match cs.reader? f with
  | some r => r text
  | Option.none => .error (.missing f)

def jsonText (cs : Codecs) (v : Value) : String := v.jsonText cs.numbers

end Codecs

def readJson : Reader := fun text =>
  (Value.readJson text).mapError fun
    | .malformed => .malformed .json
    | .number e => .number e

end PathQuery
