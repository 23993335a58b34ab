import PathQuery.Codec.Basic
import PathQuery.Xml.Event

namespace PathQuery.Xml

structure Grouping where
  order : List String
  values : List (String × List Value)

namespace Grouping

def contains (g : Grouping) (name : String) : Bool := (g.values.lookup name).isSome

def valuesOf (g : Grouping) (name : String) : List Value := (g.values.lookup name).getD []

def add (g : Grouping) (name : String) (v : Value) : Grouping where
  order := if g.contains name then g.order else g.order ++ [name]
  values := setNamed g.values name (g.valuesOf name ++ [v])

def addAll (g : Grouping) (parts : List (String × Value)) : Grouping :=
  parts.foldl (fun g p => g.add p.1 p.2) g

def ofParts (parts : List (String × Value)) : Grouping := addAll ⟨[], []⟩ parts

def merged : List Value → Value
  | [v] => v
  | vs => .sequence vs

def fields (g : Grouping) : Fields :=
  g.order.foldl (fun fields name => Fields.insert fields name (merged (g.valuesOf name))) []

end Grouping

structure OpenElement where
  name : String
  parts : List (String × Value)
  text : String

namespace OpenElement

def ofTag (name : String) (attributes : List Attribute) : OpenElement :=
  ⟨name, (attributes.map fun a => ("@" ++ a.1, Value.string a.2)).reverse, ""⟩

def push (e : OpenElement) (name : String) (v : Value) : OpenElement :=
  { e with parts := (name, v) :: e.parts }

def append (e : OpenElement) (s : String) : OpenElement := { e with text := e.text ++ s }

def value (e : OpenElement) : Value :=
  if e.parts.isEmpty then .string e.text
  else
    let fields := (Grouping.ofParts e.parts.reverse).fields
    let text := Text.trim e.text
    .record (if text.isEmpty then fields else Fields.insert fields "#text" (.string text))

end OpenElement

structure Document where
  opened : List OpenElement
  root? : Option (String × Value)

namespace Document

def empty : Document := ⟨[], none⟩

-- Text outside the root is dropped.
def append (d : Document) (s : String) : Document :=
  match d.opened with
  | e :: opened => { d with opened := e.append s :: opened }
  | [] => d

def place (d : Document) (name : String) (v : Value) : Except XmlFault Document :=
  match d.opened, d.root? with
  | e :: opened, _ => .ok { d with opened := e.push name v :: opened }
  | [], none => .ok { d with root? := some (name, v) }
  | [], some _ => .error .multipleRoots

def step (d : Document) (e : Event) : Except XmlFault Document :=
  match e with
  | .openTag name attributes => .ok { d with opened := .ofTag name attributes :: d.opened }
  | .emptyTag name attributes => d.place name (OpenElement.ofTag name attributes).value
  | .closeTag =>
    match d.opened with
    | e :: opened => { d with opened := opened }.place e.name e.value
    | [] => .error .unbalancedEndTag
  | .text s => .ok (d.append s)
  | .entity name =>
    match named? name with
    | some c => .ok (d.append c.toString)
    | none => .error (.unknownEntity name)
  | .other => .ok d
  | .malformed => .error .markup

def finish (d : Document) : Except XmlFault Value :=
  match d.opened, d.root? with
  | _ :: _, _ => .error .unexpectedEnd
  | [], some root => .ok (.record [root])
  | [], none => .error .missingRoot

def run (d : Document) : List Event → Except XmlFault Document
  | [] => .ok d
  | e :: events =>
    match d.step e with
    | .ok d => run d events
    | .error fault => .error fault

end Document

def ofEvents (events : List Event) : Except XmlFault Value :=
  match Document.empty.run events with
  | .ok d => d.finish
  | .error fault => .error fault

def read : Reader := fun text => (ofEvents (events text)).mapError .xml

end PathQuery.Xml
