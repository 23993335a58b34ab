import PathQuery.Text.Fold
import PathQuery.Value.Basic

namespace PathQuery

variable {α : Type}

def named? (entries : List (String × α)) (name : String) : Option α :=
  match entries.find? fun e => e.1 == name with
  | some e => some e.2
  | none => (entries.find? fun e => Text.sameName e.1 name).map (·.2)

def setNamed (entries : List (String × α)) (name : String) (value : α) : List (String × α) :=
  match entries with
  | [] => [(name, value)]
  | e :: rest => if e.1 == name then (e.1, value) :: rest else e :: setNamed rest name value

namespace Fields

def insert (fields : Fields) (name : String) (value : Value) : Fields :=
  setNamed fields name value

def ofList (fields : List (String × Value)) : Fields :=
  fields.foldl (fun acc f => insert acc f.1 f.2) []

def names (fields : Fields) : List String := fields.map (·.1)

def lookup? (fields : Fields) (name : String) : Option Value := named? fields name

end Fields

namespace Entries

def insert (entries : Entries) (key : Key) (value : Value) : Entries :=
  match entries with
  | [] => [(key, value)]
  | e :: rest =>
    match key.compare e.1 with
    | .lt => (key, value) :: e :: rest
    | .eq => (e.1, value) :: rest
    | .gt => e :: insert rest key value

def ofList (entries : List (Key × Value)) : Entries :=
  entries.foldl (fun acc e => insert acc e.1 e.2) []

def texts (entries : Entries) : Fields := entries.map fun e => (e.1.text, e.2)

def lookup? (entries : Entries) (name : String) : Option Value := named? entries.texts name

end Entries

def Value.lookup? (v : Value) (name : String) : Option Value :=
  match v with
  | .record fields => Fields.lookup? fields name
  | .map entries => Entries.lookup? entries name
  | _ => none

end PathQuery
