import PathQuery.Binary64.Shortest
import PathQuery.Toml.Moment
import PathQuery.Value.Json

namespace PathQuery.Toml

inductive TableKind where
  | header
  | implied
  | dotted
  | closed
deriving DecidableEq, Repr

inductive Item where
  | string (s : String)
  | integer (n : Int)
  | float (x : Binary64)
  | bool (b : Bool)
  | moment (m : Moment)
  | array (isOpen : Bool) (items : List Item)
  | table (kind : TableKind) (members : List (String × Item))

abbrev Members := List (String × Item)

def TableKind.admits (kind made : TableKind) : Bool :=
  match kind with
  | .closed => false
  | .header => made != .dotted
  | .implied | .dotted => true

def change (name : String) (f : Option Item → Option Item) : Members → Option Members
  | [] => (f none).map fun i => [(name, i)]
  | m :: ms =>
    if m.1 = name then (f (some m.2)).map fun i => (name, i) :: ms
    else (change name f ms).map (m :: ·)

def changeLast (f : Item → Option Item) : List Item → Option (List Item)
  | [] => none
  | [i] => (f i).map ([·])
  | i :: items => (changeLast f items).map (i :: ·)

abbrev TableChange := TableKind → Members → Option Members

def TableChange.item (f : TableChange) : Item → Option Item
  | .table kind ms => (f kind ms).map (.table kind)
  | _ => none

-- Changes a table on the way of a path, or makes it. The way through an open array goes through its
-- last table.
def TableChange.enter (made : TableKind) (f : TableChange) : Option Item → Option Item
  | none => (f made []).map (.table made)
  | some (.table kind ms) => if kind.admits made then f.item (.table kind ms) else none
  | some (.array true items) => (changeLast f.item items).map (.array true)
  | some _ => none

def TableChange.within (made : TableKind) (f : TableChange) : List String → TableChange
  | [] => f
  | name :: path => fun _ ms => change name ((f.within made path).enter made) ms

def addNew (name : String) (i : Item) (ms : Members) : Option Members :=
  change name (fun
    | none => some i
    | some _ => none) ms

def addPair (path : List String) (name : String) (i : Item) : TableChange :=
  TableChange.within .dotted
    (fun kind ms => if (kind == .dotted) == path.isEmpty then none else addNew name i ms) path

def openTable : Option Item → Option Item
  | none => some (.table .header [])
  | some (.table .implied ms) => some (.table .header ms)
  | some _ => none

def openRow : Option Item → Option Item
  | none => some (.array true [.table .header []])
  | some (.array true items) => some (.array true (items ++ [.table .header []]))
  | some _ => none

namespace Item

def gather (ms : List (String × Except NumberOutOfRange Value)) :
    Except NumberOutOfRange (List (String × Value)) :=
  (Json.sortMembers ms).mapM fun m => m.2.map (m.1, ·)

mutual

def value : Item → Except NumberOutOfRange Value
  | .string s => .ok (.string s)
  | .integer n => (Decimal.read (toString n)).map .number
  | .float x => (Decimal.read x.text).map .number
  | .bool b => .ok (.bool b)
  | .moment m => .ok (.string m.text)
  | .array _ items => (itemValues items).map .sequence
  | .table _ ms => (gather (memberValues ms)).map .record

def itemValues : List Item → Except NumberOutOfRange (List Value)
  | [] => .ok []
  | i :: items => do
    let v ← i.value
    let vs ← itemValues items
    return v :: vs

def memberValues : List (String × Item) → List (String × Except NumberOutOfRange Value)
  | [] => []
  | (name, i) :: ms => (name, i.value) :: memberValues ms

end

end Item
end PathQuery.Toml
