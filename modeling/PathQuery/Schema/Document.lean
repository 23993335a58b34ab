import PathQuery.Json.Reader
import PathQuery.Schema.Shape
import PathQuery.SortedList

namespace PathQuery

inductive SchemaError where
  | malformed
  | unknownType (key name : String)
  | unknownRequirement (key required : String)
  | unknownTarget (name : String)
deriving DecidableEq, Repr

def SchemaError.message : SchemaError → String
  | .malformed => "invalid schema document: *"
  | .unknownType key name => "unknown type '" ++ name ++ "' for '" ++ key ++ "'"
  | .unknownRequirement key required => "'" ++ key ++ "' requires unknown key '" ++ required ++ "'"
  | .unknownTarget name => "unknown validation target '" ++ name ++ "'"

inductive TypeSpec where
  | named (name : String)
  | bool
  | string
  | number
  | any
  | record (fields : List (String × TypeSpec))
  | list (element : TypeSpec)

namespace TypeSpec

structure Views where
  text? : Option String
  spec? : Option TypeSpec
  fields? : Option (List (String × TypeSpec))

def Views.under (name : String) (members : List (String × Views)) : List Views :=
  (members.filter fun m => m.1 == name).map (·.2)

def ofKind? (kind : String) (fields element : List Views) : Option TypeSpec :=
  match kind with
  | "bool" => some .bool
  | "string" => some .string
  | "number" => some .number
  | "any" => some .any
  | "record" =>
    match fields with
    | [] => some (.record [])
    | [v] => v.fields?.map .record
    | _ => none
  | "list" =>
    match element with
    | [v] => v.spec?.map .list
    | _ => none
  | _ => none

def ofMembers? (members : List (String × Views)) : Option TypeSpec :=
  match Views.under "kind" members with
  | [v] =>
    match v.text? with
    | some kind => ofKind? kind (Views.under "fields" members) (Views.under "element" members)
    | none => none
  | _ => none

def ofItems? (items : List Views) : Option TypeSpec :=
  match items with
  | [] => none
  | v :: rest =>
    match v.text? with
    | some kind =>
      match kind with
      | "record" => ofKind? kind rest []
      | "list" => ofKind? kind [] rest
      | kind => if rest.isEmpty then ofKind? kind [] [] else none
    | none => none

def allSpecs? : List (String × Views) → Option (List (String × TypeSpec))
  | [] => some []
  | m :: members => do
    let spec ← m.2.spec?
    let rest ← allSpecs? members
    return (m.1, spec) :: rest

mutual

-- A number in the place of fields counts as one field of a type of that name.
def views : Json → Views
  | .string s => ⟨some s, some (.named s), none⟩
  | .number text => ⟨none, none, some [(text, .named text)]⟩
  | .array items => ⟨none, ofItems? (itemViews items), none⟩
  | .object members =>
    let vs := memberViews members
    ⟨none, ofMembers? vs, (allSpecs? vs).map Json.sortMembers⟩
  | .null | .bool _ => ⟨none, none, none⟩

def itemViews : List Json → List Views
  | [] => []
  | j :: items => views j :: itemViews items

def memberViews : List (String × Json) → List (String × Views)
  | [] => []
  | (name, j) :: members => (name, views j) :: memberViews members

end

def ofJson? (j : Json) : Option TypeSpec := (views j).spec?

def shapeNamed? (name : String) : Option Shape :=
  match String.ofList (name.toList.map Char.toLower) with
  | "bool" | "boolean" => some .bool
  | "string" => some .string
  | "number" => some .number
  | "any" | "unknown" => some .unknown
  | "record" => some (.record [])
  | _ => none

mutual

def shape (key : String) : TypeSpec → Except SchemaError Shape
  | .named name =>
    match shapeNamed? name with
    | some s => .ok s
    | none => .error (.unknownType key name)
  | .bool => .ok .bool
  | .string => .ok .string
  | .number => .ok .number
  | .any => .ok .unknown
  | .record fields => (shapes key fields).map .record
  | .list element => (element.shape key).map .list

def shapes (key : String) : List (String × TypeSpec) → Except SchemaError (List (String × Shape))
  | [] => .ok []
  | (name, spec) :: fields => do
    let s ← spec.shape key
    let rest ← shapes key fields
    return (name, s) :: rest

end

end TypeSpec

structure KeySpec where
  type : TypeSpec
  requires : List String
  isOptional : Bool

namespace KeySpec

def names? (j : Json) : Option (List String) :=
  match j with
  | .array items => items.mapM fun
    | .string s => some s
    | _ => none
  | _ => none

def flag? (j : Json) : Option Bool :=
  match j with
  | .bool b => some b
  | _ => none

def member? {α : Type} (read? : Json → Option α) (default? : Option α) (name : String)
    (members : List (String × Json)) : Option α :=
  match members.filter fun m => m.1 == name with
  | [] => default?
  | [m] => read? m.2
  | _ => none

def isMemberName (name : String) : Bool := ["type", "requires", "optional"].contains name

def ofJson? (j : Json) : Option KeySpec :=
  match j with
  | .object members => do
    if !members.all fun m => isMemberName m.1 then none
    let type ← member? TypeSpec.ofJson? none "type" members
    let requires ← member? names? (some []) "requires" members
    let isOptional ← member? flag? (some false) "optional" members
    return ⟨type, requires, isOptional⟩
  | .array [type] => return ⟨← TypeSpec.ofJson? type, [], false⟩
  | .array [type, requires] => return ⟨← TypeSpec.ofJson? type, ← names? requires, false⟩
  | .array [type, requires, flag] =>
    return ⟨← TypeSpec.ofJson? type, ← names? requires, ← flag? flag⟩
  | _ => none

end KeySpec

structure SchemaKey where
  name : String
  requires : List String
  isOptional : Bool
deriving DecidableEq, Repr

structure Schema where
  keys : List SchemaKey
  fields : List (String × Shape)

namespace Schema

def root (s : Schema) : Shape := .record s.fields

def specs? (text : String) : Option (List (String × KeySpec)) :=
  match Json.read? text with
  | some (.object members) =>
    (members.mapM fun m => (KeySpec.ofJson? m.2).map fun k => (m.1, k)).map Json.sortMembers
  | _ => none

def shapes : List (String × KeySpec) → Except SchemaError (List (String × Shape))
  | [] => .ok []
  | k :: rest => do
    let s ← k.2.type.shape k.1
    let ss ← shapes rest
    return (k.1, s) :: ss

def hasKey (keys : List SchemaKey) (name : String) : Bool :=
  keys.any fun k => Text.sameName k.name name

def missingRequirement? (keys : List SchemaKey) : Option (SchemaKey × String) :=
  keys.findSome? fun k =>
    (k.requires.find? fun required => !hasKey keys required).map (k, ·)

def read (text : String) : Except SchemaError Schema :=
  match specs? text with
  | none => .error .malformed
  | some specs => do
    let fields ← shapes specs
    let keys := specs.map fun k => (⟨k.1, k.2.requires, k.2.isOptional⟩ : SchemaKey)
    match missingRequirement? keys with
    | some (k, required) => .error (.unknownRequirement k.name required)
    | none => return ⟨keys, fields⟩

def key? (s : Schema) (name : String) : Option SchemaKey :=
  s.keys.find? fun k => Text.sameName k.name name

def SchemaKey.needs (k : SchemaKey) (blocked : List String) : Bool :=
  k.requires.any fun required => blocked.any fun b => Text.sameName b required

def block (blocked : List String) (k : SchemaKey) : List String :=
  if blocked.contains k.name then blocked
  else if SchemaKey.needs k blocked then k.name :: blocked
  else blocked

-- Goes through the keys once. A key that has been added counts for those behind it.
def pass (keys : List SchemaKey) (blocked : List String) : List String := keys.foldl block blocked

def unblocked (keys : List SchemaKey) (blocked : List String) : List SchemaKey :=
  keys.filter fun k => !blocked.contains k.name

theorem length_unblocked_cons_lt {keys : List SchemaKey} {blocked : List String} {k : SchemaKey}
    (hk : k ∈ keys) (hb : blocked.contains k.name = false) :
    (unblocked keys (k.name :: blocked)).length < (unblocked keys blocked).length := by
  have hfilter : unblocked keys (k.name :: blocked) =
      (unblocked keys blocked).filter fun j => j.name != k.name := by
    rw [unblocked, unblocked, List.filter_filter]
    refine List.filter_congr fun j _ => ?_
    rw [List.contains_cons, Bool.not_or]
    rfl
  rw [hfilter, List.length_filter_lt_length_iff_exists]
  exact ⟨k, List.mem_filter.mpr ⟨hk, by rw [hb]; rfl⟩, by simp⟩

theorem block_eq_or_lt {keys : List SchemaKey} {k : SchemaKey} (hk : k ∈ keys) (blocked : List String) :
    block blocked k = blocked ∨
      (unblocked keys (block blocked k)).length < (unblocked keys blocked).length := by
  unfold block
  split
  · exact .inl rfl
  · next hb =>
    split
    · exact .inr (length_unblocked_cons_lt hk (Bool.eq_false_iff.mpr hb))
    · exact .inl rfl

theorem pass_eq_or_lt {keys ks : List SchemaKey} (hks : ks ⊆ keys) (blocked : List String) :
    pass ks blocked = blocked ∨
      (unblocked keys (pass ks blocked)).length < (unblocked keys blocked).length := by
  induction ks generalizing blocked with
  | nil => exact .inl rfl
  | cons k ks ih =>
    obtain ⟨hk, hks⟩ := List.cons_subset.mp hks
    have hfirst := block_eq_or_lt hk blocked
    have hrest := ih hks (block blocked k)
    change pass ks (block blocked k) = blocked ∨
      (unblocked keys (pass ks (block blocked k))).length < (unblocked keys blocked).length
    rcases hfirst with hfirst | hfirst
    · rwa [hfirst] at hrest ⊢
    · rcases hrest with hrest | hrest
      · rw [hrest]
        exact .inr hfirst
      · exact .inr (Nat.lt_trans hrest hfirst)

-- Semireducible, so that the names blocked in a given schema can be computed.
@[semireducible]
def closure (keys : List SchemaKey) (blocked : List String) : List String :=
  if (pass keys blocked).length = blocked.length then blocked
  else closure keys (pass keys blocked)
termination_by (unblocked keys blocked).length
decreasing_by
  next h =>
    have hpass := pass_eq_or_lt (List.Subset.refl keys) blocked
    exact hpass.resolve_left fun heq => h (congrArg List.length heq)

def blockedFor (s : Schema) (target : String) : Except SchemaError (List String) :=
  match s.key? target with
  | some k => .ok (sortNames (closure s.keys [k.name]))
  | none => .error (.unknownTarget target)

end Schema
end PathQuery
