namespace PathQuery

inductive Json where
  | null
  | bool (b : Bool)
  | number (text : String)
  | string (s : String)
  | array (items : List Json)
  | object (members : List (String × Json))
deriving Inhabited

namespace Json

variable {α : Type}

def insertMember (name : String) (value : α) : List (String × α) → List (String × α)
  | [] => [(name, value)]
  | m :: rest =>
    match compare name m.1 with
    | .lt => (name, value) :: m :: rest
    | .eq => m :: rest
    | .gt => m :: insertMember name value rest

def sortMembers (members : List (String × α)) : List (String × α) :=
  members.foldr (fun m acc => insertMember m.1 m.2 acc) []

mutual

def sorted : Json → Json
  | .array items => .array (sortedItems items)
  | .object members => .object (sortMembers (sortedMembers members))
  | j => j

def sortedItems : List Json → List Json
  | [] => []
  | j :: items => j.sorted :: sortedItems items

def sortedMembers : List (String × Json) → List (String × Json)
  | [] => []
  | (name, j) :: members => (name, j.sorted) :: sortedMembers members

end

def strings (ss : List String) : Json := .array (ss.map .string)

end Json
end PathQuery
