namespace PathQuery

variable {α ε : Type}

structure CacheEntry (α : Type) where
  key : String
  value : α
  lastUse : UInt64

structure Cache (α : Type) where
  capacity : Nat
  entries : List (CacheEntry α)
  clock : UInt64

namespace Cache

def ofCapacity (capacity : Nat) : Cache α := ⟨capacity, [], 0⟩

def size (c : Cache α) : Nat := c.entries.length

def isEmpty (c : Cache α) : Bool := c.entries.isEmpty

def find? (c : Cache α) (key : String) : Option (CacheEntry α) :=
  c.entries.find? fun e => e.key == key

def without (entries : List (CacheEntry α)) (key : String) : List (CacheEntry α) :=
  entries.filter fun e => e.key != key

def older (a b : CacheEntry α) : CacheEntry α := if b.lastUse < a.lastUse then b else a

def oldest? : List (CacheEntry α) → Option (CacheEntry α)
  | [] => none
  | e :: entries => some (entries.foldl older e)

def dropOldest (entries : List (CacheEntry α)) : List (CacheEntry α) :=
  match oldest? entries with
  | some e => without entries e.key
  | none => []

def use (c : Cache α) (key : String) (value : α) : Cache α :=
  ⟨c.capacity, ⟨key, value, c.clock + 1⟩ :: without c.entries key, c.clock + 1⟩

def get (c : Cache α) (key : String) : Option α × Cache α :=
  match c.find? key with
  | some e => (some e.value, c.use key e.value)
  | none => (none, { c with clock := c.clock + 1 })

-- A cache without capacity holds nothing. A full one makes place for a new key only.
def insert (c : Cache α) (key : String) (value : α) : Cache α :=
  if c.capacity = 0 then c
  else if (c.find? key).isNone && c.capacity ≤ c.size then
    { c with entries := dropOldest c.entries }.use key value
  else c.use key value

def getOrBuild (c : Cache α) (key : String) (build : Unit → Except ε α) :
    Except ε α × Cache α :=
  match c.get key with
  | (some value, c) => (.ok value, c)
  | (none, c) =>
    match build () with
    | .ok value => (.ok value, c.insert key value)
    | .error e => (.error e, c)

def clear (c : Cache α) : Cache α := { c with entries := [] }

end Cache
end PathQuery
