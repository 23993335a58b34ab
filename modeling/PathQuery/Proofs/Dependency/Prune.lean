import PathQuery.Dependency
import PathQuery.Proofs.Value.Named

namespace PathQuery

variable {α : Type}

def positions (entries : List (String × α)) : List (String × Nat) :=
  entries.zipIdx.map fun e => (e.1.1, e.2)

-- The rest of each chain whose first name finds the entry at a place.
def tailsAt (chains : List Chain) (entries : List (String × α)) (i : Nat) : List Chain :=
  chains.filterMap fun
    | [] => none
    | name :: rest => if named? (positions entries) name = some i then some rest else none

mutual

def Value.prune (chains : List Chain) : Value → Value
  | .record fields => .record (pruneFields (tailsAt chains fields) 0 fields)
  | .map entries => .map (pruneEntries (tailsAt chains (Entries.texts entries)) 0 entries)
  | .sequence items => .sequence (pruneItems chains items)
  | v => v

def pruneFields (tails : Nat → List Chain) (i : Nat) : List (String × Value) → List (String × Value)
  | [] => []
  | (name, v) :: fields =>
    if (tails i).isEmpty then pruneFields tails (i + 1) fields
    else (name, if (tails i).contains [] then v else v.prune (tails i)) ::
      pruneFields tails (i + 1) fields

def pruneEntries (tails : Nat → List Chain) (i : Nat) : List (Key × Value) → List (Key × Value)
  | [] => []
  | (key, v) :: entries =>
    if (tails i).isEmpty then pruneEntries tails (i + 1) entries
    else (key, if (tails i).contains [] then v else v.prune (tails i)) ::
      pruneEntries tails (i + 1) entries

def pruneItems (chains : List Chain) : List Value → List Value
  | [] => []
  | v :: items => v.prune chains :: pruneItems chains items

end

def placed (i : Nat) (entries : List (String × α)) : List (String × α × Nat) :=
  (entries.zipIdx i).map fun e => (e.1.1, e.1.2, e.2)

theorem positions_eq (entries : List (String × α)) :
    positions entries = (placed 0 entries).map fun e => (e.1, e.2.2) := by
  simp [positions, placed, Function.comp_def]

theorem map_placed (i : Nat) (entries : List (String × α)) :
    (placed i entries).map (fun e => (e.1, e.2.1)) = entries := by
  simp [placed, Function.comp_def]

-- What pruning makes of the value at a place.
def prunedAt? (tails : Nat → List Chain) (e : Value × Nat) : Option Value :=
  if (tails e.2).isEmpty then none
  else some (if (tails e.2).contains [] then e.1 else e.1.prune (tails e.2))

theorem pruneFields_eq (tails : Nat → List Chain) (i : Nat) (fields : List (String × Value)) :
    pruneFields tails i fields = keepNamed (prunedAt? tails) (placed i fields) := by
  induction fields generalizing i with
  | nil => rfl
  | cons e fields ih =>
    obtain ⟨name, v⟩ := e
    simp only [pruneFields, ih, placed, keepNamed, List.zipIdx_cons, List.map_cons,
      List.filterMap_cons, prunedAt?]
    split <;> rfl

theorem texts_pruneEntries (tails : Nat → List Chain) (i : Nat) (entries : Entries) :
    Entries.texts (pruneEntries tails i entries) =
      keepNamed (prunedAt? tails) (placed i (Entries.texts entries)) := by
  induction entries generalizing i with
  | nil => rfl
  | cons e entries ih =>
    obtain ⟨key, v⟩ := e
    have ih := ih (i + 1)
    simp only [Entries.texts] at ih
    simp only [Entries.texts, pruneEntries, placed, keepNamed, List.map_cons, List.zipIdx_cons,
      List.filterMap_cons, prunedAt?]
    split
    · exact ih
    · exact congrArg _ ih

theorem mem_tailsAt {chains : List Chain} {entries : List (String × α)} {name : String}
    {rest : Chain} {i : Nat} (hc : name :: rest ∈ chains)
    (h : named? (positions entries) name = some i) : rest ∈ tailsAt chains entries i := by
  rw [tailsAt, List.mem_filterMap]
  exact ⟨name :: rest, hc, if_pos h⟩

theorem named?_pruned {fields : List (String × Value)} {chains : List Chain} {name : String}
    {rest : Chain} {v : Value} (hc : name :: rest ∈ chains) (h : named? fields name = some v) :
    ∃ tails, rest ∈ tails ∧
      named? (keepNamed (prunedAt? (tailsAt chains fields)) (placed 0 fields)) name =
        some (if tails.contains [] then v else v.prune tails) := by
  have hv := h
  rw [← map_placed 0 fields, named?_map, Option.map_eq_some_iff] at hv
  obtain ⟨⟨w, i⟩, hp, rfl⟩ := hv
  have hi : named? (positions fields) name = some i := by rw [positions_eq, named?_map, hp]; rfl
  have hr := mem_tailsAt hc hi
  refine ⟨tailsAt chains fields i, hr, named?_keepNamed hp ?_⟩
  have hne : (tailsAt chains fields i).isEmpty = false :=
    List.isEmpty_eq_false_iff.mpr (List.ne_nil_of_mem hr)
  simp [prunedAt?, hne]

theorem named?_pruned_none {fields : List (String × Value)} {name : String}
    (tails : Nat → List Chain) (h : named? fields name = none) :
    named? (keepNamed (prunedAt? tails) (placed 0 fields)) name = none := by
  rw [← map_placed 0 fields, named?_map, Option.map_eq_none_iff] at h
  exact named?_keepNamed_none _ h

end PathQuery
