import PathQuery.Json.Basic

namespace PathQuery.Json

inductive Contains : Json → Json → Prop where
  | self (j : Json) : Contains j j
  | item {items : List Json} {i k : Json} (mem : i ∈ items) (inner : Contains i k) :
      Contains (.array items) k
  | member {members : List (String × Json)} {m : String × Json} {k : Json} (mem : m ∈ members)
      (inner : Contains m.2 k) : Contains (.object members) k

def isBlank : Json → Bool
  | .null | .bool false | .array [] | .object [] => true
  | _ => false

def kept (name : String) (j : Json) : List (String × Json) :=
  if j.isBlank then [] else [(name, j)]

mutual

def withoutBlanks : Json → Json
  | .array items => .array (itemsWithoutBlanks items)
  | .object members => .object (membersWithoutBlanks members)
  | j => j

def itemsWithoutBlanks : List Json → List Json
  | [] => []
  | j :: items => j.withoutBlanks :: itemsWithoutBlanks items

def membersWithoutBlanks : List (String × Json) → List (String × Json)
  | [] => []
  | (name, j) :: members => kept name j.withoutBlanks ++ membersWithoutBlanks members

end

def member? (name : String) : Json → Option Json
  | .object members => members.lookup name
  | _ => none

def orNull (j? : Option Json) : Json := j?.getD .null

def IsTidy (j : Json) : Prop := ∀ k, j.Contains k → k.isBlank = false

theorem isBlank_eq_false_iff {j : Json} : j.isBlank = false ↔
    j ≠ .null ∧ j ≠ .bool false ∧ j ≠ .array [] ∧ j ≠ .object [] := by
  cases j with
  | null => simp [isBlank]
  | bool b => cases b <;> simp [isBlank]
  | number => simp [isBlank]
  | string => simp [isBlank]
  | array items => cases items <;> simp [isBlank]
  | object members => cases members <;> simp [isBlank]

theorem Contains.trans {j k l : Json} (h : j.Contains k) (h' : k.Contains l) : j.Contains l := by
  induction h with
  | self => exact h'
  | item mem _ ih => exact .item mem (ih h')
  | member mem _ ih => exact .member mem (ih h')

theorem isTidy_string (s : String) : (Json.string s).IsTidy := by
  intro k hk
  cases hk
  rfl

theorem isTidy_true : (Json.bool true).IsTidy := by
  intro k hk
  cases hk
  rfl

theorem isTidy_array {items : List Json} (hblank : (array items).isBlank = false)
    (h : ∀ i ∈ items, i.IsTidy) : (array items).IsTidy := by
  intro k hk
  cases hk with
  | self => exact hblank
  | item mem inner => exact h _ mem k inner

theorem isTidy_object {members : List (String × Json)} (hblank : (object members).isBlank = false)
    (h : ∀ m ∈ members, m.2.IsTidy) : (object members).IsTidy := by
  intro k hk
  cases hk with
  | self => exact hblank
  | member mem inner => exact h _ mem k inner

theorem isTidy_of_mem_kept {name : String} {j : Json} (h : j.isBlank = false → j.IsTidy) :
    ∀ m ∈ kept name j, m.2.IsTidy := by
  intro m hm
  rw [kept] at hm
  split at hm
  · cases hm
  · next hblank =>
    rw [List.mem_singleton.mp hm]
    exact h (Bool.eq_false_iff.mpr hblank)

theorem lookup_kept_of_ne {name other : String} (h : (name == other) = false) (j : Json)
    (members : List (String × Json)) :
    (kept other j ++ members).lookup name = members.lookup name := by
  rw [kept]
  split
  · rfl
  · rw [List.singleton_append, List.lookup_cons, h]

theorem lookup_kept_eq_none {name : String} {j : Json} {members : List (String × Json)}
    (h : members.lookup name = none) :
    (kept name j ++ members).lookup name = none ↔ j.isBlank = true := by
  rw [kept]
  split
  · next hblank => exact iff_of_true h hblank
  · next hblank =>
    rw [List.singleton_append, List.lookup_cons_self]
    exact iff_of_false nofun hblank

theorem withoutBlanks_object (members : List (String × Json)) :
    (Json.object members).withoutBlanks = .object (membersWithoutBlanks members) := rfl

theorem withoutBlanks_orNull {α : Type} {whole short : α → Json}
    (h : ∀ a, (whole a).withoutBlanks = short a) (a? : Option α) :
    (orNull (a?.map whole)).withoutBlanks = orNull (a?.map short) := by
  cases a? with
  | none => rfl
  | some a => exact h a

theorem isTidy_orNull {α : Type} {f : α → Json} {a? : Option α}
    (h : ∀ a, (f a).isBlank = false → (f a).IsTidy)
    (hblank : (orNull (a?.map f)).isBlank = false) : (orNull (a?.map f)).IsTidy := by
  cases a? with
  | none => cases hblank
  | some a => exact h a hblank

theorem itemsWithoutBlanks_strings (ss : List String) :
    itemsWithoutBlanks (ss.map .string) = ss.map .string := by
  induction ss with
  | nil => rfl
  | cons s ss ih => exact congrArg (Json.string s :: ·) ih

theorem withoutBlanks_strings (ss : List String) : (strings ss).withoutBlanks = strings ss :=
  congrArg Json.array (itemsWithoutBlanks_strings ss)

end PathQuery.Json
