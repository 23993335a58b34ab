import Mathlib.Data.Finset.Card
import PathQuery.Proofs.Value.Named

namespace PathQuery

section Names

variable {α : Type} {name : String} {a : α} {entries : List (String × α)}

theorem names_setNamed_of_mem (h : name ∈ entries.map (·.1)) :
    (setNamed entries name a).map (·.1) = entries.map (·.1) := by
  induction entries with
  | nil => cases h
  | cons e entries ih =>
    by_cases he : e.1 = name
    · simp [setNamed, he]
    · have hrest := (List.mem_cons.mp h).resolve_left (Ne.symm he)
      simp [setNamed, he, ih hrest]

theorem names_setNamed (entries : List (String × α)) (name : String) (a : α) :
    (setNamed entries name a).map (·.1) =
      if name ∈ entries.map (·.1) then entries.map (·.1) else entries.map (·.1) ++ [name] := by
  by_cases h : name ∈ entries.map (·.1)
  · rw [if_pos h, names_setNamed_of_mem h]
  · rw [if_neg h, setNamed_of_not_mem h, List.map_append]
    rfl

theorem eraseDups_concat (names : List String) (name : String) :
    (names ++ [name]).eraseDups =
      if name ∈ names then names.eraseDups else names.eraseDups ++ [name] := by
  rw [List.eraseDups_append]
  by_cases h : name ∈ names
  · simp [List.removeAll, h]
  · simp [List.removeAll, h, List.eraseDups_cons]

theorem find?_eraseDups (p : String → Bool) (names : List String) :
    names.eraseDups.find? p = names.find? p := by
  induction names using List.reverseRecOn with
  | nil => rfl
  | append_singleton names name ih =>
    rw [eraseDups_concat, List.find?_append, ← ih]
    split
    · next h =>
      -- A name that stands already is found before, if it is found at all.
      cases hp : p name with
      | false => simp [hp]
      | true =>
        obtain ⟨first, hfirst⟩ := exists_find?_of_mem (List.mem_eraseDups.mpr h) hp
        rw [hfirst, Option.some_or]
    · rw [List.find?_append]

theorem lookup_eq_map_find? (entries : List (String × α)) (name : String) :
    entries.lookup name = (entries.find? fun e => e.1 == name).map (·.2) := by
  induction entries with
  | nil => rfl
  | cons e entries ih =>
    obtain ⟨k, b⟩ := e
    by_cases h : k = name
    · simp [h]
    · rw [lookup_cons_of_ne (Ne.symm h), ih, List.find?_cons_of_neg (by simpa using h)]

theorem map_find?_eq_bind (p : String → Bool) (entries : List (String × α)) :
    (entries.find? fun e => p e.1).map (·.2) =
      ((entries.map (·.1)).find? p).bind fun name => entries.lookup name := by
  induction entries with
  | nil => rfl
  | cons e entries ih =>
    obtain ⟨k, b⟩ := e
    rw [List.map_cons]
    cases hk : p k with
    | true => simp [hk]
    | false =>
      rw [List.find?_cons_of_neg (by simp [hk]), List.find?_cons_of_neg (by simp [hk]), ih]
      refine Option.bind_congr fun name hname => ?_
      have hne : name ≠ k := by
        rintro rfl
        exact absurd (List.find?_some hname) (by simp [hk])
      exact (lookup_cons_of_ne hne).symm

def IsLast (entries : List (String × α)) (name : String) (a : α) : Prop :=
  ∃ before after, entries = before ++ (name, a) :: after ∧ name ∉ after.map (·.1)

theorem lookup_reverse_eq_some_iff :
    entries.reverse.lookup name = some a ↔ IsLast entries name a := by
  rw [List.lookup_eq_some_iff]
  constructor
  · rintro ⟨after, before, h, hafter⟩
    refine ⟨before.reverse, after.reverse, ?_, ?_⟩
    · rw [← List.reverse_reverse entries, h]
      simp
    · intro hmem
      obtain ⟨e, he, rfl⟩ := List.mem_map.mp hmem
      exact absurd (hafter e (List.mem_reverse.mp he)) (by simp)
  · rintro ⟨before, after, rfl, hafter⟩
    refine ⟨after.reverse, before.reverse, by simp, ?_⟩
    intro e he
    rw [bne_iff_ne]
    rintro rfl
    exact hafter (List.mem_map_of_mem (List.mem_reverse.mp he))

theorem lookup_reverse_eq_none_iff :
    entries.reverse.lookup name = none ↔ name ∉ entries.map (·.1) := by
  rw [List.lookup_eq_none_iff]
  constructor
  · intro h hmem
    obtain ⟨e, he, rfl⟩ := List.mem_map.mp hmem
    exact absurd (h e (List.mem_reverse.mpr he)) (by simp)
  · intro h e he
    rw [bne_iff_ne]
    rintro rfl
    exact h (List.mem_map_of_mem (List.mem_reverse.mp he))

end Names

namespace Fields

variable {calls : List (String × Value)} {name : String} {v : Value}

theorem ofList_concat (calls : List (String × Value)) (c : String × Value) :
    ofList (calls ++ [c]) = insert (ofList calls) c.1 c.2 :=
  List.foldl_concat _ _ _ _

theorem names_ofList (calls : List (String × Value)) :
    (ofList calls).names = (calls.map (·.1)).eraseDups := by
  induction calls using List.reverseRecOn with
  | nil => rfl
  | append_singleton calls c ih =>
    have hmem : c.1 ∈ (ofList calls).names ↔ c.1 ∈ calls.map (·.1) := by
      rw [ih, List.mem_eraseDups]
    have hnames : (ofList calls).map (·.1) = (ofList calls).names := rfl
    rw [ofList_concat, names, insert, names_setNamed, hnames, List.map_append, List.map_singleton,
      eraseDups_concat, ← ih]
    simp only [hmem]

theorem length_ofList (calls : List (String × Value)) :
    (ofList calls).length = (calls.map (·.1)).toFinset.card := by
  have hset : (calls.map (·.1)).eraseDups.toFinset = (calls.map (·.1)).toFinset := by
    ext name
    rw [List.mem_toFinset, List.mem_toFinset, List.mem_eraseDups]
  rw [← hset, List.toFinset_card_of_nodup (nodup_eraseDups _), ← names_ofList]
  exact (List.length_map Prod.fst).symm

theorem lookup_ofList (calls : List (String × Value)) (name : String) :
    List.lookup name (ofList calls) = calls.reverse.lookup name := by
  induction calls using List.reverseRecOn with
  | nil => rfl
  | append_singleton calls c ih =>
    obtain ⟨name', v⟩ := c
    rw [ofList_concat, insert, lookup_setNamed, ih, List.reverse_concat]
    by_cases h : name = name'
    · simp [h]
    · rw [if_neg h, lookup_cons_of_ne h]

theorem lookup?_ofList_eq_some_iff :
    (ofList calls).lookup? name = some v ↔ IsLast calls name v ∨ name ∉ calls.map (·.1) ∧
      ∃ first, (calls.map (·.1)).find? (Text.sameName · name) = some first ∧ IsLast calls first v := by
  have hnames : (ofList calls).map (·.1) = (calls.map (·.1)).eraseDups := names_ofList calls
  rw [lookup?, named?_eq_or, ← lookup_eq_map_find?, map_find?_eq_bind (Text.sameName · name), hnames,
    find?_eraseDups, Option.or_eq_some_iff, Option.bind_eq_some_iff, lookup_ofList,
    lookup_reverse_eq_none_iff, lookup_reverse_eq_some_iff]
  simp only [lookup_ofList, lookup_reverse_eq_some_iff]

end Fields

end PathQuery
