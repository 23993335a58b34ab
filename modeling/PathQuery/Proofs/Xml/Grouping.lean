import PathQuery.Proofs.Value.Named
import PathQuery.Xml.Element

namespace PathQuery.Xml

def valuesNamed (parts : List (String × Value)) (name : String) : List Value :=
  (parts.filter fun p => p.1 == name).map (·.2)

def namesOf (parts : List (String × Value)) : List String := (parts.map (·.1)).eraseDups

def gathered (parts : List (String × Value)) : Fields :=
  (namesOf parts).map fun name => (name, Grouping.merged (valuesNamed parts name))

namespace Grouping

variable (g : Grouping) (parts : List (String × Value))

theorem valuesOf_add (name name' : String) (v : Value) : (g.add name v).valuesOf name' =
    g.valuesOf name' ++ if name == name' then [v] else [] := by
  rw [valuesOf, add, lookup_setNamed]
  by_cases h : name' = name
  · obtain rfl := h
    simp
  · have h' : (name == name') = false := beq_eq_false_iff_ne.mpr (Ne.symm h)
    simp [h, h', valuesOf]

theorem contains_add (name name' : String) (v : Value) :
    (g.add name v).contains name' = (name' == name || g.contains name') := by
  rw [contains, add, lookup_setNamed]
  by_cases h : name' = name
  · simp [h]
  · simp [h, contains]

theorem addAll_cons (p : String × Value) :
    g.addAll (p :: parts) = (g.add p.1 p.2).addAll parts := rfl

theorem valuesOf_addAll (name : String) :
    (g.addAll parts).valuesOf name = g.valuesOf name ++ valuesNamed parts name := by
  induction parts generalizing g with
  | nil => simp [addAll, valuesNamed]
  | cons p parts ih =>
    rw [addAll_cons, ih, valuesOf_add, List.append_assoc, valuesNamed, valuesNamed,
      List.filter_cons]
    cases p.1 == name <;> simp

theorem order_addAll : (g.addAll parts).order =
    g.order ++ ((parts.map (·.1)).filter fun name => !g.contains name).eraseDups := by
  induction parts generalizing g with
  | nil => simp [addAll]
  | cons p parts ih =>
    rw [addAll_cons, ih, List.map_cons, List.filter_cons]
    simp only [contains_add]
    cases hp : g.contains p.1 with
    | true =>
      -- The name stands already, so keeping other names only is no more than before.
      have hfilter : ∀ name, (!(name == p.1 || g.contains name)) = !g.contains name := by
        intro name
        by_cases h : name = p.1
        · simp [h, hp]
        · simp [h]
      simp [add, hp, hfilter]
    | false =>
      have hfilter : ∀ name, (!(name == p.1 || g.contains name)) =
          (!name == p.1 && !g.contains name) := fun name => Bool.not_or _ _
      simp only [add, hp, Bool.not_false, if_true, List.eraseDups_cons, List.filter_filter, hfilter]
      simp

theorem ofParts_order : (ofParts parts).order = namesOf parts := by
  have hall : (parts.map (·.1)).filter (fun name => !contains ⟨[], []⟩ name) = parts.map (·.1) :=
    List.filter_eq_self.mpr fun _ _ => rfl
  rw [ofParts, order_addAll, hall, List.nil_append, namesOf]

theorem ofParts_valuesOf (name : String) : (ofParts parts).valuesOf name = valuesNamed parts name := by
  rw [ofParts, valuesOf_addAll]
  rfl

theorem foldl_insert {order : List String} {f : String → Value} {fields : Fields}
    (h : order.Nodup) (hnew : ∀ name ∈ order, name ∉ fields.map (·.1)) :
    order.foldl (fun fields name => Fields.insert fields name (f name)) fields =
      fields ++ order.map fun name => (name, f name) := by
  induction order generalizing fields with
  | nil => simp
  | cons name order ih =>
    obtain ⟨hname, h⟩ := List.nodup_cons.mp h
    obtain ⟨hfirst, hnew⟩ := List.forall_mem_cons.mp hnew
    have hrest : ∀ other ∈ order, other ∉ (fields ++ [(name, f name)]).map (·.1) := by
      intro other ho
      rw [List.map_append, List.mem_append, not_or]
      refine ⟨hnew other ho, fun hmem => hname ?_⟩
      obtain rfl := List.mem_singleton.mp hmem
      exact ho
    rw [List.foldl_cons, Fields.insert, setNamed_of_not_mem hfirst, ih h hrest, List.map_cons,
      List.append_assoc, List.singleton_append]

theorem fields_ofParts : (ofParts parts).fields = gathered parts := by
  have hn : (namesOf parts).Nodup := nodup_eraseDups _
  rw [fields, ofParts_order]
  simp only [ofParts_valuesOf]
  exact foldl_insert hn (by simp)

end Grouping

end PathQuery.Xml
