import PathQuery.Proofs.Value.Named
import PathQuery.Schema.Shape

namespace PathQuery

namespace Shape

mutual

def everywhere (p : Shape → Bool) : Shape → Bool
  | .record fields => p (.record fields) && everyField p fields
  | .list element => p (.list element) && element.everywhere p
  | s => p s

def everyField (p : Shape → Bool) : List (String × Shape) → Bool
  | [] => true
  | (_, s) :: fields => s.everywhere p && everyField p fields

end

def isKnown : Shape → Bool
  | .unknown => false
  | _ => true

def isFlat : Shape → Bool
  | .list element => !element.isList
  | _ => true

variable {p : Shape → Bool} {s t : Shape} {name : String}

theorem isList_innermost (s : Shape) : s.innermost.isList = false := by
  induction s using Shape.innermost.induct with
  | case1 element ih => exact ih
  | case2 s hs => cases s with
    | list element => exact absurd rfl (hs element)
    | _ => rfl

theorem innermost_of_not_list (h : s.isList = false) : s.innermost = s := by
  cases s with
  | list element => cases h
  | _ => rfl

theorem dataType_innermost (s : Shape) : s.innermost.type.dataType = s.type.dataType := by
  induction s using Shape.innermost.induct with
  | case1 element ih => exact ih
  | case2 s hs =>
    rw [Shape.innermost]
    exact hs

theorem everyField_mem {fields : List (String × Shape)} (h : everyField p fields = true) :
    ∀ e ∈ fields, e.2.everywhere p = true := by
  induction fields with
  | nil => exact nofun
  | cons e fields ih =>
    simp only [everyField, Bool.and_eq_true] at h
    intro e' he
    rcases List.mem_cons.mp he with rfl | he
    · exact h.1
    · exact ih h.2 e' he

theorem everywhere_self (h : s.everywhere p = true) : p s = true := by
  cases s with
  | record fields =>
    simp only [everywhere, Bool.and_eq_true] at h
    exact h.1
  | list element =>
    simp only [everywhere, Bool.and_eq_true] at h
    exact h.1
  | _ => exact h

theorem everywhere_element {element : Shape} (h : (list element).everywhere p = true) :
    element.everywhere p = true := by
  simp only [everywhere, Bool.and_eq_true] at h
  exact h.2

theorem everywhere_innermost (h : s.everywhere p = true) : s.innermost.everywhere p = true := by
  induction s using Shape.innermost.induct with
  | case1 element ih => exact ih (everywhere_element h)
  | case2 s hs =>
    rw [Shape.innermost]
    · exact h
    · exact hs

theorem everywhere_field (h : s.everywhere p = true) (hf : s.field? name = some t) :
    t.everywhere p = true := by
  obtain ⟨e, he, rfl⟩ := exists_mem_of_named? hf
  cases s with
  | record fields =>
    simp only [everywhere, Bool.and_eq_true] at h
    exact everyField_mem h.2 e he
  | _ => exact absurd he List.not_mem_nil

theorem dataType_of_known (h : s.everywhere isKnown = true) : s.type.dataType ≠ .unknown := by
  have hknown := everywhere_self (everywhere_innermost h)
  have hinner := isList_innermost s
  rw [← dataType_innermost]
  cases hs : s.innermost with
  | unknown =>
    rw [hs] at hknown
    cases hknown
  | list element =>
    rw [hs] at hinner
    cases hinner
  | _ => exact nofun

theorem dataType_of_field (h : s.innermost.field? name = some t) : s.type.dataType = .record := by
  rw [← dataType_innermost]
  cases hs : s.innermost with
  | record fields => rfl
  | _ =>
    rw [hs] at h
    cases h

end Shape

end PathQuery
