import PathQuery.Proofs.SortedList
import PathQuery.Proofs.Validation.Route

namespace PathQuery

namespace Standing

variable {t : Standing} {name : String}

theorem mem_fieldNames (h : name ∈ t.fieldNames) : t.type.dataType = .record ∧
    ∃ s, t.shape?.bind (·.field? name) = some s := by
  unfold fieldNames at h
  split at h
  · next shape hshape =>
    split at h
    · next hrecord =>
      obtain ⟨s, hs⟩ := named?_of_mem (mem_sortNames.mp h)
      exact ⟨hrecord, s, by rw [hshape, Option.bind_some, Shape.field?, hs]⟩
    · cases h
  · cases h

end Standing

def Path.extend (p : Path) (name : String) : Path := { p with segments := p.segments ++ [.field name] }

theorem Query.suggestions_validate_path {g : Ground} {p : Path} {t : Standing}
    (h : Segment.reach? g g.standing p.segments = some t) :
    ((Query.path p).validate g).note.suggestions? = some t.suggestions := by
  have hlast : (Segment.notes g g.standing false (p.origin.standing g g.standing false)
      p.segments).2 = some t := by
    rw [Segment.notes_snd, Origin.standing_document, h]
  obtain ⟨origin, inFilter, asPredicate, segments⟩ := p
  simp only [Query.validate, Query.note, Path.note, hlast]
  rfl

theorem Segment.complaints_field_of_record {g : Ground} {current t : Standing} {inFilter : Bool}
    {name : String} {s : Shape} (hrecord : t.type.dataType = .record)
    (hs : t.shape?.bind (·.field? name) = some s) :
    Note.allComplaints (Segment.notes g current inFilter t [.field name]).1 =
      if t.atRoot = true ∧ g.isBlocked name = true then [.notAvailable name]
      else if t.type.isList = true ∧ s.isList = true then [.secondList]
      else [] := by
  have hfield := Standing.field_of_record (g := g) hrecord hs
  simp only [Bool.and_eq_true] at hfield
  by_cases hblocked : t.atRoot = true ∧ g.isBlocked name = true
  · rw [if_pos hblocked] at hfield ⊢
    exact Segment.complaints_field_of_error hfield
  · rw [if_neg hblocked] at hfield ⊢
    by_cases hlists : t.type.isList = true ∧ s.isList = true
    · rw [if_pos hlists] at hfield ⊢
      exact Segment.complaints_field_of_error hfield
    · rw [if_neg hlists] at hfield ⊢
      exact Segment.complaints_field_of_ok hfield

theorem Segment.atRoot_iff {g : Ground} (hg : g.standing.type = .single .record)
    {segments : List Segment} {t : Standing} (h : Segment.reach? g g.standing segments = some t) :
    t.atRoot = true ↔ segments = [] := by
  constructor
  · intro hroot
    by_contra hne
    have hbehind := Segment.atRoot_reach (fun _ => ⟨hg, hne⟩) h
    rw [hbehind] at hroot
    cases hroot
  · rintro rfl
    obtain rfl := Option.some.inj h
    rfl

theorem Query.validate_suggested {schema : Schema} {target : String} {g : Ground}
    (hg : schema.ground target = .ok g) {p : Path}
    (hp : ((Query.path p).validate g).note.complaints = []) :
    ∃ t, Segment.reach? g g.standing p.segments = some t ∧
      ((Query.path p).validate g).note.suggestions? = some t.suggestions ∧
      ∀ name ∈ t.suggestions.fields, ∃ s, t.shape?.bind (·.field? name) = some s ∧
        ((Query.path (p.extend name)).validate g).note.complaints =
          if p.segments = [] ∧ g.isBlocked name = true then [.notAvailable name]
          else if t.type.isList = true ∧ s.isList = true then [.secondList]
          else [] := by
  rw [Query.complaints_validate_path] at hp
  obtain ⟨t, ht⟩ := Segment.reach?_of_complaints hp
  refine ⟨t, ht, Query.suggestions_validate_path ht, fun name hname => ?_⟩
  obtain ⟨hrecord, s, hs⟩ := Standing.mem_fieldNames hname
  have hroot := Segment.atRoot_iff (Schema.ground_type hg) ht
  refine ⟨s, hs, ?_⟩
  calc ((Query.path (p.extend name)).validate g).note.complaints
      = Note.allComplaints (Segment.notes g g.standing false t [.field name]).1 := by
        rw [Query.complaints_validate_path, Path.extend, Segment.complaints_notes_append ht, hp,
          List.nil_append]
    _ = _ := by
        rw [Segment.complaints_field_of_record hrecord hs]
        simp only [hroot]

theorem Query.validate_suggested_first :
    let schema : Schema := ⟨[⟨"out", [], false⟩, ⟨"rows", [], false⟩],
      [("out", .bool), ("rows", .list (.record [("cells", .list .number)]))]⟩
    let g : Ground := ⟨schema.root, ["out"]⟩
    let p : Path := ⟨.root, false, false, [.field "rows", .call (.known .first) []]⟩
    schema.ground "out" = .ok g ∧ ((Query.path p).validate g).note.complaints = [] ∧
      (∃ suggestions, ((Query.path p).validate g).note.suggestions? = some suggestions ∧
        "cells" ∈ suggestions.fields) ∧
      ((Query.path (p.extend "cells")).validate g).note.complaints = [] := by
  intro schema g p
  have hg : schema.ground "out" = .ok g := rfl
  have hp : ((Query.path p).validate g).note.complaints = [] := by decide +kernel
  obtain ⟨t, ht, hsuggestions, hall⟩ := Query.validate_suggested hg hp
  obtain rfl := Option.some.inj ht
  have hcells : "cells" ∈ ["cells"] := List.mem_singleton_self _
  obtain ⟨s, hs, hextend⟩ := hall "cells" hcells
  refine ⟨hg, hp, ⟨_, hsuggestions, hcells⟩, ?_⟩
  rw [hextend, if_neg (fun h => nomatch h.1), if_neg (fun h => nomatch h.1)]

theorem Query.validate_suggested_refused :
    let schema : Schema := ⟨[⟨"out", [], false⟩, ⟨"rows", [], false⟩],
      [("out", .bool), ("rows", .list (.record [("cells", .list .number)]))]⟩
    let g : Ground := ⟨schema.root, ["out"]⟩
    let document : Path := ⟨.root, false, false, []⟩
    let rows : Path := ⟨.root, false, false, [.field "rows"]⟩
    schema.ground "out" = .ok g ∧
      (((Query.path document).validate g).note.complaints = [] ∧
        ((Query.path document).validate g).note.suggestions?.map (·.fields) =
          some ["out", "rows"] ∧
        ((Query.path (document.extend "out")).validate g).note.complaints =
          [.notAvailable "out"]) ∧
      ((Query.path rows).validate g).note.complaints = [] ∧
      ((Query.path rows).validate g).note.suggestions?.map (·.fields) = some ["cells"] ∧
      ((Query.path (rows.extend "cells")).validate g).note.complaints = [.secondList] := by
  intro schema g document rows
  refine ⟨rfl, ⟨?_, ?_, ?_⟩, ?_, ?_, ?_⟩
  all_goals decide +kernel

end PathQuery
