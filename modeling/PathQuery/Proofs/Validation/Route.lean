import PathQuery.Proofs.Validation.Mirror
import PathQuery.Proofs.Validation.Whole

namespace PathQuery

theorem Standing.field_of_record {g : Ground} {t : Standing} {name : String} {s : Shape}
    (hrecord : t.type.dataType = .record) (hs : t.shape?.bind (·.field? name) = some s) :
    t.field g name =
      if t.atRoot && g.isBlocked name then .error (.notAvailable name)
      else if t.type.isList && s.isList then .error .secondList
      else .ok (Standing.ofShape s t.type.isList) := by
  rw [Standing.field]
  simp only [hrecord, hs]

namespace Segment

def reach? (g : Ground) (s : Standing) : List Segment → Option Standing
  | [] => some s
  | segment :: segments => (segment.next? g s).bind fun t => reach? g t segments

variable {g : Ground} {current s t : Standing} {inFilter : Bool} {segment : Segment}
  {segments : List Segment} {name : String}

theorem notes_snd (current s : Standing) (inFilter : Bool) (segments : List Segment) :
    (Segment.notes g current inFilter s segments).2 = reach? g s segments := by
  induction segments generalizing s with
  | nil => rfl
  | cons segment segments ih =>
    rw [reach?]
    cases hnext : segment.next? g s with
    | none => rw [notes_breaks (next?_eq_none_iff.mp hnext), Option.bind_none]
    | some t => rw [notes_next hnext, ih, Option.bind_some]

theorem complaints_notes_next (h : segment.next? g s = some t) :
    Note.allComplaints (Segment.notes g current inFilter s (segment :: segments)).1 =
      (segment.note g current inFilter s).1.complaints ++
        Note.allComplaints (Segment.notes g current inFilter t segments).1 := by
  rw [notes_next h, Note.allComplaints, Note.complaints_leadingTo]

theorem complaints_notes_append (h : reach? g s segments = some t) (more : List Segment) :
    Note.allComplaints (Segment.notes g current inFilter s (segments ++ more)).1 =
      Note.allComplaints (Segment.notes g current inFilter s segments).1 ++
        Note.allComplaints (Segment.notes g current inFilter t more).1 := by
  induction segments generalizing s with
  | nil =>
    obtain rfl := Option.some.inj h
    rfl
  | cons segment segments ih =>
    obtain ⟨u, hnext, hrest⟩ := Option.bind_eq_some_iff.mp h
    rw [List.cons_append, complaints_notes_next hnext, complaints_notes_next hnext, ih hrest,
      List.append_assoc]

theorem reach?_of_complaints
    (h : Note.allComplaints (Segment.notes g current inFilter s segments).1 = []) :
    ∃ t, reach? g s segments = some t := by
  induction segments generalizing s with
  | nil => exact ⟨s, rfl⟩
  | cons segment segments ih =>
    have hfirst := Segment.complaints_notes_cons g current inFilter h
    cases hnext : segment.next? g s with
    | none =>
      have hbreaks : segment.Breaks g s := next?_eq_none_iff.mp hnext
      obtain ⟨c, hc, -⟩ : ∃ c, (segment.note g current inFilter s).1.complaint? = some c ∧ _ :=
        hbreaks.complaint
      rw [(Note.complaints_eq_nil.mp hfirst).1] at hc
      cases hc
    | some t =>
      rw [complaints_notes_next hnext] at h
      obtain ⟨u, hu⟩ := ih (List.append_eq_nil_iff.mp h).2
      exact ⟨u, by rw [reach?, hnext, Option.bind_some, hu]⟩

theorem next?_field_of_ok (h : s.field g name = .ok t) :
    (Segment.field name).next? g s = some t := by
  rw [next?, h]
  rfl

theorem complaints_field_of_ok (h : s.field g name = .ok t) :
    Note.allComplaints (Segment.notes g current inFilter s (.field name :: segments)).1 =
      Note.allComplaints (Segment.notes g current inFilter t segments).1 := by
  rw [complaints_notes_next (next?_field_of_ok h), Segment.note]
  simp only [h]
  rfl

theorem complaints_field_of_error {c : Complaint} (h : s.field g name = .error c) :
    Note.allComplaints (Segment.notes g current inFilter s [.field name]).1 = [c] := by
  have hbreaks : (Segment.field name).Breaks g s := ⟨c, h⟩
  rw [notes_breaks hbreaks, Segment.note]
  simp only [h]
  rfl

theorem complaints_field_cons :
    Note.allComplaints (Segment.notes g current inFilter s (.field name :: segments)).1 = [] ↔
      ∃ t, s.field g name = .ok t ∧
        Note.allComplaints (Segment.notes g current inFilter t segments).1 = [] := by
  constructor
  · intro h
    obtain ⟨t, hf, -⟩ :=
      Segment.note_field g current inFilter (Segment.complaints_notes_cons g current inFilter h)
    rw [complaints_field_of_ok hf] at h
    exact ⟨t, hf, h⟩
  · rintro ⟨t, hf, h⟩
    rw [complaints_field_of_ok hf]
    exact h

theorem atRoot_reach (hs : s.atRoot = true → s.type = .single .record ∧ segments ≠ [])
    (h : reach? g s segments = some t) : t.atRoot = false := by
  induction segments generalizing s with
  | nil =>
    obtain rfl := Option.some.inj h
    refine Bool.eq_false_iff.mpr fun hroot => ?_
    exact (hs hroot).2 rfl
  | cons segment segments ih =>
    obtain ⟨u, hnext, hrest⟩ := Option.bind_eq_some_iff.mp h
    have hnote : (segment.note g s false s).2 = some u := note_snd.trans hnext
    refine ih (fun hroot => ?_) hrest
    rcases Segment.note_next hnote with hu | ⟨rfl, htype⟩
    · rw [hu] at hroot
      cases hroot
    · exact absurd (hs hroot).1 htype

end Segment

theorem Origin.standing_document (g : Ground) (origin : Origin) :
    origin.standing g g.standing false = g.standing := by
  cases origin <;> rfl

theorem Query.complaints_validate_path (g : Ground) (p : Path) :
    ((Query.path p).validate g).note.complaints =
      Note.allComplaints (Segment.notes g g.standing false g.standing p.segments).1 := by
  have hnote := Path.complaints_note g g.standing false p
  rw [Origin.standing_document] at hnote
  exact hnote

end PathQuery
