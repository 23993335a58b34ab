import PathQuery.Validation

namespace PathQuery

namespace Note

theorem complaints_eq_nil {n : Note} :
    n.complaints = [] ↔ n.complaint? = none ∧ allComplaints n.parts = [] := by
  cases n with
  | mk text kind rootField? parts type? complaint? suggestions? =>
    cases complaint? <;> simp [complaints]

theorem allComplaints_eq_nil {notes : List Note} :
    allComplaints notes = [] ↔ ∀ n ∈ notes, n.complaints = [] := by
  induction notes with
  | nil => simp [allComplaints]
  | cons n notes ih => simp [allComplaints, ih]

theorem validType?_of_complaints {n : Note} (h : n.complaints = []) : n.validType? = n.type? := by
  simp [validType?, isValid, h]

theorem complaints_leadingTo (n : Note) (next : Option Standing) :
    (n.leadingTo next).complaints = n.complaints := by
  cases n
  cases next <;> rfl

theorem complaints_of_asOperand {n : Note} (h : n.asOperand.complaints = []) :
    n.complaints = [] := by
  unfold asOperand at h
  split at h
  · split at h
    · exact h
    · simp [complaints_eq_nil] at h
  · exact h

end Note

section Parts

variable (g : Ground) (current : Standing) (inFilter : Bool)

theorem Path.complaints_note (p : Path) : (p.note g current inFilter).complaints =
    Note.allComplaints
      (Segment.notes g current inFilter (p.origin.standing g current inFilter) p.segments).1 := by
  cases p
  rfl

theorem Path.type?_note (p : Path) : (p.note g current inFilter).type? =
    (Segment.notes g current inFilter (p.origin.standing g current inFilter) p.segments).2.map
      (·.type) := by
  cases p
  rfl

theorem Segment.notes_cons_some {s t : Standing} {segment : Segment} (segments : List Segment)
    (h : (segment.note g current inFilter s).2 = some t) :
    Segment.notes g current inFilter s (segment :: segments) =
      ((segment.note g current inFilter s).1.leadingTo (some t) ::
          (Segment.notes g current inFilter t segments).1,
        (Segment.notes g current inFilter t segments).2) := by
  rw [Segment.notes]
  simp only [h]

theorem Segment.complaints_notes_cons {s : Standing} {segment : Segment} {segments : List Segment}
    (h : Note.allComplaints (Segment.notes g current inFilter s (segment :: segments)).1 = []) :
    (segment.note g current inFilter s).1.complaints = [] := by
  cases hn : (segment.note g current inFilter s).2 with
  | none =>
    rw [Segment.notes] at h
    simp only [hn, Note.allComplaints_eq_nil] at h
    exact h _ (List.mem_cons_self ..)
  | some t =>
    rw [Segment.notes_cons_some g current inFilter segments hn, Note.allComplaints_eq_nil] at h
    rw [← Note.complaints_leadingTo]
    exact h _ (List.mem_cons_self ..)

theorem Segment.note_field {s : Standing} {name : String}
    (h : ((Segment.field name).note g current inFilter s).1.complaints = []) :
    ∃ t, s.field g name = .ok t ∧ ((Segment.field name).note g current inFilter s).2 = some t := by
  cases hf : s.field g name with
  | error c =>
    simp only [Segment.note, hf] at h
    simp [Note.complaints_eq_nil] at h
  | ok t => exact ⟨t, rfl, by simp only [Segment.note, hf]⟩

theorem Segment.note_filter {s : Standing} {group : Group}
    (h : ((Segment.filter group).note g current inFilter s).1.complaints = []) :
    (s.type.isList = true ∨ s.type.dataType = .unknown) ∧
      (group.note g s.element true).complaints = [] ∧
      ((Segment.filter group).note g current inFilter s).2 = some s := by
  rw [Segment.note] at h ⊢
  by_cases hl : (!s.type.isList && s.type.dataType != .unknown) = true
  · simp only [hl, if_true] at h
    simp [Note.complaints_eq_nil] at h
  · simp only [hl] at h ⊢
    refine ⟨?_, Note.allComplaints_eq_nil.mp (Note.complaints_eq_nil.mp h).2 _ ?_, rfl⟩
    · simpa [Classical.or_iff_not_imp_left] using hl
    · exact List.mem_singleton.mpr rfl

theorem Segment.note_unknown {s : Standing} {name : String} {arguments : List Argument} :
    ((Segment.call (.unknown name) arguments).note g current inFilter s).1.complaints ≠ [] := by
  simp [Segment.note, Note.complaints_eq_nil]

theorem Segment.note_call {s : Standing} {f : Builtin} {arguments : List Argument}
    (h : ((Segment.call (.known f) arguments).note g current inFilter s).1.complaints = []) :
    callComplaints f s.type ((Argument.notes g current inFilter arguments).map (·.2)) = [] ∧
      (∀ n ∈ (Argument.notes g current inFilter arguments).filterMap (·.1), n.complaints = []) ∧
      ((Segment.call (.known f) arguments).note g current inFilter s).2 =
        some (s.result f.signature.returns) := by
  simp only [Segment.note] at h ⊢
  split at h
  · next hcall =>
    exact ⟨hcall, Note.allComplaints_eq_nil.mp (Note.complaints_eq_nil.mp h).2, rfl⟩
  · simp [Note.complaints_eq_nil] at h

theorem Group.note_complaints {group : Group}
    (h : (group.note g current inFilter).complaints = []) : group.operator.isValid = true ∧
      ∀ n ∈ Query.notes g current inFilter group.operands, n.complaints = [] := by
  obtain ⟨operator, isExplicit, isBraced, operands⟩ := group
  rw [Group.note, Note.complaints_eq_nil] at h
  refine ⟨?_, Note.allComplaints_eq_nil.mp h.2⟩
  simpa using h.1

theorem Argument.forall_notes_cons {a : Argument} {arguments : List Argument} {p : Note → Prop} :
    (∀ n ∈ (Argument.notes g current inFilter (a :: arguments)).filterMap (·.1), p n) ↔
      (∀ n, (a.note g current inFilter).1 = some n → p n) ∧
        ∀ n ∈ (Argument.notes g current inFilter arguments).filterMap (·.1), p n := by
  simp only [Argument.notes, List.mem_filterMap, List.mem_cons]
  constructor
  · intro h
    refine ⟨fun n hn => h n ⟨_, .inl rfl, hn⟩, ?_⟩
    rintro n ⟨e, he, hn⟩
    exact h n ⟨e, .inr he, hn⟩
  · rintro ⟨hfirst, hrest⟩ n ⟨e, rfl | he, hn⟩
    · exact hfirst n hn
    · exact hrest n ⟨e, he, hn⟩

theorem Argument.length_notes (arguments : List Argument) :
    (Argument.notes g current inFilter arguments).length = arguments.length := by
  induction arguments with
  | nil => rfl
  | cons a arguments ih => simp [Argument.notes, ih]

end Parts

end PathQuery
