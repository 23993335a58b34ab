import PathQuery.Proofs.Grammar.WellFormed
import PathQuery.Proofs.Typeahead.Members
import PathQuery.Proofs.Validation.Mirror

namespace PathQuery

section Messages

variable {s t : String}

theorem append_ne_empty_left (h : s ≠ "") (t : String) : s ++ t ≠ "" := by
  intro ht
  exact h (String.append_eq_empty_iff.mp ht).1

theorem append_ne_empty_right (s : String) (h : t ≠ "") : s ++ t ≠ "" := by
  intro ht
  exact h (String.append_eq_empty_iff.mp ht).2

theorem joinMessages_ne_empty {messages : List String} (hne : messages ≠ [])
    (h : ∀ s ∈ messages, s ≠ "") : joinMessages messages ≠ "" := by
  cases messages with
  | nil => exact absurd rfl hne
  | cons s rest =>
    have hs : s ≠ "" := h s List.mem_cons_self
    cases rest with
    | nil => exact hs
    | cons => exact append_ne_empty_left (append_ne_empty_left hs _) _

theorem CallComplaint.message_ne_empty (c : CallComplaint) : c.message ≠ "" := by
  cases c with
  | subject | count | parameter | parameterList =>
    exact append_ne_empty_left (append_ne_empty_right _ (by decide)) _

theorem Complaint.message_ne_empty {c : Complaint} (h : c ≠ .call []) : c.message ≠ "" := by
  cases c with
  | unreachable | secondList => decide
  | notAvailable | noField | unknownResult | unknownOperator | unknownFunction =>
    exact append_ne_empty_right _ (by decide)
  | noRecord => exact append_ne_empty_left (append_ne_empty_right _ (by decide)) _
  | noList | noPredicate => exact append_ne_empty_left (by decide) _
  | call complaints =>
    apply joinMessages_ne_empty
    · intro hnil
      rw [List.map_eq_nil_iff] at hnil
      exact h (congrArg Complaint.call hnil)
    · intro s hs
      obtain ⟨c, -, rfl⟩ := List.mem_map.mp hs
      exact c.message_ne_empty

end Messages

section Texts

theorem Path.text_ne_empty (p : Path) : p.text ≠ "" := by
  cases p with
  | mk origin =>
    apply append_ne_empty_left
    cases origin <;> decide

mutual

theorem Group.text_ne_empty : ∀ h : Group, h.text ≠ ""
  | ⟨_, _, false, [q]⟩ => Query.text_ne_empty q
  | ⟨_, _, true, _⟩ | ⟨_, _, false, []⟩ | ⟨_, _, false, _ :: _ :: _⟩ => by
    rw [Group.text]
    · split <;> exact append_ne_empty_right _ (by decide)
    · nofun
termination_by structural h => h

theorem Query.text_ne_empty : ∀ q : Query, q.text ≠ ""
  | .path p => p.text_ne_empty
  | .group h => Group.text_ne_empty h
termination_by structural q => q

end

theorem Segment.text_ne_empty {segment : Segment} (h : (Node.segment segment).IsWellFormed) :
    segment.text ≠ "" := by
  cases segment with
  | field name => exact h.1
  | filter | call => exact append_ne_empty_right _ (by decide)

theorem Segment.self_mem_nodes (scope : Scope) (segment : Segment) :
    .segment segment ∈ segment.nodes scope := by
  cases segment <;> exact List.mem_cons_self

end Texts

section Notes

def Note.Every (p : Note → Prop) (n : Note) : Prop := ∀ m, m.IsIn n → p m

structure Note.IsSpoken (n : Note) : Prop where
  text : n.text ≠ ""
  message : ∀ c, n.complaint? = some c → c.message ≠ ""

theorem Note.every_iff {p : Note → Prop} {n : Note} :
    n.Every p ↔ p n ∧ ∀ m ∈ n.parts, m.Every p := by
  constructor
  · intro h
    exact ⟨h n (.self n), fun m hm k hk => h k (.part hm hk)⟩
  · rintro ⟨hn, hparts⟩ m hm
    cases hm with
    | self => exact hn
    | part mem inner => exact hparts _ mem m inner

theorem Note.every_leadingTo {n : Note} {s : Standing} (h : n.Every IsSpoken) :
    (n.leadingTo (some s)).Every IsSpoken := by
  obtain ⟨hn, hparts⟩ := every_iff.mp h
  exact every_iff.mpr ⟨⟨hn.text, hn.message⟩, hparts⟩

theorem Note.every_asOperand {n : Note} (h : n.Every IsSpoken) : n.asOperand.Every IsSpoken := by
  rw [asOperand]
  split
  · next t _ =>
    split
    · exact h
    · obtain ⟨hn, hparts⟩ := every_iff.mp h
      refine every_iff.mpr ⟨⟨hn.text, ?_⟩, hparts⟩
      rintro c ⟨⟩
      exact Complaint.message_ne_empty (by simp)
  · exact h

variable {g : Ground}

theorem Standing.field_message {s : Standing} {name : String} {c : Complaint}
    (h : s.field g name = .error c) : c.message ≠ "" := by
  apply Complaint.message_ne_empty
  rcases Standing.field_error h with rfl | rfl | rfl | rfl | rfl <;> simp

theorem Segment.message_note {current s : Standing} {inFilter : Bool} {segment : Segment}
    {c : Complaint} (h : (segment.note g current inFilter s).1.complaint? = some c) :
    c.message ≠ "" := by
  cases segment with
  | field name =>
    rw [Segment.note] at h
    cases hf : s.field g name with
    | ok next =>
      simp only [hf] at h
      cases h
    | error c' =>
      simp only [hf] at h
      cases h
      exact Standing.field_message hf
  | filter group =>
    rw [Segment.note] at h
    split at h
    · cases h
      exact Complaint.message_ne_empty (by simp)
    · cases h
  | call callee arguments =>
    cases callee with
    | unknown name =>
      cases h
      exact Complaint.message_ne_empty (by simp)
    | known f =>
      simp only [Segment.note] at h
      split at h
      · cases h
      · next hne =>
        cases h
        apply Complaint.message_ne_empty
        intro hnil
        exact hne (Complaint.call.inj hnil)

theorem Segment.unreachable_spoken : ∀ segments : List Segment,
    (∀ n ∈ Segment.allNodes .everywhere segments, n.IsWellFormed) →
      ∀ m ∈ segments.map Segment.unreachable, m.Every Note.IsSpoken
  | [], _ => nofun
  | segment :: segments, h => by
    obtain ⟨hfirst, hrest⟩ := List.forall_mem_append.mp h
    refine List.forall_mem_cons.mpr ⟨?_, Segment.unreachable_spoken segments hrest⟩
    have htext : segment.text ≠ "" := Segment.text_ne_empty (hfirst _ (segment.self_mem_nodes _))
    refine Note.every_iff.mpr ⟨⟨htext, ?_⟩, nofun⟩
    rintro c ⟨⟩
    exact Complaint.message_ne_empty (by simp)

-- The notes on a part need the names in it only, so the hypothesis is split as the query is.
mutual

theorem Path.note_spoken : ∀ (p : Path) (current : Standing) (inFilter : Bool),
    (∀ n ∈ p.nodes .everywhere, n.IsWellFormed) →
      (p.note g current inFilter).Every Note.IsSpoken
  | ⟨origin, _, _, segments⟩, current, inFilter, h =>
    Note.every_iff.mpr ⟨⟨Path.text_ne_empty _, nofun⟩,
      Segment.notes_spoken segments current (origin.standing g current inFilter) inFilter
        (List.forall_mem_cons.mp h).2⟩
termination_by structural p => p

theorem Segment.notes_spoken : ∀ (segments : List Segment) (current s : Standing)
    (inFilter : Bool), (∀ n ∈ Segment.allNodes .everywhere segments, n.IsWellFormed) →
      ∀ m ∈ (Segment.notes g current inFilter s segments).1, m.Every Note.IsSpoken
  | [], _, _, _, _ => nofun
  | segment :: segments, current, s, inFilter, h => by
    obtain ⟨hfirst, hrest⟩ := List.forall_mem_append.mp h
    have hnote := Segment.note_spoken segment current s inFilter hfirst
    cases hnext : segment.next? g s with
    | some t =>
      rw [Segment.notes_next hnext]
      exact List.forall_mem_cons.mpr
        ⟨Note.every_leadingTo hnote, Segment.notes_spoken segments current t inFilter hrest⟩
    | none =>
      rw [Segment.notes_breaks (Segment.next?_eq_none_iff.mp hnext)]
      exact List.forall_mem_cons.mpr ⟨hnote, Segment.unreachable_spoken segments hrest⟩
termination_by structural segments => segments

theorem Segment.note_spoken : ∀ (segment : Segment) (current s : Standing) (inFilter : Bool),
    (∀ n ∈ segment.nodes .everywhere, n.IsWellFormed) →
      (segment.note g current inFilter s).1.Every Note.IsSpoken
  | segment, current, s, inFilter, h => by
    have htext : segment.text ≠ "" := Segment.text_ne_empty (h _ (segment.self_mem_nodes _))
    -- What is wrong does not depend on the parts, which are all that is left of the note then.
    have hmessage := @Segment.message_note g current s inFilter segment
    obtain ⟨root?, complaint?, heq⟩ := segment.note_fst g current s inFilter
    rw [heq] at hmessage ⊢
    refine Note.every_iff.mpr ⟨⟨htext, fun c hc => hmessage hc⟩, ?_⟩
    cases segment with
    | field name => nofun
    | filter group =>
      exact List.forall_mem_singleton.mpr
        (Group.note_spoken group s.element true (List.forall_mem_cons.mp h).2)
    | call callee arguments =>
      exact Argument.notes_spoken arguments current inFilter (List.forall_mem_cons.mp h).2
termination_by structural segment => segment

theorem Argument.notes_spoken : ∀ (arguments : List Argument) (current : Standing)
    (inFilter : Bool), (∀ n ∈ Argument.allNodes .everywhere arguments, n.IsWellFormed) →
      ∀ m ∈ (Argument.notes g current inFilter arguments).filterMap (·.1), m.Every Note.IsSpoken
  | [], _, _, _ => nofun
  | .path p :: arguments, current, inFilter, h => by
    obtain ⟨hfirst, hrest⟩ := List.forall_mem_append.mp h
    exact List.forall_mem_cons.mpr
      ⟨Path.note_spoken p current inFilter (List.forall_mem_cons.mp hfirst).2,
        Argument.notes_spoken arguments current inFilter hrest⟩
  | .number _ _ :: arguments, current, inFilter, h =>
    Argument.notes_spoken arguments current inFilter (List.forall_mem_append.mp h).2
  | .string _ :: arguments, current, inFilter, h =>
    Argument.notes_spoken arguments current inFilter (List.forall_mem_append.mp h).2
  | .bool _ :: arguments, current, inFilter, h =>
    Argument.notes_spoken arguments current inFilter (List.forall_mem_append.mp h).2
termination_by structural arguments => arguments

theorem Group.note_spoken : ∀ (h : Group) (current : Standing) (inFilter : Bool),
    (∀ n ∈ h.nodes .everywhere, n.IsWellFormed) →
      (h.note g current inFilter).Every Note.IsSpoken
  | ⟨operator, isExplicit, isBraced, operands⟩, current, inFilter, h => by
    refine Note.every_iff.mpr ⟨⟨Group.text_ne_empty _, ?_⟩,
      Query.notes_spoken operands current inFilter (List.forall_mem_cons.mp h).2⟩
    intro c hc
    simp only [Group.note] at hc
    split at hc
    · cases hc
    · cases hc
      exact Complaint.message_ne_empty (by simp)
termination_by structural h => h

theorem Query.notes_spoken : ∀ (operands : List Query) (current : Standing) (inFilter : Bool),
    (∀ n ∈ Query.allNodes .everywhere operands, n.IsWellFormed) →
      ∀ m ∈ Query.notes g current inFilter operands, m.Every Note.IsSpoken
  | [], _, _, _ => nofun
  | q :: operands, current, inFilter, h => by
    obtain ⟨hfirst, hrest⟩ := List.forall_mem_append.mp h
    exact List.forall_mem_cons.mpr ⟨Query.operandNote_spoken q current inFilter hfirst,
      Query.notes_spoken operands current inFilter hrest⟩
termination_by structural operands => operands

theorem Query.operandNote_spoken : ∀ (q : Query) (current : Standing) (inFilter : Bool),
    (∀ n ∈ q.nodes .everywhere, n.IsWellFormed) →
      (q.operandNote g current inFilter).Every Note.IsSpoken
  | .path p, current, inFilter, h => Note.every_asOperand (Path.note_spoken p current inFilter h)
  | .group h, current, inFilter, h' => Group.note_spoken h current inFilter h'
termination_by structural q => q

end

theorem Query.note_spoken {q : Query} (h : ∀ n ∈ q.nodes .everywhere, n.IsWellFormed) :
    (q.note g).Every Note.IsSpoken := by
  cases q with
  | path p => exact Path.note_spoken p g.standing false h
  | group h' => exact Group.note_spoken h' g.standing false h

end Notes

theorem Query.validate_written (g : Ground) (q : Query) :
    (q.validate g).toJson = (q.validate g).fullJson.withoutBlanks ∧
    (∀ j, (q.validate g).toJson.Contains j →
      j ≠ .null ∧ j ≠ .bool false ∧ j ≠ .array [] ∧ j ≠ .object []) ∧
    (∀ n : Note, n.IsIn (q.validate g).note →
      (q.validate g).toJson.Contains n.toJson ∧ n.IsWritten n.toJson) ∧
    ∀ text, Query.read text = .ok q →
      (q.validate g).dataMap.text ≠ "" ∧
        ∀ n : Note, n.IsIn (q.validate g).note → n.IsSpoken := by
  refine ⟨?_, ?_, ?_, ?_⟩
  · exact ((q.validate g).withoutBlanks_fullJson).symm
  · intro j hj
    exact Json.isBlank_eq_false_iff.mp ((q.validate g).isTidy_toJson j hj)
  · intro n hn
    have htypeahead : (q.validate g).toJson.Contains (q.validate g).note.toJson :=
      .member List.mem_cons_self (.self _)
    exact ⟨htypeahead.trans hn.contains, n.isWritten⟩
  · intro text hread
    obtain ⟨d, hd, rfl⟩ := Grammar.exists_derives hread
    have hscanned : ∀ t ∈ d.tokens, t.Scanned := hd ▸ (yields_tokens anyIdent text).scanned
    exact ⟨Query.text_ne_empty _, Query.note_spoken (d.wellFormed hscanned)⟩

theorem Query.validate_written_unknown :
    let g : Ground := ⟨.record [("rows", .list (.record [("ok", .bool)]))], []⟩
    let text := "$.rows[@.ok].Sort().ok"
    ∃ q, Query.read text = .ok q ∧ (q.validate g).note.complaints ≠ [] ∧
      (q.validate g).dataMap.text ≠ "" ∧ ∀ n : Note, n.IsIn (q.validate g).note → n.IsSpoken := by
  intro g text
  have h : (Query.read text).toOption.any
      (fun q => !(q.validate g).note.complaints.isEmpty) = true := by decide +kernel
  obtain ⟨q, hq, hcomplaints⟩ := (Option.any_eq_true _ _).mp h
  have hread := (PartialQuery.toOption_eq_some_iff _ _).mp hq
  obtain ⟨-, -, -, hspoken⟩ := Query.validate_written g q
  refine ⟨q, hread, ?_, hspoken text hread⟩
  rintro hnil
  rw [hnil] at hcomplaints
  cases hcomplaints

end PathQuery
