import PathQuery.Proofs.Grammar.Reading
import PathQuery.Proofs.Query.Parts
import PathQuery.Proofs.Validation.Mirror
import PathQuery.Proofs.Validation.RootFields

namespace PathQuery

def Reads (inFilter : Bool) (free all : List Node) (name : String) : Prop :=
  ∃ p : Path, (∃ rest, p.segments = .field name :: rest) ∧
    (.path p ∈ all ∧ p.origin = .root ∨ inFilter = false ∧ .path p ∈ free ∧ p.origin = .current)

def Query.ReadsField (q : Query) (name : String) : Prop :=
  Reads false (q.nodes .outsideFilters) (q.nodes .everywhere) name

mutual

-- The path as far as validation gets, and so all paths within it.
def Path.reached (g : Ground) (current : Standing) (inFilter : Bool) : Path → Path
  | ⟨origin, isOperand, asPredicate, segments⟩ =>
    ⟨origin, isOperand, asPredicate,
      Segment.allReached g current inFilter (origin.standing g current inFilter) segments⟩

def Segment.allReached (g : Ground) (current : Standing) (inFilter : Bool) (s : Standing) :
    List Segment → List Segment
  | [] => []
  | segment :: segments =>
    segment.reached g current inFilter s ::
      match segment.next? g s with
      | some t => Segment.allReached g current inFilter t segments
      | none => []

def Segment.reached (g : Ground) (current : Standing) (inFilter : Bool) (s : Standing) :
    Segment → Segment
  | .field name => .field name
  | .filter group => .filter (group.reached g s.element true)
  | .call callee arguments => .call callee (Argument.allReached g current inFilter arguments)

def Argument.allReached (g : Ground) (current : Standing) (inFilter : Bool) :
    List Argument → List Argument
  | [] => []
  | a :: arguments =>
    a.reached g current inFilter :: Argument.allReached g current inFilter arguments

def Argument.reached (g : Ground) (current : Standing) (inFilter : Bool) : Argument → Argument
  | .path p => .path (p.reached g current inFilter)
  | a => a

def Group.reached (g : Ground) (current : Standing) (inFilter : Bool) : Group → Group
  | ⟨operator, isExplicit, isBraced, operands⟩ =>
    ⟨operator, isExplicit, isBraced, Query.allReached g current inFilter operands⟩

def Query.allReached (g : Ground) (current : Standing) (inFilter : Bool) : List Query → List Query
  | [] => []
  | q :: operands =>
    q.reachedFrom g current inFilter :: Query.allReached g current inFilter operands

def Query.reachedFrom (g : Ground) (current : Standing) (inFilter : Bool) : Query → Query
  | .path p => .path (p.reached g current inFilter)
  | .group group => .group (group.reached g current inFilter)

end

def Query.reached (g : Ground) (q : Query) : Query := q.reachedFrom g g.standing false

section Nodes

variable {inFilter : Bool} {free free' all all' : List Node} {name : String}

theorem not_reads_nil : ¬Reads inFilter [] [] name := by
  rintro ⟨p, -, ⟨h, -⟩ | ⟨-, h, -⟩⟩ <;> cases h

theorem reads_append : Reads inFilter (free ++ free') (all ++ all') name ↔
    Reads inFilter free all name ∨ Reads inFilter free' all' name := by
  simp only [Reads, List.mem_append, ← exists_or]
  refine exists_congr fun p => ?_
  tauto

theorem reads_cons_of_ne {n : Node} (h : ∀ p, n ≠ .path p) :
    Reads inFilter (n :: free) (n :: all) name ↔ Reads inFilter free all name := by
  have hmem : ∀ p ns, Node.path p ∈ n :: ns ↔ .path p ∈ ns := fun p ns => by
    simp [List.mem_cons, (h p).symm]
  simp only [Reads, hmem]

theorem reads_cons_segment {s : Segment} :
    Reads inFilter (.segment s :: free) (.segment s :: all) name ↔ Reads inFilter free all name :=
  reads_cons_of_ne nofun

theorem reads_cons_argument {a : Argument} :
    Reads inFilter (.argument a :: free) (.argument a :: all) name ↔ Reads inFilter free all name :=
  reads_cons_of_ne nofun

theorem reads_cons_group {group : Group} :
    Reads inFilter (.group group :: free) (.group group :: all) name ↔ Reads inFilter free all name :=
  reads_cons_of_ne nofun

theorem reads_cons_path {p : Path} : Reads inFilter (.path p :: free) (.path p :: all) name ↔
    (p.origin = .root ∨ inFilter = false ∧ p.origin = .current) ∧
        (∃ rest, p.segments = .field name :: rest) ∨
      Reads inFilter free all name := by
  simp only [Reads, List.mem_cons, Node.path.injEq]
  constructor
  · rintro ⟨p', hrest, ⟨rfl | hall, ho⟩ | ⟨hf, rfl | hfree, ho⟩⟩
    · exact .inl ⟨.inl ho, hrest⟩
    · exact .inr ⟨p', hrest, .inl ⟨hall, ho⟩⟩
    · exact .inl ⟨.inr ⟨hf, ho⟩, hrest⟩
    · exact .inr ⟨p', hrest, .inr ⟨hf, hfree, ho⟩⟩
  · rintro (⟨ho | ⟨hf, ho⟩, hrest⟩ | ⟨p', hrest, ⟨hall, ho⟩ | ⟨hf, hfree, ho⟩⟩)
    · exact ⟨p, hrest, .inl ⟨.inl rfl, ho⟩⟩
    · exact ⟨p, hrest, .inr ⟨hf, .inl rfl, ho⟩⟩
    · exact ⟨p', hrest, .inl ⟨.inr hall, ho⟩⟩
    · exact ⟨p', hrest, .inr ⟨hf, .inr hfree, ho⟩⟩

end Nodes

section Reached

variable {g : Ground} {current s t : Standing} {inFilter : Bool} {segment : Segment}
  {segments : List Segment} {name : String}

theorem Segment.allReached_eq_field_cons :
    (∃ rest, Segment.allReached g current inFilter s segments = .field name :: rest) ↔
      ∃ rest, segments = .field name :: rest := by
  cases segments with
  | nil => simp [Segment.allReached]
  | cons segment segments => cases segment <;> simp [Segment.allReached, Segment.reached]

theorem Origin.atRoot_standing (origin : Origin) :
    (origin.standing g current inFilter).atRoot = true ↔
      origin = .root ∨ inFilter = false ∧ origin = .current := by
  cases origin <;> simp [Origin.standing, Ground.standing]

theorem Origin.type_standing (hg : g.standing.type = .single .record)
    (h : inFilter = false → current = g.standing) (origin : Origin) :
    (origin.standing g current inFilter).atRoot = true →
      (origin.standing g current inFilter).type = .single .record := by
  intro hroot
  rcases (Origin.atRoot_standing origin).mp hroot with rfl | ⟨hf, rfl⟩
  · exact hg
  · obtain rfl := h hf
    exact hg

theorem Segment.atRoot_next (hs : s.atRoot = true → s.type = .single .record)
    (h : segment.next? g s = some t) : t.atRoot = false := by
  have hnote : (segment.note g s false s).2 = some t := note_snd.trans h
  rcases Segment.note_next hnote with ht | ⟨rfl, htype⟩
  · exact ht
  · exact Bool.eq_false_iff.mpr fun hroot => htype (hs hroot)

end Reached

section Noted

variable {g : Ground}

mutual

theorem Path.mem_rootFields (hg : g.standing.type = .single .record) : ∀ (p : Path)
    {current : Standing} {inFilter : Bool}, (inFilter = false → current = g.standing) →
    ∀ name, name ∈ (p.note g current inFilter).rootFields ↔
      Reads inFilter ((p.reached g current inFilter).nodes .outsideFilters)
        ((p.reached g current inFilter).nodes .everywhere) name
  | ⟨origin, isOperand, asPredicate, segments⟩, current, inFilter, h, name => by
    have hstart := Origin.type_standing hg h origin
    rw [Path.rootFields_note, Segment.mem_allRootFields hg segments h hstart,
      Origin.atRoot_standing]
    simp only [Path.reached, Path.nodes]
    rw [reads_cons_path, Segment.allReached_eq_field_cons]
termination_by structural p => p

theorem Segment.mem_allRootFields (hg : g.standing.type = .single .record) :
    ∀ (segments : List Segment) {current s : Standing} {inFilter : Bool},
    (inFilter = false → current = g.standing) → (s.atRoot = true → s.type = .single .record) →
    ∀ name, name ∈ Note.allRootFields (Segment.notes g current inFilter s segments).1 ↔
      s.atRoot = true ∧ (∃ rest, segments = .field name :: rest) ∨
        Reads inFilter
          (Segment.allNodes .outsideFilters (Segment.allReached g current inFilter s segments))
          (Segment.allNodes .everywhere (Segment.allReached g current inFilter s segments)) name
  | [], _, _, _, _, _, name => by
    simp [Segment.notes, Note.allRootFields, Segment.allReached, Segment.allNodes, not_reads_nil]
  | segment :: segments, current, s, inFilter, h, hs, name => by
    have hfirst := Segment.mem_rootFields hg segment (s := s) h name
    rw [Segment.allRootFields_notes_cons, List.mem_append, hfirst, Segment.note_snd]
    simp only [Segment.allReached, Segment.allNodes, reads_append, List.cons.injEq,
      exists_and_left, exists_eq', and_true, or_assoc]
    refine or_congr_right (or_congr_right ?_)
    cases hnext : segment.next? g s with
    | none => simp [Segment.allNodes, not_reads_nil]
    | some t =>
      have ht := Segment.atRoot_next hs hnext
      have hrest := Segment.mem_allRootFields hg segments (s := t) h (by simp [ht]) name
      simpa [ht] using hrest
termination_by structural segments => segments

theorem Segment.mem_rootFields (hg : g.standing.type = .single .record) :
    ∀ (segment : Segment) {current s : Standing} {inFilter : Bool},
    (inFilter = false → current = g.standing) →
    ∀ name, name ∈ (segment.note g current inFilter s).1.rootFields ↔
      s.atRoot = true ∧ segment = .field name ∨
        Reads inFilter ((segment.reached g current inFilter s).nodes .outsideFilters)
          ((segment.reached g current inFilter s).nodes .everywhere) name
  | .field field, current, s, inFilter, _, name => by
    rw [Segment.rootFields_field, Segment.reached, Segment.nodes, Segment.nodes,
      reads_cons_segment, or_iff_left not_reads_nil]
    cases s.atRoot <;> simp [eq_comm]
  | .filter group, current, s, inFilter, _, name => by
    have hfree : true = false → s.element = g.standing := nofun
    rw [Segment.rootFields_filter, Group.mem_rootFields hg group hfree]
    simp only [Segment.reached, Segment.nodes]
    rw [reads_cons_segment]
    simp [Reads]
  | .call callee arguments, current, s, inFilter, h, name => by
    rw [Segment.rootFields_call, Argument.mem_allRootFields hg arguments h]
    simp only [Segment.reached, Segment.nodes]
    rw [reads_cons_segment]
    simp
termination_by structural segment => segment

theorem Argument.mem_allRootFields (hg : g.standing.type = .single .record) :
    ∀ (arguments : List Argument) {current : Standing} {inFilter : Bool},
    (inFilter = false → current = g.standing) →
    ∀ name, name ∈ Note.allRootFields
        ((Argument.notes g current inFilter arguments).filterMap (·.1)) ↔
      Reads inFilter
        (Argument.allNodes .outsideFilters (Argument.allReached g current inFilter arguments))
        (Argument.allNodes .everywhere (Argument.allReached g current inFilter arguments)) name
  | [], _, _, _, name => by
    simp [Argument.notes, Note.allRootFields, Argument.allReached, Argument.allNodes, not_reads_nil]
  | a :: arguments, current, inFilter, h, name => by
    have hfirst := Argument.mem_rootFields hg a h name
    have hrest := Argument.mem_allRootFields hg arguments h name
    simp only [Argument.allReached, Argument.allNodes]
    rw [reads_append, ← hfirst, ← hrest, Argument.notes, List.filterMap_cons]
    cases (a.note g current inFilter).1 with
    | none => simp
    | some n => simp [Note.allRootFields]
termination_by structural arguments => arguments

theorem Argument.mem_rootFields (hg : g.standing.type = .single .record) : ∀ (a : Argument)
    {current : Standing} {inFilter : Bool}, (inFilter = false → current = g.standing) →
    ∀ name, (∃ n, (a.note g current inFilter).1 = some n ∧ name ∈ n.rootFields) ↔
      Reads inFilter ((a.reached g current inFilter).nodes .outsideFilters)
        ((a.reached g current inFilter).nodes .everywhere) name
  | .number _ _, _, _, _, name => by
    simp [Argument.reached, Argument.nodes, reads_cons_argument, Argument.note, not_reads_nil]
  | .string _, _, _, _, name => by
    simp [Argument.reached, Argument.nodes, reads_cons_argument, Argument.note, not_reads_nil]
  | .bool _, _, _, _, name => by
    simp [Argument.reached, Argument.nodes, reads_cons_argument, Argument.note, not_reads_nil]
  | .path p, current, inFilter, h, name => by
    have hp := Path.mem_rootFields hg p h name
    rw [Argument.reached, Argument.nodes, Argument.nodes, reads_cons_argument, ← hp]
    simp [Argument.note]
termination_by structural a => a

theorem Group.mem_rootFields (hg : g.standing.type = .single .record) : ∀ (group : Group)
    {current : Standing} {inFilter : Bool}, (inFilter = false → current = g.standing) →
    ∀ name, name ∈ (group.note g current inFilter).rootFields ↔
      Reads inFilter ((group.reached g current inFilter).nodes .outsideFilters)
        ((group.reached g current inFilter).nodes .everywhere) name
  | ⟨operator, isExplicit, isBraced, operands⟩, current, inFilter, h, name => by
    rw [Group.rootFields_note, Query.mem_allRootFields hg operands h]
    simp only [Group.reached, Group.nodes]
    rw [reads_cons_group]
termination_by structural group => group

theorem Query.mem_allRootFields (hg : g.standing.type = .single .record) :
    ∀ (operands : List Query) {current : Standing} {inFilter : Bool},
    (inFilter = false → current = g.standing) →
    ∀ name, name ∈ Note.allRootFields (Query.notes g current inFilter operands) ↔
      Reads inFilter
        (Query.allNodes .outsideFilters (Query.allReached g current inFilter operands))
        (Query.allNodes .everywhere (Query.allReached g current inFilter operands)) name
  | [], _, _, _, name => by
    simp [Query.notes, Note.allRootFields, Query.allReached, Query.allNodes, not_reads_nil]
  | q :: operands, current, inFilter, h, name => by
    have hfirst := Query.mem_rootFields hg q h name
    have hrest := Query.mem_allRootFields hg operands h name
    simp only [Query.allReached, Query.allNodes]
    rw [reads_append, ← hfirst, ← hrest, Query.notes, Note.allRootFields, List.mem_append]
termination_by structural operands => operands

theorem Query.mem_rootFields (hg : g.standing.type = .single .record) : ∀ (q : Query)
    {current : Standing} {inFilter : Bool}, (inFilter = false → current = g.standing) →
    ∀ name, name ∈ (q.operandNote g current inFilter).rootFields ↔
      Reads inFilter ((q.reachedFrom g current inFilter).nodes .outsideFilters)
        ((q.reachedFrom g current inFilter).nodes .everywhere) name
  | .path p, current, inFilter, h, name => by
    rw [Query.operandNote, Note.rootFields_asOperand, Path.mem_rootFields hg p h]
    rfl
  | .group group, current, inFilter, h, name => by
    rw [Query.operandNote, Group.mem_rootFields hg group h]
    rfl
termination_by structural q => q

end

end Noted

section Whole

variable {g : Ground} {c : Complaint}

theorem Note.mem_complaints {n : Note} :
    c ∈ n.complaints ↔ n.complaint? = some c ∨ ∃ m ∈ n.parts, c ∈ m.complaints := by
  have hall : ∀ notes, c ∈ allComplaints notes ↔ ∃ m ∈ notes, c ∈ m.complaints := by
    intro notes
    induction notes with
    | nil => simp [allComplaints]
    | cons m notes ih => simp [allComplaints, ih]
  cases n
  simp [complaints, hall]

theorem Note.mem_complaints_asOperand {n : Note} (h : c ∈ n.complaints) :
    c ∈ n.asOperand.complaints := by
  have hne : n.complaints ≠ [] := List.ne_nil_of_mem h
  have htype : n.validType? = none := by simp [validType?, isValid, hne]
  rwa [asOperand, htype]

theorem Segment.partNotes_of_not_mem {current s : Standing} {inFilter : Bool} {segment : Segment}
    (h : c ∉ (segment.note g current inFilter s).1.complaints) :
    ∀ m ∈ segment.partNotes g current inFilter s, c ∉ m.complaints := by
  intro m hm hc
  obtain ⟨_, _, heq⟩ := segment.note_fst g current s inFilter
  rw [heq] at h
  exact h (Note.mem_complaints.mpr (.inr ⟨m, hm, hc⟩))

mutual

theorem Path.reached_eq_self : ∀ (p : Path) {current : Standing} {inFilter : Bool},
    .unreachable ∉ (p.note g current inFilter).complaints → p.reached g current inFilter = p
  | ⟨origin, isOperand, asPredicate, segments⟩, current, inFilter, h => by
    rw [Path.reached, Segment.allReached_eq_self segments]
    intro m hm hc
    exact h (Note.mem_complaints.mpr (.inr ⟨m, hm, hc⟩))
termination_by structural p => p

theorem Segment.allReached_eq_self : ∀ (segments : List Segment) {current s : Standing}
    {inFilter : Bool},
    (∀ m ∈ (Segment.notes g current inFilter s segments).1, .unreachable ∉ m.complaints) →
    Segment.allReached g current inFilter s segments = segments
  | [], _, _, _, _ => rfl
  | segment :: segments, current, s, inFilter, h => by
    rw [Segment.allReached]
    cases hnext : segment.next? g s with
    | some t =>
      rw [Segment.notes_next hnext, List.forall_mem_cons, Note.complaints_leadingTo] at h
      rw [Segment.reached_eq_self segment h.1]
      exact congrArg _ (Segment.allReached_eq_self segments h.2)
    | none =>
      rw [Segment.notes_breaks (Segment.next?_eq_none_iff.mp hnext), List.forall_mem_cons] at h
      rw [Segment.reached_eq_self segment h.1]
      -- Any segment left over would be noted as unreachable.
      cases segments with
      | nil => rfl
      | cons behind segments => exact absurd (List.mem_singleton_self _) (h.2 _ List.mem_cons_self)
termination_by structural segments => segments

theorem Segment.reached_eq_self : ∀ (segment : Segment) {current s : Standing} {inFilter : Bool},
    .unreachable ∉ (segment.note g current inFilter s).1.complaints →
    segment.reached g current inFilter s = segment
  | .field _, _, _, _, _ => rfl
  | .filter group, current, s, inFilter, h => by
    have hparts := Segment.partNotes_of_not_mem h
    rw [Segment.reached, Group.reached_eq_self group (hparts _ (List.mem_singleton_self _))]
  | .call callee arguments, current, s, inFilter, h => by
    have hparts := Segment.partNotes_of_not_mem h
    rw [Segment.reached, Argument.allReached_eq_self arguments hparts]
termination_by structural segment => segment

theorem Argument.allReached_eq_self : ∀ (arguments : List Argument) {current : Standing}
    {inFilter : Bool},
    (∀ m ∈ (Argument.notes g current inFilter arguments).filterMap (·.1),
      .unreachable ∉ m.complaints) →
    Argument.allReached g current inFilter arguments = arguments
  | [], _, _, _ => rfl
  | a :: arguments, current, inFilter, h => by
    rw [Argument.forall_notes_cons] at h
    rw [Argument.allReached, Argument.reached_eq_self a h.1,
      Argument.allReached_eq_self arguments h.2]
termination_by structural arguments => arguments

theorem Argument.reached_eq_self : ∀ (a : Argument) {current : Standing} {inFilter : Bool},
    (∀ n, (a.note g current inFilter).1 = some n → .unreachable ∉ n.complaints) →
    a.reached g current inFilter = a
  | .number _ _, _, _, _ | .string _, _, _, _ | .bool _, _, _, _ => rfl
  | .path p, _, _, h => congrArg _ (Path.reached_eq_self p (h _ rfl))
termination_by structural a => a

theorem Group.reached_eq_self : ∀ (group : Group) {current : Standing} {inFilter : Bool},
    .unreachable ∉ (group.note g current inFilter).complaints →
    group.reached g current inFilter = group
  | ⟨operator, isExplicit, isBraced, operands⟩, current, inFilter, h => by
    rw [Group.reached, Query.allReached_eq_self operands]
    intro m hm hc
    exact h (Note.mem_complaints.mpr (.inr ⟨m, hm, hc⟩))
termination_by structural group => group

theorem Query.allReached_eq_self : ∀ (operands : List Query) {current : Standing}
    {inFilter : Bool},
    (∀ m ∈ Query.notes g current inFilter operands, .unreachable ∉ m.complaints) →
    Query.allReached g current inFilter operands = operands
  | [], _, _, _ => rfl
  | q :: operands, current, inFilter, h => by
    rw [Query.notes, List.forall_mem_cons] at h
    rw [Query.allReached, Query.reachedFrom_eq_self q h.1, Query.allReached_eq_self operands h.2]
termination_by structural operands => operands

theorem Query.reachedFrom_eq_self : ∀ (q : Query) {current : Standing} {inFilter : Bool},
    .unreachable ∉ (q.operandNote g current inFilter).complaints →
    q.reachedFrom g current inFilter = q
  | .path p, _, _, h =>
    congrArg _ (Path.reached_eq_self p fun hc => h (Note.mem_complaints_asOperand hc))
  | .group group, _, _, h => congrArg _ (Group.reached_eq_self group h)
termination_by structural q => q

end

end Whole

theorem Query.required_eq_reached {schema : Schema} {target : String} {g : Ground}
    (hg : schema.ground target = .ok g) (q : Query) :
    (∀ name, name ∈ (q.validate g).dataMap.required ↔ (q.reached g).ReadsField name) ∧
      (.unreachable ∉ (q.validate g).note.complaints → q.reached g = q) := by
  have hrecord := Schema.ground_type hg
  have hcurrent : false = false → g.standing = g.standing := fun _ => rfl
  cases q with
  | path p =>
    exact ⟨fun name => mem_sortNames.trans (Path.mem_rootFields hrecord p hcurrent name),
      fun h => congrArg _ (Path.reached_eq_self p h)⟩
  | group group =>
    exact ⟨fun name => mem_sortNames.trans (Group.mem_rootFields hrecord group hcurrent name),
      fun h => congrArg _ (Group.reached_eq_self group h)⟩

theorem Query.required_eq_reached_limit :
    let schema : Schema := ⟨[⟨"limit", [], false⟩, ⟨"out", [], false⟩, ⟨"rows", [], false⟩],
      [("limit", .number), ("out", .bool), ("rows", .list .number)]⟩
    let limit : Path := ⟨.root, false, false, [.field "limit"]⟩
    let q : Query := .path ⟨.root, false, false,
      [.field "rows", .call (.unknown "Above") [.path limit]]⟩
    ∃ g, schema.ground "out" = .ok g ∧ q.text = "$.rows.Above($.limit)" ∧
      (q.validate g).note.complaints = [.unknownFunction "Above"] ∧
      q.ReadsField "limit" ∧ "limit" ∈ (q.validate g).dataMap.required := by
  intro schema limit q
  have hg : schema.ground "out" = .ok ⟨schema.root, ["out"]⟩ := rfl
  have hc : (q.validate ⟨schema.root, ["out"]⟩).note.complaints = [.unknownFunction "Above"] := by
    decide +kernel
  have hlimit : .path limit ∈ q.nodes .everywhere := by
    simp [q, limit, Query.nodes, Path.nodes, Segment.allNodes, Segment.nodes, Argument.allNodes,
      Argument.nodes]
  have hreads : q.ReadsField "limit" := ⟨limit, ⟨[], rfl⟩, .inl ⟨hlimit, rfl⟩⟩
  obtain ⟨hrequired, hself⟩ := Query.required_eq_reached hg q
  have hwhole := hself (by rw [hc]; decide)
  exact ⟨_, hg, by decide +kernel, hc, hreads, (hrequired "limit").mpr (hwhole.symm ▸ hreads)⟩

theorem Query.required_eq_reached_behind :
    let schema : Schema := ⟨[⟨"limit", [], false⟩, ⟨"out", [], false⟩],
      [("limit", .number), ("out", .bool)]⟩
    let limit : Path := ⟨.root, false, false, [.field "limit"]⟩
    let q : Query := .path ⟨.root, false, false,
      [.field "count", .call (.known .greater) [.path limit]]⟩
    ∃ g, schema.ground "out" = .ok g ∧ q.text = "$.count.Greater($.limit)" ∧
      q.ReadsField "limit" ∧ (q.validate g).dataMap.required = ["count"] := by
  intro schema limit q
  have hlimit : .path limit ∈ q.nodes .everywhere := by
    simp [q, limit, Query.nodes, Path.nodes, Segment.allNodes, Segment.nodes, Argument.allNodes,
      Argument.nodes]
  refine ⟨⟨schema.root, ["out"]⟩, rfl, by decide +kernel, ?_, by decide +kernel⟩
  exact ⟨limit, ⟨[], rfl⟩, .inl ⟨hlimit, rfl⟩⟩

end PathQuery
