import Mathlib.Data.List.Forall2
import PathQuery.Proofs.Validation.Notes

namespace PathQuery

def Segment.Breaks (g : Ground) (s : Standing) : Segment → Prop
  | .field name => ∃ c, s.field g name = .error c
  | .filter _ => s.type.isList = false ∧ s.type.dataType ≠ .unknown
  | .call (.known _) _ => False
  | .call (.unknown _) _ => True

def Segment.next? (g : Ground) (s : Standing) : Segment → Option Standing
  | .field name => (s.field g name).toOption
  | .filter _ => if s.type.isList || s.type.dataType == .unknown then some s else none
  | .call (.known f) _ => some (s.result f.signature.returns)
  | .call (.unknown _) _ => none

inductive BreaksAt (g : Ground) : Standing → List Segment → Nat → Prop
  | here {s segment segments} : segment.Breaks g s → BreaksAt g s (segment :: segments) 0
  | behind {s t segment segments k} : segment.next? g s = some t → BreaksAt g t segments k →
      BreaksAt g s (segment :: segments) (k + 1)

structure Note.IsCarried (n : Note) : Prop where
  parts : n.parts = []
  type : n.type? = none
  suggestions : n.suggestions? = none
  complaint : n.complaint? = some .unreachable

def StopsAt (k : Nat) (notes : List Note) : Prop :=
  ∃ before n after, notes = before ++ n :: after ∧ before.length = k ∧
    (∀ m ∈ before, m.type?.isSome = true) ∧
    (∃ c, n.complaint? = some c ∧ c ≠ .unreachable) ∧ n.type? = none ∧
    ∀ m ∈ after, m.IsCarried

structure Note.CarriesForward (n : Note) (g : Ground) (start : Standing)
    (segments : List Segment) : Prop where
  unique : ∀ k k', BreaksAt g start segments k → BreaksAt g start segments k' → k = k'
  stops : ∀ k, BreaksAt g start segments k → StopsAt k n.parts
  goesOn : (∀ k, ¬BreaksAt g start segments k) → ∀ m ∈ n.parts, m.type?.isSome = true
  typed : n.type?.isSome = true ↔ ∀ k, ¬BreaksAt g start segments k

-- A node of a query and where it stands.
inductive Site where
  | path (current : Standing) (inFilter : Bool) (p : Path)
  | segment (current : Standing) (inFilter : Bool) (s : Standing) (segment : Segment)
  | unreached (segment : Segment)
  | group (current : Standing) (inFilter : Bool) (h : Group)

def Segment.sites (g : Ground) (current : Standing) (inFilter : Bool) :
    Option Standing → List Segment → List Site
  | _, [] => []
  | none, segment :: segments => .unreached segment :: sites g current inFilter none segments
  | some s, segment :: segments =>
    .segment current inFilter s segment :: sites g current inFilter (segment.next? g s) segments

def Argument.site? (current : Standing) (inFilter : Bool) : Argument → Option Site
  | .path p => some (.path current inFilter p)
  | _ => none

def Query.site (current : Standing) (inFilter : Bool) : Query → Site
  | .path p => .path current inFilter p
  | .group h => .group current inFilter h

namespace Site

def kind : Site → NodeKind
  | path _ _ _ => .path
  | segment _ _ _ x | unreached x => x.kind
  | group _ _ _ => .group

def text : Site → String
  | path _ _ p => p.text
  | segment _ _ _ x | unreached x => x.text
  | group _ _ h => h.text

def parts (g : Ground) : Site → List Site
  | path current inFilter p =>
    Segment.sites g current inFilter (some (p.origin.standing g current inFilter)) p.segments
  | segment _ _ _ (.field _) => []
  | segment _ _ s (.filter h) => [.group s.element true h]
  | segment current inFilter _ (.call _ arguments) =>
    arguments.filterMap (Argument.site? current inFilter)
  | unreached _ => []
  | group current inFilter h => h.operands.map (Query.site current inFilter)

def CarriesForward (g : Ground) (n : Note) : Site → Prop
  | path current inFilter p =>
    n.CarriesForward g (p.origin.standing g current inFilter) p.segments
  | _ => True

end Site

inductive Mirrors (g : Ground) : Site → Note → Prop
  | intro {x : Site} {n : Note} (kind : n.kind = x.kind) (text : n.text = x.text)
      (forward : x.CarriesForward g n) (parts : List.Forall₂ (Mirrors g) (x.parts g) n.parts) :
      Mirrors g x n

def Segment.partNotes (g : Ground) (current : Standing) (inFilter : Bool) (s : Standing) :
    Segment → List Note
  | .field _ => []
  | .filter h => [h.note g s.element true]
  | .call _ arguments => (Argument.notes g current inFilter arguments).filterMap (·.1)

theorem Segment.note_fst (g : Ground) (current s : Standing) (inFilter : Bool) (segment : Segment) :
    ∃ rootField? complaint?, (segment.note g current inFilter s).1 =
      ⟨segment.text, segment.kind, rootField?, segment.partNotes g current inFilter s, none,
        complaint?, none⟩ := by
  cases segment with
  | field name =>
    rw [Segment.note]
    cases s.field g name <;> exact ⟨_, _, rfl⟩
  | filter h =>
    rw [Segment.note]
    split <;> exact ⟨_, _, rfl⟩
  | call callee arguments =>
    cases callee with
    | unknown name => exact ⟨_, _, rfl⟩
    | known f =>
      rw [Segment.note]
      simp only
      split <;> exact ⟨_, _, rfl⟩

section Breaking

variable {g : Ground} {current s t : Standing} {inFilter : Bool} {segment : Segment}
  {segments : List Segment} {k k' : Nat}

theorem Segment.next?_eq_none_iff : segment.next? g s = none ↔ segment.Breaks g s := by
  cases segment with
  | field name =>
    rw [next?, Breaks]
    cases s.field g name <;> simp [Except.toOption]
  | filter h =>
    rw [next?, Breaks]
    cases s.type.isList <;> simp
  | call callee arguments => cases callee <;> simp [next?, Breaks]

theorem BreaksAt.unique (h : BreaksAt g s segments k) (h' : BreaksAt g s segments k') :
    k = k' := by
  induction h generalizing k' with
  | here hbreaks =>
    cases h' with
    | here _ => rfl
    | behind hnext _ => simp [Segment.next?_eq_none_iff.mpr hbreaks] at hnext
  | behind hnext _ ih =>
    cases h' with
    | here hbreaks => simp [Segment.next?_eq_none_iff.mpr hbreaks] at hnext
    | behind hnext' h' =>
      obtain rfl := Option.some.inj (hnext.symm.trans hnext')
      exact congrArg (· + 1) (ih h')

theorem Segment.note_snd : (segment.note g current inFilter s).2 = segment.next? g s := by
  cases segment with
  | field name =>
    rw [Segment.note, next?]
    cases s.field g name <;> rfl
  | filter h =>
    rw [Segment.note, next?]
    cases s.type.isList with
    | true => rfl
    | false =>
      by_cases hu : s.type.dataType = .unknown
      · simp [hu]
      · simp [hu]
  | call callee arguments =>
    cases callee with
    | unknown name => rfl
    | known f =>
      rw [Segment.note, next?]
      simp only
      split <;> rfl

theorem Standing.field_error {s : Standing} {name : String} {c : Complaint}
    (h : s.field g name = .error c) : c = .notAvailable name ∨ c = .unknownResult name ∨
      c = .noField name ∨ c = .secondList ∨ c = .noRecord name s.type := by
  rw [field] at h
  split at h
  · cases h
    exact .inl rfl
  · split at h
    · split at h
      · cases h
        exact .inr (.inl rfl)
      · cases h
    · split at h
      · cases h
        exact .inr (.inr (.inl rfl))
      · split at h
        · cases h
          exact .inr (.inr (.inr (.inl rfl)))
        · cases h
    · cases h
      exact .inr (.inr (.inr (.inr rfl)))

theorem Standing.field_ne_unreachable (s : Standing) (name : String) :
    s.field g name ≠ .error .unreachable := by
  intro h
  rcases Standing.field_error h with h | h | h | h | h <;> cases h

theorem Segment.Breaks.complaint (h : segment.Breaks g s) :
    ∃ c, (segment.note g current inFilter s).1.complaint? = some c ∧ c ≠ .unreachable := by
  cases segment with
  | field name =>
    obtain ⟨c, hc⟩ := h
    refine ⟨c, by rw [Segment.note]; simp only [hc], ?_⟩
    rintro rfl
    exact s.field_ne_unreachable name hc
  | filter h' =>
    obtain ⟨hlist, hunknown⟩ := h
    refine ⟨.noList s.type, by rw [Segment.note]; simp [hlist, hunknown], ?_⟩
    intro heq
    cases heq
  | call callee arguments =>
    cases callee with
    | known f => exact h.elim
    | unknown name =>
      refine ⟨.unknownFunction name, rfl, ?_⟩
      intro heq
      cases heq

theorem Segment.isCarried_unreachable (segment : Segment) : segment.unreachable.IsCarried :=
  ⟨rfl, rfl, rfl, rfl⟩

theorem Segment.notes_next (h : segment.next? g s = some t) :
    Segment.notes g current inFilter s (segment :: segments) =
      ((segment.note g current inFilter s).1.leadingTo (some t) ::
          (Segment.notes g current inFilter t segments).1,
        (Segment.notes g current inFilter t segments).2) :=
  Segment.notes_cons_some g current inFilter segments (Segment.note_snd.trans h)

theorem Segment.notes_breaks (h : segment.Breaks g s) :
    Segment.notes g current inFilter s (segment :: segments) =
      ((segment.note g current inFilter s).1 :: segments.map Segment.unreachable, none) := by
  have hnext : (segment.note g current inFilter s).2 = none :=
    Segment.note_snd.trans (Segment.next?_eq_none_iff.mpr h)
  rw [Segment.notes]
  simp only [hnext]

theorem StopsAt.cons {n : Note} {notes : List Note} (hn : n.type?.isSome = true)
    (h : StopsAt k notes) : StopsAt (k + 1) (n :: notes) := by
  obtain ⟨before, m, after, rfl, rfl, htyped, hrest⟩ := h
  exact ⟨n :: before, m, after, rfl, rfl, List.forall_mem_cons.mpr ⟨hn, htyped⟩, hrest⟩

theorem BreaksAt.notes (h : BreaksAt g s segments k) :
    (Segment.notes g current inFilter s segments).2 = none ∧
      StopsAt k (Segment.notes g current inFilter s segments).1 := by
  induction h with
  | @here s segment segments hbreaks =>
    have htype : (segment.note g current inFilter s).1.type? = none := by
      obtain ⟨_, _, heq⟩ := segment.note_fst g current s inFilter
      rw [heq]
    rw [Segment.notes_breaks hbreaks]
    refine ⟨rfl, [], _, _, rfl, rfl, nofun, hbreaks.complaint, htype, ?_⟩
    intro m hm
    obtain ⟨x, -, rfl⟩ := List.mem_map.mp hm
    exact x.isCarried_unreachable
  | behind hnext _ ih =>
    obtain ⟨hlast, hstops⟩ := ih
    rw [Segment.notes_next hnext]
    exact ⟨hlast, hstops.cons rfl⟩

theorem Segment.notes_of_not_breaks (h : ∀ k, ¬BreaksAt g s segments k) :
    (Segment.notes g current inFilter s segments).2.isSome = true ∧
      ∀ m ∈ (Segment.notes g current inFilter s segments).1, m.type?.isSome = true := by
  induction segments generalizing s with
  | nil => exact ⟨rfl, nofun⟩
  | cons segment segments ih =>
    cases hnext : segment.next? g s with
    | none => exact absurd (.here (Segment.next?_eq_none_iff.mp hnext)) (h 0)
    | some t =>
      obtain ⟨hlast, htyped⟩ := ih fun k hk => h (k + 1) (.behind hnext hk)
      rw [Segment.notes_next hnext]
      exact ⟨hlast, List.forall_mem_cons.mpr ⟨rfl, htyped⟩⟩

theorem Path.parts_note (p : Path) : (p.note g current inFilter).parts =
    (Segment.notes g current inFilter (p.origin.standing g current inFilter) p.segments).1 := by
  cases p
  rfl

theorem Path.note_carriesForward (p : Path) : (p.note g current inFilter).CarriesForward g
    (p.origin.standing g current inFilter) p.segments where
  unique _ _ := BreaksAt.unique
  stops _ h := by
    rw [Path.parts_note]
    exact h.notes.2
  goesOn h := by
    rw [Path.parts_note]
    exact (Segment.notes_of_not_breaks h).2
  typed := by
    rw [Path.type?_note, Option.isSome_map]
    constructor
    · intro htyped k hk
      have hlast : (Segment.notes g current inFilter _ p.segments).2 = none := hk.notes.1
      rw [hlast] at htyped
      cases htyped
    · exact fun h => (Segment.notes_of_not_breaks h).1

end Breaking

section Mirroring

variable {g : Ground} {current : Standing} {inFilter : Bool}

theorem Mirrors.leadingTo {s t : Standing} {segment : Segment} {n : Note}
    (h : Mirrors g (.segment current inFilter s segment) n) :
    Mirrors g (.segment current inFilter s segment) (n.leadingTo (some t)) := by
  cases h with
  | intro kind text forward parts => exact .intro kind text trivial parts

theorem Mirrors.withComplaint {x : Site} {n : Note} (h : Mirrors g x n)
    (complaint? : Option Complaint) : Mirrors g x { n with complaint? := complaint? } := by
  cases h with
  | intro kind text forward parts =>
    refine .intro kind text ?_ parts
    cases x with
    | path current inFilter p => exact ⟨forward.unique, forward.stops, forward.goesOn, forward.typed⟩
    | _ => trivial

theorem Mirrors.asOperand {x : Site} {n : Note} (h : Mirrors g x n) : Mirrors g x n.asOperand := by
  rw [Note.asOperand]
  split
  · split
    · exact h
    · exact h.withComplaint _
  · exact h

theorem Segment.unreachable_mirrors (segment : Segment) :
    Mirrors g (.unreached segment) segment.unreachable :=
  .intro rfl rfl trivial .nil

theorem Segment.unreachable_mirror (segments : List Segment) :
    List.Forall₂ (Mirrors g) (Segment.sites g current inFilter none segments)
      (segments.map Segment.unreachable) := by
  induction segments with
  | nil => exact .nil
  | cons segment segments ih => exact .cons segment.unreachable_mirrors ih

mutual

theorem Path.note_mirrors : ∀ (p : Path) (current : Standing) (inFilter : Bool),
    Mirrors g (.path current inFilter p) (p.note g current inFilter)
  | ⟨origin, isOperand, asPredicate, segments⟩, current, inFilter =>
    .intro rfl rfl (Path.note_carriesForward ⟨origin, isOperand, asPredicate, segments⟩)
      (Segment.notes_mirror segments current (origin.standing g current inFilter) inFilter)
termination_by structural p => p

theorem Segment.notes_mirror : ∀ (segments : List Segment) (current s : Standing)
    (inFilter : Bool), List.Forall₂ (Mirrors g) (Segment.sites g current inFilter (some s) segments)
      (Segment.notes g current inFilter s segments).1
  | [], _, _, _ => .nil
  | segment :: segments, current, s, inFilter => by
    have hfirst := Segment.note_mirrors segment current s inFilter
    rw [Segment.sites]
    cases hnext : segment.next? g s with
    | some t =>
      rw [Segment.notes_next hnext]
      exact .cons hfirst.leadingTo (Segment.notes_mirror segments current t inFilter)
    | none =>
      -- The segment itself is noted with its parts; only those behind it are not.
      rw [Segment.notes_breaks (Segment.next?_eq_none_iff.mp hnext)]
      exact .cons hfirst (Segment.unreachable_mirror segments)
termination_by structural segments => segments

theorem Segment.note_mirrors : ∀ (segment : Segment) (current s : Standing) (inFilter : Bool),
    Mirrors g (.segment current inFilter s segment) (segment.note g current inFilter s).1
  | .field name, current, s, inFilter => by
    obtain ⟨root?, complaint?, heq⟩ := (Segment.field name).note_fst g current s inFilter
    rw [heq]
    exact .intro rfl rfl trivial .nil
  | .filter h, current, s, inFilter => by
    obtain ⟨root?, complaint?, heq⟩ := (Segment.filter h).note_fst g current s inFilter
    rw [heq]
    exact .intro rfl rfl trivial (.cons (Group.note_mirrors h s.element true) .nil)
  | .call callee arguments, current, s, inFilter => by
    obtain ⟨root?, complaint?, heq⟩ := (Segment.call callee arguments).note_fst g current s inFilter
    rw [heq]
    exact .intro rfl rfl trivial (Argument.notes_mirror arguments current inFilter)
termination_by structural segment => segment

theorem Argument.notes_mirror : ∀ (arguments : List Argument) (current : Standing)
    (inFilter : Bool), List.Forall₂ (Mirrors g)
      (arguments.filterMap (Argument.site? current inFilter))
      ((Argument.notes g current inFilter arguments).filterMap (·.1))
  | [], _, _ => .nil
  | .path p :: arguments, current, inFilter =>
    .cons (Path.note_mirrors p current inFilter) (Argument.notes_mirror arguments current inFilter)
  | .number _ _ :: arguments, current, inFilter => Argument.notes_mirror arguments current inFilter
  | .string _ :: arguments, current, inFilter => Argument.notes_mirror arguments current inFilter
  | .bool _ :: arguments, current, inFilter => Argument.notes_mirror arguments current inFilter
termination_by structural arguments => arguments

theorem Group.note_mirrors : ∀ (h : Group) (current : Standing) (inFilter : Bool),
    Mirrors g (.group current inFilter h) (h.note g current inFilter)
  | ⟨_, _, _, operands⟩, current, inFilter =>
    .intro rfl rfl trivial (Query.notes_mirror operands current inFilter)
termination_by structural h => h

theorem Query.notes_mirror : ∀ (operands : List Query) (current : Standing) (inFilter : Bool),
    List.Forall₂ (Mirrors g) (operands.map (Query.site current inFilter))
      (Query.notes g current inFilter operands)
  | [], _, _ => .nil
  | q :: operands, current, inFilter =>
    .cons (Query.operandNote_mirrors q current inFilter)
      (Query.notes_mirror operands current inFilter)
termination_by structural operands => operands

theorem Query.operandNote_mirrors : ∀ (q : Query) (current : Standing) (inFilter : Bool),
    Mirrors g (q.site current inFilter) (q.operandNote g current inFilter)
  | .path p, current, inFilter => (Path.note_mirrors p current inFilter).asOperand
  | .group h, current, inFilter => Group.note_mirrors h current inFilter
termination_by structural q => q

end

theorem Query.validate_mirrors (g : Ground) (q : Query) :
    Mirrors g (q.site g.standing false) (q.validate g).note := by
  cases q with
  | path p => exact Path.note_mirrors p g.standing false
  | group h => exact Group.note_mirrors h g.standing false

end Mirroring

end PathQuery
