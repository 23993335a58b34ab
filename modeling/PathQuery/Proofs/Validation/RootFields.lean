import PathQuery.Proofs.Dependency.Soundness
import PathQuery.Proofs.Validation.Whole

namespace PathQuery

section Fields

theorem Note.rootFields_leadingTo (n : Note) (next : Option Standing) :
    (n.leadingTo next).rootFields = n.rootFields := by
  cases n
  cases next <;> rfl

theorem Note.rootFields_asOperand (n : Note) : n.asOperand.rootFields = n.rootFields := by
  rw [Note.asOperand]
  split
  · split
    · rfl
    · cases n; rfl
  · rfl

theorem Segment.allRootFields_unreachable (segments : List Segment) :
    Note.allRootFields (segments.map Segment.unreachable) = [] := by
  induction segments with
  | nil => rfl
  | cons s segments ih => exact ih

variable (g : Ground) (current s : Standing) (inFilter : Bool)

theorem Segment.allRootFields_notes_cons (segment : Segment) (segments : List Segment) :
    Note.allRootFields (Segment.notes g current inFilter s (segment :: segments)).1 =
      (segment.note g current inFilter s).1.rootFields ++
        ((segment.note g current inFilter s).2.map fun t =>
          Note.allRootFields (Segment.notes g current inFilter t segments).1).getD [] := by
  rw [Segment.notes]
  cases hn : (segment.note g current inFilter s).2 with
  | none => simp [hn, Note.allRootFields, Segment.allRootFields_unreachable]
  | some t => simp [hn, Note.allRootFields, Note.rootFields_leadingTo]

theorem Segment.rootFields_field (name : String) :
    ((Segment.field name).note g current inFilter s).1.rootFields =
      if s.atRoot then [name] else [] := by
  rw [Segment.note]
  split <;> cases s.atRoot <;> rfl

theorem Segment.rootFields_filter (group : Group) :
    ((Segment.filter group).note g current inFilter s).1.rootFields =
      (group.note g s.element true).rootFields := by
  rw [Segment.note]
  split <;> exact List.append_nil _

theorem Segment.rootFields_call (callee : Callee) (arguments : List Argument) :
    ((Segment.call callee arguments).note g current inFilter s).1.rootFields =
      Note.allRootFields ((Argument.notes g current inFilter arguments).filterMap (·.1)) := by
  cases callee with
  | unknown name => rfl
  | known f =>
    rw [Segment.note]
    simp only
    split <;> rfl

theorem Path.rootFields_note (p : Path) : (p.note g current inFilter).rootFields =
    Note.allRootFields
      (Segment.notes g current inFilter (p.origin.standing g current inFilter) p.segments).1 := by
  cases p
  rfl

end Fields

theorem Group.rootFields_note (g : Ground) (current : Standing) (inFilter : Bool) (group : Group) :
    (group.note g current inFilter).rootFields =
      Note.allRootFields (Query.notes g current inFilter group.operands) := by
  cases group
  rfl

def Starts (name : String) (chains : List Chain) : Prop := ∃ c ∈ chains, c.head? = some name

theorem Starts.mono {name : String} {chains chains' : List Chain} (h : Starts name chains)
    (hsub : ∀ c ∈ chains, c ∈ chains') : Starts name chains' := by
  obtain ⟨c, hc, hname⟩ := h
  exact ⟨c, hsub c hc, hname⟩

theorem starts_append {name : String} {chains chains' : List Chain} :
    Starts name (chains ++ chains') ↔ Starts name chains ∨ Starts name chains' := by
  simp only [Starts, List.mem_append, or_and_right, exists_or]

theorem starts_singleton {name : String} {chain : Chain} :
    Starts name [chain] ↔ chain.head? = some name := by
  simp only [Starts, List.mem_singleton, exists_eq_left]

theorem starts_pair {name : String} {chain along : Chain} :
    Starts name [chain, along] ↔ chain.head? = some name ∨ along.head? = some name := by
  have hsplit := @starts_append name [chain] [along]
  rwa [starts_singleton, starts_singleton] at hsplit

theorem head?_append_of_ne_nil {chain : Chain} (rest : Chain) (h : chain ≠ []) :
    (chain ++ rest).head? = chain.head? := by
  cases chain with
  | nil => exact absurd rfl h
  | cons first chain => rfl

theorem starts_chainsAlong {name : String} {along : Chain} (chain : Chain) (isOpen : Bool)
    (segments : List Segment) (h : along.head? = some name) :
    Starts name (Segment.chainsAlong chain along isOpen segments) := by
  have halong : along ≠ [] := by
    rintro rfl
    cases h
  have hhead := (head?_append_of_ne_nil (Segment.left isOpen segments) halong).trans h
  refine ⟨_, Segment.mem_chainsAlong chain segments ?_, hhead⟩
  exact fun hnil => halong (List.append_eq_nil_iff.mp hnil).1

def WholeAtHand (g : Ground) (current : Standing) (inFilter : Bool) (chain : Chain) : Prop :=
  inFilter = false → current = g.standing ∧ chain = []

def Unread (g : Ground) (s : Standing) (along : Chain) (isOpen : Bool) : Prop :=
  s.atRoot = true → s = g.standing ∧ along = [] ∧ isOpen = true

section Names

variable {g : Ground} {current s t : Standing} {inFilter isOpen : Bool} {chain along : Chain}

theorem Unread.of_next {segment : Segment}
    (hg : g.standing.type = .single .record) (h : Unread g s along isOpen)
    (hn : (segment.note g current inFilter s).2 = some t) : t.atRoot = false := by
  rcases Segment.note_next hn with ht | ⟨rfl, hs⟩
  · exact ht
  · by_cases hroot : t.atRoot = true
    · obtain ⟨rfl, -, -⟩ := h hroot
      exact absurd hg hs
    · exact Bool.eq_false_iff.mpr hroot

theorem WholeAtHand.unread (h : WholeAtHand g current inFilter chain) (origin : Origin) :
    Unread g (origin.standing g current inFilter)
      (match origin with | .root => [] | .current => chain) true := by
  cases origin with
  | root => exact fun _ => ⟨rfl, rfl, rfl⟩
  | current =>
    intro hroot
    cases inFilter with
    | true => cases hroot
    | false =>
      obtain ⟨rfl, rfl⟩ := h rfl
      exact ⟨rfl, rfl, rfl⟩

end Names

section Recorded

variable {g : Ground}

mutual

theorem Path.starts_of_rootFields (hg : g.standing.type = .single .record) : ∀ (p : Path)
    {current : Standing} {inFilter : Bool} {chain : Chain}, WholeAtHand g current inFilter chain →
    ∀ name ∈ (p.note g current inFilter).rootFields, Starts name (p.chains chain)
  | ⟨.root, isOperand, asPredicate, segments⟩, _, _, _, h, name, hname => by
    rw [Path.rootFields_note] at hname
    exact Segment.starts_of_allRootFields hg segments h (h.unread .root) name hname
  | ⟨.current, isOperand, asPredicate, segments⟩, _, _, _, h, name, hname => by
    rw [Path.rootFields_note] at hname
    exact Segment.starts_of_allRootFields hg segments h (h.unread .current) name hname
termination_by structural p => p

theorem Segment.starts_of_allRootFields (hg : g.standing.type = .single .record) :
    ∀ (segments : List Segment) {current s : Standing} {inFilter isOpen : Bool}
    {chain along : Chain}, WholeAtHand g current inFilter chain →
    Unread g s along isOpen →
    ∀ name ∈ Note.allRootFields (Segment.notes g current inFilter s segments).1,
      Starts name (Segment.chainsAlong chain along isOpen segments)
  | [], _, _, _, _, _, _, _, _, name, hname => absurd hname List.not_mem_nil
  | segment :: segments, current, s, inFilter, isOpen, chain, along, h, hs, name, hname => by
    rw [Segment.allRootFields_notes_cons] at hname
    rw [Segment.chainsAlong, starts_append]
    rcases List.mem_append.mp hname with hown | hrest
    · rcases Segment.starts_of_rootFields hg segment h hs name hown with hown | hhead
      · exact .inl hown
      · exact .inr (starts_chainsAlong chain _ segments hhead)
    · cases hn : (segment.note g current inFilter s).2 with
      | none => simp [hn] at hrest
      | some t =>
        rw [hn] at hrest
        have ht := hs.of_next hg hn
        refine .inr (Segment.starts_of_allRootFields hg segments h ?_ name hrest)
        intro hroot
        rw [ht] at hroot
        cases hroot
termination_by structural segments => segments

-- The chain of the path goes on with the name, or a part of the segment starts with it.
theorem Segment.starts_of_rootFields (hg : g.standing.type = .single .record) :
    ∀ (segment : Segment) {current s : Standing} {inFilter isOpen : Bool}
    {chain along : Chain}, WholeAtHand g current inFilter chain →
    Unread g s along isOpen → ∀ name ∈ (segment.note g current inFilter s).1.rootFields,
      Starts name (segment.ownChains chain along) ∨
        (segment.extend along isOpen).head? = some name
  | .field field, current, s, inFilter, _, _, _, _, hs, name, hname => by
    rw [Segment.rootFields_field] at hname
    split at hname
    · next hroot =>
      obtain ⟨rfl, rfl, rfl⟩ := hs hroot
      obtain rfl := List.mem_singleton.mp hname
      exact .inr rfl
    · exact absurd hname List.not_mem_nil
  | .filter group, current, s, inFilter, _, _, along, _, _, name, hname => by
    rw [Segment.rootFields_filter] at hname
    have helement : WholeAtHand g s.element true along := nofun
    exact .inl (Group.starts_of_rootFields hg group helement name hname)
  | .call callee arguments, current, s, inFilter, _, _, _, h, _, name, hname => by
    rw [Segment.rootFields_call] at hname
    exact .inl (Argument.starts_of_allRootFields hg arguments h name hname)
termination_by structural segment => segment

theorem Argument.starts_of_allRootFields (hg : g.standing.type = .single .record) :
    ∀ (arguments : List Argument) {current : Standing} {inFilter : Bool} {chain : Chain},
    WholeAtHand g current inFilter chain →
    ∀ name ∈ Note.allRootFields ((Argument.notes g current inFilter arguments).filterMap (·.1)),
      Starts name (Argument.allChains chain arguments)
  | [], _, _, _, _, name, hname => absurd hname List.not_mem_nil
  | a :: arguments, current, inFilter, _, h, name, hname => by
    rw [Argument.allChains, starts_append]
    have hfirst := Argument.starts_of_rootFields hg a h name
    have hrest := Argument.starts_of_allRootFields hg arguments h name
    rw [Argument.notes, List.filterMap_cons] at hname
    cases hn : (a.note g current inFilter).1 with
    | none =>
      rw [hn] at hname
      exact .inr (hrest hname)
    | some n =>
      rw [hn] at hname
      exact (List.mem_append.mp hname).imp (hfirst n hn) hrest
termination_by structural arguments => arguments

theorem Argument.starts_of_rootFields (hg : g.standing.type = .single .record) : ∀ (a : Argument)
    {current : Standing} {inFilter : Bool} {chain : Chain}, WholeAtHand g current inFilter chain →
    ∀ (name : String) (n : Note), (a.note g current inFilter).1 = some n → name ∈ n.rootFields →
    Starts name (a.chains chain)
  | .number _ _, _, _, _, _, _, _, hn, _ => nomatch hn
  | .string _, _, _, _, _, _, _, hn, _ => nomatch hn
  | .bool _, _, _, _, _, _, _, hn, _ => nomatch hn
  | .path p, _, _, _, h, name, n, hn, hname => by
    obtain rfl := Option.some.inj hn
    exact Path.starts_of_rootFields hg p h name hname
termination_by structural a => a

theorem Group.starts_of_rootFields (hg : g.standing.type = .single .record) : ∀ (group : Group)
    {current : Standing} {inFilter : Bool} {chain : Chain}, WholeAtHand g current inFilter chain →
    ∀ name ∈ (group.note g current inFilter).rootFields, Starts name (group.chains chain)
  | ⟨operator, isExplicit, isBraced, operands⟩, _, _, _, h, name, hname => by
    rw [Group.rootFields_note] at hname
    exact Query.starts_of_allRootFields hg operands h name hname
termination_by structural group => group

theorem Query.starts_of_allRootFields (hg : g.standing.type = .single .record) :
    ∀ (operands : List Query) {current : Standing} {inFilter : Bool} {chain : Chain},
    WholeAtHand g current inFilter chain →
    ∀ name ∈ Note.allRootFields (Query.notes g current inFilter operands),
      Starts name (Query.allChains chain operands)
  | [], _, _, _, _, name, hname => absurd hname List.not_mem_nil
  | q :: operands, _, _, _, h, name, hname => by
    rw [Query.allChains, starts_append]
    rw [Query.notes, Note.allRootFields, List.mem_append] at hname
    exact hname.imp (Query.starts_of_rootFields hg q h name)
      (Query.starts_of_allRootFields hg operands h name)
termination_by structural operands => operands

theorem Query.starts_of_rootFields (hg : g.standing.type = .single .record) : ∀ (q : Query)
    {current : Standing} {inFilter : Bool} {chain : Chain}, WholeAtHand g current inFilter chain →
    ∀ name ∈ (q.operandNote g current inFilter).rootFields, Starts name (q.chains chain)
  | .path p, _, _, _, h, name, hname => by
    rw [Query.operandNote, Note.rootFields_asOperand] at hname
    exact Path.starts_of_rootFields hg p h name hname
  | .group group, _, _, _, h, name, hname => Group.starts_of_rootFields hg group h name hname
termination_by structural q => q

end

end Recorded

end PathQuery
