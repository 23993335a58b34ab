import PathQuery.Proofs.Grammar.Reading
import PathQuery.Proofs.Validation.RootFields

namespace PathQuery

theorem Segment.extend_eq_append (segment : Segment) (along : Chain) (isOpen : Bool) :
    ∃ rest, segment.extend along isOpen = along ++ rest := by
  cases segment with
  | field name =>
    cases isOpen with
    | true => exact ⟨[name], rfl⟩
    | false => exact ⟨[], (List.append_nil along).symm⟩
  | filter group => exact ⟨[], (List.append_nil along).symm⟩
  | call callee arguments => exact ⟨[], (List.append_nil along).symm⟩

def Standing.IsClosed (s : Standing) : Prop :=
  s.type.dataType ≠ .record ∧ (s.type.dataType = .unknown → s.isResult = true)

section Closed

variable {g : Ground} {s t : Standing} {name : String}

theorem Standing.IsClosed.field_ne (h : s.IsClosed) : s.field g name ≠ .ok t := by
  intro hf
  simp only [Standing.field] at hf
  split at hf
  · cases hf
  · split at hf
    · next hd =>
      rw [h.2 hd] at hf
      cases hf
    · next hd => exact h.1 hd
    · cases hf

theorem Standing.IsClosed.result (h : s.IsClosed) (r : ReturnType) : (s.result r).IsClosed := by
  cases r with
  | element => exact h
  | unknown => exact ⟨nofun, fun _ => rfl⟩
  | bool => exact ⟨nofun, nofun⟩
  | number => exact ⟨nofun, nofun⟩
  | string => exact ⟨nofun, nofun⟩

theorem Standing.isClosed_of_record {f : Builtin} {types : List (Option ResolvedType)}
    (hs : s.type = .single .record) (h : callComplaints f s.type types = []) :
    (s.result f.signature.returns).IsClosed := by
  rw [hs] at h
  rcases (callComplaints_record h).1 with rfl | rfl | rfl
  all_goals exact ⟨nofun, nofun⟩

end Closed

structure Placed (g : Ground) (current : Standing) (inFilter : Bool) (chain : Chain) : Prop where
  whole : WholeAtHand g current inFilter chain
  read : inFilter = true → chain ≠ [] ∨ current.IsClosed

structure Progress (g : Ground) (s : Standing) (along : Chain) (isOpen : Bool) : Prop where
  unread : Unread g s along isOpen
  read : s.atRoot = false → along ≠ [] ∨ s.IsClosed

-- All names may be read, and each chain starts with one of them or as a chain known before.
structure Accounts (g : Ground) (names : List String) (known chains : List Chain) : Prop where
  free : ∀ name ∈ names, g.isBlocked name = false
  heads : ∀ name, Starts name chains → name ∈ names ∨ Starts name known

section Steps

variable {g : Ground} {current s t : Standing} {inFilter isOpen : Bool} {chain along : Chain}
  {names names' : List String} {known known' chains chains' : List Chain}

theorem Accounts.nil : Accounts g [] known [] := ⟨nofun, fun _ ⟨_, hc, _⟩ => nomatch hc⟩

theorem Accounts.append (h : Accounts g names known chains) (h' : Accounts g names' known chains') :
    Accounts g (names ++ names') known (chains ++ chains') := by
  refine ⟨fun name hname => ?_, fun name hname => ?_⟩
  · exact (List.mem_append.mp hname).elim (h.free name) (h'.free name)
  · rw [List.mem_append]
    rcases starts_append.mp hname with hname | hname
    · exact (h.heads name hname).imp_left .inl
    · exact (h'.heads name hname).imp_left .inr

theorem Accounts.mono (h : Accounts g names known chains)
    (hsub : ∀ name, Starts name known → Starts name known') : Accounts g names known' chains :=
  ⟨h.free, fun name hname => (h.heads name hname).imp_right (hsub name)⟩

theorem Accounts.cons {name : String} (h : Accounts g names [chain, [name]] chains)
    (hfree : g.isBlocked name = false) : Accounts g (name :: names) [chain, along] chains := by
  refine ⟨List.forall_mem_cons.mpr ⟨hfree, h.free⟩, fun n hn => ?_⟩
  rcases h.heads n hn with hmem | hknown
  · exact .inl (List.mem_cons_of_mem name hmem)
  · rcases starts_pair.mp hknown with hhead | hhead
    · exact .inr (starts_pair.mpr (.inl hhead))
    · obtain rfl := Option.some.inj hhead
      exact .inl (List.mem_cons_self ..)

theorem Placed.progress (h : Placed g current inFilter chain) (origin : Origin) :
    Progress g (origin.standing g current inFilter)
      (match origin with | .root => [] | .current => chain) true := by
  refine ⟨h.whole.unread origin, fun hroot => ?_⟩
  cases origin with
  | root => cases hroot
  | current =>
    cases inFilter with
    | true => exact h.read rfl
    | false => cases hroot

theorem Progress.of_read (hroot : t.atRoot = false) (h : along ≠ [] ∨ t.IsClosed) :
    Progress g t along isOpen := by
  refine ⟨fun ht => ?_, fun _ => h⟩
  rw [hroot] at ht
  cases ht

theorem Placed.element (h : along ≠ [] ∨ s.IsClosed) : Placed g s.element true along :=
  ⟨fun hf => Bool.noConfusion hf, fun _ => h⟩

theorem Progress.call {f : Builtin} {types : List (Option ResolvedType)}
    (hg : g.standing.type = .single .record) (h : Progress g s along isOpen)
    (hcall : callComplaints f s.type types = []) :
    along ≠ [] ∨ (s.result f.signature.returns).IsClosed := by
  by_cases hroot : s.atRoot = true
  · obtain ⟨rfl, -, -⟩ := h.unread hroot
    exact .inr (Standing.isClosed_of_record hg hcall)
  · exact (h.read (Bool.eq_false_iff.mpr hroot)).imp_right fun hs => hs.result _

theorem Progress.filter (hg : g.standing.type = .single .record) (h : Progress g s along isOpen)
    (hlist : s.type.isList = true ∨ s.type.dataType = .unknown) : s.atRoot = false := by
  by_cases hroot : s.atRoot = true
  · obtain ⟨rfl, -, -⟩ := h.unread hroot
    rw [hg] at hlist
    exact hlist.elim nofun nofun
  · exact Bool.eq_false_iff.mpr hroot

end Steps

section Complete

variable {g : Ground}

mutual

theorem Path.accounts (hg : g.standing.type = .single .record) : ∀ (p : Path)
    {current : Standing} {inFilter : Bool} {chain : Chain}, Placed g current inFilter chain →
    (p.note g current inFilter).complaints = [] →
    Accounts g (p.note g current inFilter).rootFields [chain] (p.chains chain)
  | ⟨.root, isOperand, asPredicate, segments⟩, _, _, chain, h, hc => by
    rw [Path.complaints_note] at hc
    rw [Path.rootFields_note]
    refine (Segment.accountsAll hg segments h (h.progress .root) hc).mono fun name hname => ?_
    exact starts_singleton.mpr ((starts_pair.mp hname).resolve_right nofun)
  | ⟨.current, isOperand, asPredicate, segments⟩, _, _, chain, h, hc => by
    rw [Path.complaints_note] at hc
    rw [Path.rootFields_note]
    refine (Segment.accountsAll hg segments h (h.progress .current) hc).mono fun name hname => ?_
    exact starts_singleton.mpr ((starts_pair.mp hname).elim id id)
termination_by structural p => p

theorem Segment.accountsAll (hg : g.standing.type = .single .record) : ∀ (segments : List Segment)
    {current s : Standing} {inFilter isOpen : Bool} {chain along : Chain},
    Placed g current inFilter chain → Progress g s along isOpen →
    Note.allComplaints (Segment.notes g current inFilter s segments).1 = [] →
    Accounts g (Note.allRootFields (Segment.notes g current inFilter s segments).1)
      [chain, along] (Segment.chainsAlong chain along isOpen segments)
  | [], _, _, _, isOpen, chain, along, _, _, _ => by
    refine ⟨nofun, fun name hname => .inr ?_⟩
    rw [Segment.chainsAlong] at hname
    split at hname
    · exact hname.mono nofun
    · exact hname.mono fun c hmem => List.mem_cons_of_mem _ hmem
  | segment :: segments, current, s, inFilter, isOpen, chain, along, h, hs, hc => by
    have hfirst := Segment.complaints_notes_cons g current inFilter hc
    obtain ⟨t, hn, hrest, hown⟩ := Segment.accounts hg segment h hs hfirst
    rw [Segment.notes_cons_some g current inFilter segments hn] at hc
    have hc' := (List.append_eq_nil_iff.mp hc).2
    have hrest := Segment.accountsAll hg segments h hrest hc'
    rw [Segment.allRootFields_notes_cons, hn]
    exact hown hrest
termination_by structural segments => segments

theorem Segment.accounts (hg : g.standing.type = .single .record) : ∀ (segment : Segment)
    {current s : Standing} {inFilter isOpen : Bool} {chain along : Chain},
    Placed g current inFilter chain → Progress g s along isOpen →
    (segment.note g current inFilter s).1.complaints = [] →
    ∃ t, (segment.note g current inFilter s).2 = some t ∧
      Progress g t (segment.extend along isOpen) (isOpen && segment.keepsOpen) ∧
      ∀ {names : List String} {chains : List Chain},
        Accounts g names [chain, segment.extend along isOpen] chains →
        Accounts g ((segment.note g current inFilter s).1.rootFields ++ names) [chain, along]
          (segment.ownChains chain along ++ chains)
  | .field name, current, s, inFilter, isOpen, chain, along, h, hs, hc => by
    obtain ⟨t, hf, hn⟩ := Segment.note_field g current inFilter hc
    rw [Segment.rootFields_field]
    by_cases hroot : s.atRoot = true
    · obtain ⟨-, rfl, rfl⟩ := hs.unread hroot
      refine ⟨t, hn, .of_read (Standing.atRoot_field hf) (.inl nofun), fun hrest => ?_⟩
      rw [if_pos hroot]
      exact hrest.cons (Standing.free_of_field hroot hf)
    · -- Behind the document nothing is noted, and the chain that was started goes on.
      have hread := hs.read (Bool.eq_false_iff.mpr hroot)
      have halong := hread.resolve_right fun hclosed => hclosed.field_ne hf
      obtain ⟨rest, hextend⟩ := Segment.extend_eq_append (.field name) along isOpen
      rw [if_neg hroot, hextend]
      refine ⟨t, hn, .of_read (Standing.atRoot_field hf) (.inl ?_), fun hrest => ?_⟩
      · exact fun hnil => halong (List.append_eq_nil_iff.mp hnil).1
      · refine hrest.mono fun n hn => starts_pair.mpr ?_
        rw [← head?_append_of_ne_nil rest halong]
        exact starts_pair.mp hn
  | .filter group, current, s, inFilter, isOpen, chain, along, h, hs, hc => by
    obtain ⟨hlist, hgroup, hn⟩ := Segment.note_filter g current inFilter hc
    have hroot := hs.filter hg hlist
    have hread := hs.read hroot
    rw [Segment.rootFields_filter]
    refine ⟨s, hn, .of_read hroot hread, fun hrest => .append ?_ hrest⟩
    exact (Group.accounts hg group (.element hread) hgroup).mono fun name hname =>
      starts_pair.mpr (.inr (starts_singleton.mp hname))
  | .call (.unknown name) arguments, current, s, inFilter, _, _, _, _, _, hc =>
    absurd hc (Segment.note_unknown g current inFilter)
  | .call (.known f) arguments, current, s, inFilter, isOpen, chain, along, h, hs, hc => by
    obtain ⟨hcall, hargs, hn⟩ := Segment.note_call g current inFilter hc
    rw [Segment.rootFields_call]
    refine ⟨_, hn, .of_read (Standing.atRoot_result ..) (hs.call hg hcall), fun hrest =>
      .append ?_ hrest⟩
    exact (Argument.accountsAll hg arguments h hargs).mono fun name hname =>
      starts_pair.mpr (.inl (starts_singleton.mp hname))
termination_by structural segment => segment

theorem Argument.accountsAll (hg : g.standing.type = .single .record) :
    ∀ (arguments : List Argument) {current : Standing} {inFilter : Bool} {chain : Chain},
    Placed g current inFilter chain →
    (∀ n ∈ (Argument.notes g current inFilter arguments).filterMap (·.1), n.complaints = []) →
    Accounts g
      (Note.allRootFields ((Argument.notes g current inFilter arguments).filterMap (·.1)))
      [chain] (Argument.allChains chain arguments)
  | [], _, _, _, _, _ => .nil
  | a :: arguments, current, inFilter, _, h, hc => by
    obtain ⟨hnote, hnotes⟩ := (Argument.forall_notes_cons g current inFilter).mp hc
    have hfirst := Argument.accounts hg a h hnote
    have hrest := Argument.accountsAll hg arguments h hnotes
    have hall := hfirst.append hrest
    rw [Argument.notes, List.filterMap_cons]
    cases hn : (a.note g current inFilter).1 with
    | none =>
      rw [hn] at hall
      exact hall
    | some n =>
      rw [hn] at hall
      exact hall
termination_by structural arguments => arguments

theorem Argument.accounts (hg : g.standing.type = .single .record) : ∀ (a : Argument)
    {current : Standing} {inFilter : Bool} {chain : Chain}, Placed g current inFilter chain →
    (∀ n, (a.note g current inFilter).1 = some n → n.complaints = []) →
    Accounts g (((a.note g current inFilter).1.map Note.rootFields).getD []) [chain]
      (a.chains chain)
  | .number _ _, _, _, _, _, _ => .nil
  | .string _, _, _, _, _, _ => .nil
  | .bool _, _, _, _, _, _ => .nil
  | .path p, _, _, _, h, hc => Path.accounts hg p h (hc _ rfl)
termination_by structural a => a

theorem Group.accounts (hg : g.standing.type = .single .record) : ∀ (group : Group)
    {current : Standing} {inFilter : Bool} {chain : Chain}, Placed g current inFilter chain →
    (group.note g current inFilter).complaints = [] →
    Accounts g (group.note g current inFilter).rootFields [chain] (group.chains chain)
  | ⟨operator, isExplicit, isBraced, operands⟩, current, inFilter, _, h, hc => by
    rw [Group.rootFields_note]
    exact Query.accountsAll hg operands h (Group.note_complaints g current inFilter hc).2
termination_by structural group => group

theorem Query.accountsAll (hg : g.standing.type = .single .record) : ∀ (operands : List Query)
    {current : Standing} {inFilter : Bool} {chain : Chain}, Placed g current inFilter chain →
    (∀ n ∈ Query.notes g current inFilter operands, n.complaints = []) →
    Accounts g (Note.allRootFields (Query.notes g current inFilter operands)) [chain]
      (Query.allChains chain operands)
  | [], _, _, _, _, _ => .nil
  | q :: operands, _, _, _, h, hc => by
    rw [Query.notes, List.forall_mem_cons] at hc
    rw [Query.notes, Note.allRootFields]
    exact (Query.accounts hg q h hc.1).append (Query.accountsAll hg operands h hc.2)
termination_by structural operands => operands

theorem Query.accounts (hg : g.standing.type = .single .record) : ∀ (q : Query)
    {current : Standing} {inFilter : Bool} {chain : Chain}, Placed g current inFilter chain →
    (q.operandNote g current inFilter).complaints = [] →
    Accounts g (q.operandNote g current inFilter).rootFields [chain] (q.chains chain)
  | .path p, _, _, _, h, hc => by
    rw [Query.operandNote] at hc ⊢
    rw [Note.rootFields_asOperand]
    exact Path.accounts hg p h (Note.complaints_of_asOperand hc)
  | .group group, _, _, _, h, hc => Group.accounts hg group h hc
termination_by structural q => q

end

end Complete

theorem Ground.placed (g : Ground) : Placed g g.standing false [] :=
  ⟨fun _ => ⟨rfl, rfl⟩, nofun⟩

theorem Query.starts_of_note {g : Ground} (hg : g.standing.type = .single .record) (q : Query) :
    ∀ name ∈ (q.note g).rootFields, Starts name (q.chains []) := by
  cases q with
  | path p => exact Path.starts_of_rootFields hg p g.placed.whole
  | group group => exact Group.starts_of_rootFields hg group g.placed.whole

theorem Query.accounts_of_note {g : Ground} (hg : g.standing.type = .single .record) {q : Query}
    (hc : (q.note g).complaints = []) : Accounts g (q.note g).rootFields [[]] (q.chains []) := by
  cases q with
  | path p => exact Path.accounts hg p g.placed hc
  | group group => exact Group.accounts hg group g.placed hc

theorem Query.starts_dependencies {q : Query} {name : String} :
    Starts name q.dependencies ↔ Starts name (q.chains []) :=
  ⟨fun h => h.mono fun _ => of_mem_sortDistinct,
    fun h => h.mono fun _ => mem_sortDistinct eq_of_compareNames⟩

theorem Query.required_eq_heads {schema : Schema} {target : String} {g : Ground}
    (hg : schema.ground target = .ok g) (q : Query) :
    (∀ name ∈ (q.validate g).dataMap.required, ∃ c ∈ q.dependencies, c.head? = some name) ∧
      ((q.validate g).note.complaints = [] →
        (q.validate g).dataMap.required.Pairwise (· < ·) ∧
        (∀ name, name ∈ (q.validate g).dataMap.required ↔
          ∃ c ∈ q.dependencies, c.head? = some name) ∧
        ∀ name ∈ (q.validate g).dataMap.required, ∀ b ∈ g.blocked,
          Text.sameName b name = false) := by
  have hrecord := Schema.ground_type hg
  have hsub : ∀ name ∈ (q.validate g).dataMap.required, Starts name q.dependencies := by
    intro name hname
    exact starts_dependencies.mpr (q.starts_of_note hrecord name (mem_sortNames.mp hname))
  refine ⟨hsub, fun hvalid => ?_⟩
  have hall := Query.accounts_of_note hrecord hvalid
  refine ⟨sortNames_pairwise _, fun name => ⟨hsub name, fun hname => ?_⟩, fun name hname b hb => ?_⟩
  · refine mem_sortNames.mpr ((hall.heads name (starts_dependencies.mp hname)).resolve_right ?_)
    exact fun hnil => nomatch starts_singleton.mp hnil
  · have hfree := hall.free name (mem_sortNames.mp hname)
    exact Bool.eq_false_iff.mpr (List.any_eq_false.mp hfree b hb)

theorem Query.required_eq_heads_orders :
    let schema : Schema := ⟨[⟨"Limit", [], false⟩, ⟨"Orders", [], false⟩,
      ⟨"Report", ["Orders"], false⟩], [("Limit", .number),
      ("Orders", .list (.record [("Price", .number)])), ("Report", .string)]⟩
    ∃ g q, schema.ground "Report" = .ok g ∧
      Query.read "$.Orders[@.Price.Less($.Limit)].Count()" = .ok q ∧
      (q.validate g).note.complaints = [] ∧
      (q.validate g).dataMap.required = ["Limit", "Orders"] ∧
      q.dependencies = [["Limit"], ["Orders"], ["Orders", "Price"]] ∧
      (∀ name, name ∈ (q.validate g).dataMap.required ↔
        ∃ c ∈ q.dependencies, c.head? = some name) ∧
      ∀ name ∈ (q.validate g).dataMap.required, ∀ b ∈ g.blocked, Text.sameName b name = false := by
  intro schema
  have hread : (Query.read "$.Orders[@.Price.Less($.Limit)].Count()").toOption.map
      (fun q => (((q.validate ⟨schema.root, ["Report"]⟩).note.complaints,
        (q.validate ⟨schema.root, ["Report"]⟩).dataMap.required), q.dependencies)) =
        some (([], ["Limit", "Orders"]), [["Limit"], ["Orders"], ["Orders", "Price"]]) := by
    decide +kernel
  simp only [Option.map_eq_some_iff, PartialQuery.toOption_eq_some_iff, Prod.mk.injEq] at hread
  obtain ⟨q, hq, ⟨hvalid, hrequired⟩, hchains⟩ := hread
  have hg : schema.ground "Report" = .ok ⟨schema.root, ["Report"]⟩ := rfl
  obtain ⟨-, hheads, hfree⟩ := (Query.required_eq_heads hg q).2 hvalid
  exact ⟨_, q, hg, hq, hvalid, hrequired, hchains, hheads, hfree⟩

end PathQuery
