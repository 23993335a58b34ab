import PathQuery.Engine
import PathQuery.Proofs.Grammar.Placement
import PathQuery.Proofs.Query.Parts
import PathQuery.Proofs.Validation.Call
import PathQuery.Proofs.Validation.Notes

namespace PathQuery

open Grammar (Role)

def NoReader (callees : List Callee) : Prop := ∀ f, .known f ∈ callees → f.isReader = false

theorem NoReader.left {cs cs' : List Callee} (h : NoReader (cs ++ cs')) : NoReader cs :=
  fun f hf => h f (List.mem_append_left _ hf)

theorem NoReader.right {cs cs' : List Callee} (h : NoReader (cs ++ cs')) : NoReader cs' :=
  fun f hf => h f (List.mem_append_right _ hf)

section

variable {maps : Bool} {codecs : Codecs} {g : Ground} {root : Value}

theorem ResolvedType.Hands.literal {d : DataType} {w : Value} (hd : d ≠ .unknown)
    (hw : d.Covers maps w.kind) : (ResolvedType.single d).Hands maps [w] :=
  ⟨hd, fun _ hv => List.mem_singleton.mp hv ▸ hw, fun _ => rfl⟩

theorem Query.evalAnd_gives {current : Value} {operands : List Query}
    (h : ∀ q ∈ operands, Gives (fun _ => True) Failure.IsBenign (q.eval codecs current root)) :
    Gives (fun w => w.kind = .bool) Failure.IsBenign
      (Query.evalAnd codecs current root operands) := by
  induction operands with
  | nil => rfl
  | cons q operands ih =>
    simp only [Query.evalAnd]
    refine (h q (List.mem_cons_self ..)).bind fun w _ => ?_
    split
    · exact ih fun q hq => h q (List.mem_cons_of_mem _ hq)
    · rfl

theorem Query.evalOr_gives {current : Value} {operands : List Query}
    (h : ∀ q ∈ operands, Gives (fun _ => True) Failure.IsBenign (q.eval codecs current root)) :
    Gives (fun w => w.kind = .bool) Failure.IsBenign
      (Query.evalOr codecs current root operands) := by
  induction operands with
  | nil => rfl
  | cons q operands ih =>
    simp only [Query.evalOr]
    refine (h q (List.mem_cons_self ..)).bind fun w _ => ?_
    split
    · rfl
    · exact ih fun q hq => h q (List.mem_cons_of_mem _ hq)

mutual

theorem Path.note_sound (hg : g.standing.Fits maps root) : ∀ (p : Path) {role : Role}
    {current : Standing} {inFilter : Bool} {v : Value}, current.Fits maps v →
    p.isPlaced role = true → NoReader p.callees → (p.note g current inFilter).complaints = [] →
    ∃ t, (p.note g current inFilter).type? = some t ∧ t.dataType ≠ .unknown ∧
      Gives (t.Describes maps) Failure.IsBenign (p.eval codecs v root)
  | ⟨origin, inFilter, asPredicate, segments⟩, role, current, atFilter, v, h, hp, hr, hc => by
    simp only [Path.isPlaced, Bool.and_eq_true] at hp
    rw [Path.complaints_note] at hc
    rw [Path.type?_note]
    cases origin with
    | root =>
      obtain rfl : inFilter = false := by
        have hrole : role.inFilter = false := by simpa using hp.1.2
        rw [← hrole]
        exact beq_iff_eq.mp hp.1.1.1
      obtain ⟨t, ht, hlead⟩ := Segment.notes_sound hg segments h hg.plain hp.2 hr hc
      exact ⟨t.type, congrArg (Option.map _) ht, hlead.plain.known,
        (hlead.gives root hg.describes).mono fun _ hw => hw.type⟩
    | current =>
      have hstart := h.atRoot !atFilter
      obtain ⟨t, ht, hlead⟩ := Segment.notes_sound hg segments h hstart.plain hp.2 hr hc
      exact ⟨t.type, congrArg (Option.map _) ht, hlead.plain.known,
        (hlead.gives v hstart.describes).mono fun _ hw => hw.type⟩
termination_by structural p => p

theorem Segment.notes_sound (hg : g.standing.Fits maps root) : ∀ (segments : List Segment)
    {current s : Standing} {inFilter : Bool} {v : Value}, current.Fits maps v → s.IsPlain →
    Segment.allPlaced segments = true → NoReader (Segment.allCallees segments) →
    Note.allComplaints (Segment.notes g current inFilter s segments).1 = [] →
    ∃ t, (Segment.notes g current inFilter s segments).2 = some t ∧
      s.Leads maps t (Segment.evalAll codecs v root · segments)
  | [], _, s, _, _, _, hs, _, _, _ => ⟨s, rfl, hs, fun _ hx => hx⟩
  | segment :: segments, current, s, inFilter, v, h, hs, hp, hr, hc => by
    simp only [Segment.allPlaced, Bool.and_eq_true] at hp
    obtain ⟨t, ht, hfirst⟩ := Segment.note_sound hg segment h hs hp.1 hr.left
      (Segment.complaints_notes_cons g current inFilter hc)
    rw [Segment.notes_cons_some g current inFilter segments ht] at hc ⊢
    have hc' := (List.append_eq_nil_iff.mp hc).2
    obtain ⟨u, hu, hrest⟩ := Segment.notes_sound hg segments h hfirst.plain hp.2 hr.right hc'
    refine ⟨u, hu, hrest.plain, fun x hx => ?_⟩
    simp only [Segment.evalAll, hx.isNull_eq_false]
    exact (hfirst.gives x hx).bind fun y hy => hrest.gives y hy
termination_by structural segments => segments

theorem Segment.note_sound (hg : g.standing.Fits maps root) : ∀ (segment : Segment)
    {current s : Standing} {inFilter : Bool} {v : Value}, current.Fits maps v → s.IsPlain →
    segment.isPlaced = true → NoReader segment.callees →
    (segment.note g current inFilter s).1.complaints = [] →
    ∃ t, (segment.note g current inFilter s).2 = some t ∧
      s.Leads maps t (segment.eval codecs v root ·)
  | .field name, _, _, _, _, _, hs, _, _, hc => by
    obtain ⟨t, hf, ht⟩ := Segment.note_field g _ _ hc
    exact ⟨t, ht, hs.field hf⟩
  | .filter group, current, s, inFilter, v, _, hs, hp, hr, hc => by
    obtain ⟨hlist, hg', hn⟩ := Segment.note_filter g current inFilter hc
    refine ⟨s, hn, hs.filterBy (hlist.resolve_right hs.known) fun w hw => ?_⟩
    exact (Group.note_sound hg group (hw.element hs) hp hr hg').mono fun _ _ => trivial
  | .call (.unknown name) arguments, current, s, inFilter, _, _, _, _, _, hc =>
    absurd hc (Segment.note_unknown g current inFilter)
  | .call (.known f) arguments, current, s, inFilter, v, h, hs, hp, hr, hc => by
    obtain ⟨hcall, hargs, hn⟩ := Segment.note_call g current inFilter hc
    have hf : f.isReader = false := hr f (List.mem_cons_self ..)
    have hparams := Argument.notes_sound hg arguments h hp
      (fun f hf => hr f (List.mem_cons_of_mem _ hf)) hargs
    refine ⟨_, hn, Standing.result_isPlain hs (Builtin.returns_ne_unknown hf),
      fun x hx => hparams.bind fun params hparams => ?_⟩
    have hlead := hs.call codecs hf hcall hparams
    rw [List.length_map, Argument.length_notes] at hlead
    exact hlead.gives x hx
termination_by structural segment => segment

theorem Argument.notes_sound (hg : g.standing.Fits maps root) : ∀ (arguments : List Argument)
    {current : Standing} {inFilter : Bool} {v : Value}, current.Fits maps v →
    Argument.allPlaced arguments = true → NoReader (Argument.allCallees arguments) →
    (∀ n ∈ (Argument.notes g current inFilter arguments).filterMap (·.1), n.complaints = []) →
    Gives (Handed maps ((Argument.notes g current inFilter arguments).map (·.2)))
      Failure.IsBenign (Argument.evalAll codecs v root arguments)
  | [], _, _, _, _, _, _, _ => .nil
  | a :: arguments, current, inFilter, v, h, hp, hr, hc => by
    simp only [Argument.allPlaced, Bool.and_eq_true] at hp
    simp only [Argument.notes, List.mem_filterMap] at hc
    obtain ⟨t, ht, hfirst⟩ := Argument.note_sound hg a h hp.1 hr.left
      fun n hn => hc n ⟨_, List.mem_cons_self .., hn⟩
    have hrest := Argument.notes_sound hg arguments h hp.2 hr.right fun n hn => by
      obtain ⟨e, he, hen⟩ := List.mem_filterMap.mp hn
      exact hc n ⟨e, List.mem_cons_of_mem _ he, hen⟩
    simp only [Argument.notes, List.map_cons, ht]
    refine hfirst.bind fun vs hvs => hrest.bind fun ws hws => ?_
    exact .cons hvs hws
termination_by structural arguments => arguments

theorem Argument.note_sound (hg : g.standing.Fits maps root) : ∀ (a : Argument)
    {current : Standing} {inFilter : Bool} {v : Value}, current.Fits maps v →
    a.isPlaced = true → NoReader a.callees →
    (∀ n, (a.note g current inFilter).1 = some n → n.complaints = []) →
    ∃ t, (a.note g current inFilter).2 = some t ∧
      Gives (t.Hands maps) Failure.IsBenign (a.eval codecs v root)
  | .number d _, _, _, _, _, _, _, _ => ⟨_, rfl, .literal nofun rfl⟩
  | .string s, _, _, _, _, _, _, _ => ⟨_, rfl, .literal nofun rfl⟩
  | .bool b, _, _, _, _, _, _, _ => ⟨_, rfl, .literal nofun rfl⟩
  | .path p, current, inFilter, v, h, hp, hr, hc => by
    have hn := hc _ rfl
    obtain ⟨t, ht, hknown, hv⟩ := Path.note_sound hg p h hp hr hn
    refine ⟨t, ?_, hv.map fun w hw => hw.spread hknown⟩
    rw [← ht]
    exact Note.validType?_of_complaints hn
termination_by structural a => a

theorem Group.note_sound (hg : g.standing.Fits maps root) : ∀ (group : Group) {role : Role}
    {current : Standing} {inFilter : Bool} {v : Value}, current.Fits maps v →
    group.isPlaced role = true → NoReader group.callees →
    (group.note g current inFilter).complaints = [] →
    Gives (fun w => w.kind = .bool) Failure.IsBenign (group.eval codecs v root)
  | ⟨operator, isExplicit, isBraced, operands⟩, _, current, inFilter, v, h, hp, hr, hc => by
    obtain ⟨hvalid, hparts⟩ := Group.note_complaints g current inFilter hc
    have hall := Query.notes_sound hg operands h hp hr hparts
    cases operator with
    | and => exact Query.evalAnd_gives hall
    | or => exact Query.evalOr_gives hall
    | invalid word => cases hvalid
termination_by structural group => group

theorem Query.notes_sound (hg : g.standing.Fits maps root) : ∀ (operands : List Query) {role : Role}
    {current : Standing} {inFilter : Bool} {v : Value}, current.Fits maps v →
    Query.allPlaced role operands = true → NoReader (Query.allCallees operands) →
    (∀ n ∈ Query.notes g current inFilter operands, n.complaints = []) →
    ∀ q ∈ operands, Gives (fun _ => True) Failure.IsBenign (q.eval codecs v root)
  | [], _, _, _, _, _, _, _, _ => nofun
  | q :: operands, _, current, inFilter, v, h, hp, hr, hc => by
    simp only [Query.allPlaced, Bool.and_eq_true] at hp
    simp only [Query.notes, List.mem_cons, forall_eq_or_imp] at hc
    have hfirst := Query.operandNote_sound hg q h hp.1 hr.left hc.1
    have hrest := Query.notes_sound hg operands h hp.2 hr.right hc.2
    intro q' hq
    rcases List.mem_cons.mp hq with rfl | hq
    · exact hfirst
    · exact hrest q' hq
termination_by structural operands => operands

theorem Query.operandNote_sound (hg : g.standing.Fits maps root) : ∀ (q : Query) {role : Role}
    {current : Standing} {inFilter : Bool} {v : Value}, current.Fits maps v →
    q.isOperandPlaced role = true → NoReader q.callees →
    (q.operandNote g current inFilter).complaints = [] →
    Gives (fun _ => True) Failure.IsBenign (q.eval codecs v root)
  | .path p, _, _, _, _, h, hp, hr, hc => by
    obtain ⟨t, -, -, hv⟩ := Path.note_sound hg p h hp hr (Note.complaints_of_asOperand hc)
    exact hv.mono fun _ _ => trivial
  | .group group, _, _, _, _, h, hp, hr, hc =>
    (Group.note_sound hg group h hp hr hc).mono fun _ _ => trivial
termination_by structural q => q

end

theorem Query.note_sound (codecs : Codecs) (hg : g.standing.Fits maps root) (q : Query)
    (hp : q.isPlaced = true) (hr : NoReader q.callees) (hc : (q.note g).complaints = []) :
    ∃ t, (q.note g).type? = some t ∧
      Gives (t.Describes maps) Failure.IsBenign (q.eval codecs root root) := by
  cases q with
  | path p =>
    obtain ⟨t, ht, -, hv⟩ := Path.note_sound hg p hg hp hr hc
    exact ⟨t, ht, hv⟩
  | group group =>
    have hv : Gives _ _ (group.eval codecs root root) := Group.note_sound hg group hg hp hr hc
    obtain ⟨operator, isExplicit, isBraced, operands⟩ := group
    exact ⟨.single .bool, rfl, hv.mono fun _ hw => .one rfl hw⟩

end

theorem Ground.standing_fits {maps : Bool} {g : Ground} {d : Value} (hp : g.root.isPlain = true)
    (hd : Conforms maps g.root d) : g.standing.Fits maps d :=
  (Standing.ofShape_fits hp hd).atRoot true

theorem Query.eval_of_valid {maps : Bool} {codecs : Codecs} {schema : Schema} {target text : String}
    {g : Ground} {q : Query} {d : Value} (hroot : schema.root.isPlain = true)
    (hg : schema.ground target = .ok g) (hq : Query.read text = .ok q)
    (hreads : NoReader q.callees) (hvalid : (q.validate g).note.complaints = [])
    (hd : Conforms maps schema.root d) :
    ∃ t, (q.validate g).note.type? = some t ∧
      match q.eval codecs d d with
      | .ok w => t.Describes maps w
      | .error e => e.IsBenign := by
  obtain ⟨blocked, -, rfl⟩ : ∃ blocked, schema.blockedFor target = .ok blocked ∧
      ⟨schema.root, blocked⟩ = g := by
    simp only [Schema.ground] at hg
    cases hb : schema.blockedFor target with
    | error e =>
      rw [hb] at hg
      cases hg
    | ok blocked =>
      rw [hb] at hg
      exact ⟨blocked, rfl, Except.ok.inj hg⟩
  obtain ⟨t, ht, hv⟩ := Query.note_sound codecs (Ground.standing_fits hroot hd) q
    (Query.isPlaced_of_read hq) hreads hvalid
  refine ⟨t, ht, ?_⟩
  cases he : q.eval codecs d d with
  | ok w =>
    rw [he] at hv
    exact hv
  | error e =>
    rw [he] at hv
    exact hv

theorem Query.eval_of_valid_orders :
    let fields : List (String × Shape) := [("limit", .number),
      ("orders", .list (.record [("name", .string), ("price", .number)])), ("report", .string)]
    let schema : Schema := ⟨[⟨"limit", [], false⟩, ⟨"orders", [], false⟩,
      ⟨"report", ["orders"], false⟩], fields⟩
    let d : Value := .record [("limit", .number ⟨false, 5, 0, by decide, by decide⟩),
      ("orders", .sequence [.record [("name", .string "tea"), ("price", .number .zero)],
        .record [("name", .string "ink"), ("price", .number ⟨false, 7, 0, by decide, by decide⟩)]]),
      ("report", .string "")]
    ∃ g q, schema.root.isPlain = true ∧ schema.ground "report" = .ok g ∧
      Query.read "$.orders[@.Price.Less($.limit)].First().name" = .ok q ∧ NoReader q.callees ∧
      (q.validate g).note.complaints = [] ∧ Conforms false schema.root d ∧
      ∃ t, (q.validate g).note.type? = some t ∧
        match q.eval (.none .bare) d d with
        | .ok w => t.Describes false w
        | .error e => e.IsBenign := by
  intro fields schema d
  have hread : (Query.read "$.orders[@.Price.Less($.limit)].First().name").toOption.map
      (fun q => (q.callees, (q.validate ⟨schema.root, ["report"]⟩).note.complaints)) =
        some ([.known .less, .known .first], []) := by
    decide +kernel
  simp only [Option.map_eq_some_iff, PartialQuery.toOption_eq_some_iff, Prod.mk.injEq] at hread
  obtain ⟨q, hq, hcallees, hvalid⟩ := hread
  have hreads : NoReader q.callees := by
    simp only [NoReader, hcallees, List.mem_cons, Callee.known.injEq, List.not_mem_nil, or_false]
    rintro f (rfl | rfl)
    · rfl
    · rfl
  have horder : ∀ name price, Conforms false (.record [("name", .string), ("price", .number)])
      (.record [("name", .string name), ("price", .number price)]) := fun name price =>
    @Conforms.record_of_entries false
      [("name", .string, .string name), ("price", .number, .number price)]
      (List.forall_mem_cons.mpr ⟨.string name, List.forall_mem_singleton.mpr (.number price)⟩)
  have hd : Conforms false schema.root d := by
    refine @Conforms.record_of_entries false [("limit", .number, _),
      ("orders", .list (.record [("name", .string), ("price", .number)]), .sequence [_, _]),
      ("report", .string, _)] ?_
    simp only [List.forall_mem_cons]
    exact ⟨.number _, .list (List.forall_mem_cons.mpr ⟨horder _ _,
      List.forall_mem_singleton.mpr (horder _ _)⟩), .string _, nofun⟩
  have hg : schema.ground "report" = .ok ⟨schema.root, ["report"]⟩ := rfl
  exact ⟨_, q, rfl, hg, hq, hreads, hvalid, hd, Query.eval_of_valid rfl hg hq hreads hvalid hd⟩

end PathQuery
