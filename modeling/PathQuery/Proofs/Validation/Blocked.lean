import PathQuery.Evaluation.Basic
import PathQuery.Proofs.Grammar.Reading
import PathQuery.Proofs.Text.Fold
import PathQuery.Proofs.Validation.Whole

namespace PathQuery

section Veil

-- Two documents that differ in nothing but the values of blocked fields.
inductive Veiled (g : Ground) : Fields → Fields → Prop where
  | nil : Veiled g [] []
  | shown {fields fields' : Fields} (e : String × Value) (h : Veiled g fields fields') :
    Veiled g (e :: fields) (e :: fields')
  | hidden {fields fields' : Fields} {name : String} (v v' : Value)
    (hb : g.isBlocked name = true) (h : Veiled g fields fields') :
    Veiled g ((name, v) :: fields) ((name, v') :: fields')

variable {g : Ground} {fields fields' : Fields} {name other : String}

theorem Ground.isBlocked_of_sameName (h : Text.sameName other name = true)
    (hb : g.isBlocked other = true) : g.isBlocked name = true := by
  obtain ⟨b, hmem, hsame⟩ := List.any_eq_true.mp hb
  exact List.any_eq_true.mpr ⟨b, hmem, Text.sameName_trans hsame h⟩

theorem Veiled.length_eq (h : Veiled g fields fields') : fields.length = fields'.length := by
  induction h with
  | nil => rfl
  | shown e h ih => exact congrArg Nat.succ ih
  | hidden v v' hb h ih => exact congrArg Nat.succ ih

theorem Veiled.find? {p : String → Bool} (h : Veiled g fields fields')
    (hp : ∀ name, g.isBlocked name = true → p name = false) :
    fields.find? (fun e => p e.1) = fields'.find? fun e => p e.1 := by
  induction h with
  | nil => rfl
  | shown e h ih => rw [List.find?_cons, List.find?_cons, ih]
  | @hidden fields fields' name v v' hb h ih =>
    have hn := hp name hb
    simp only [List.find?_cons, hn, ih]

theorem Veiled.named? (h : Veiled g fields fields') (hfree : g.isBlocked name = false) :
    named? fields name = named? fields' name := by
  have hsame : ∀ other, g.isBlocked other = true → Text.sameName other name = false := by
    intro other hb
    refine Bool.eq_false_iff.mpr fun hs => ?_
    rw [Ground.isBlocked_of_sameName hs hb] at hfree
    cases hfree
  have hexact : ∀ other, g.isBlocked other = true → (other == name) = false := by
    intro other hb
    refine beq_eq_false_iff_ne.mpr fun ho => ?_
    rw [ho, hfree] at hb
    cases hb
  rw [PathQuery.named?, PathQuery.named?, h.find? hexact, h.find? hsame]

theorem Veiled.readField (h : Veiled g fields fields') (hfree : g.isBlocked name = false) :
    (Value.record fields).readField name = (Value.record fields').readField name := by
  have hnamed := h.named? hfree
  simp only [Value.readField, Value.lookup?, Fields.lookup?, hnamed]

theorem Veiled.count (h : Veiled g fields fields') :
    Call.count (.record fields) = Call.count (.record fields') := by
  rw [Call.count, Call.count, h.length_eq]

end Veil

def Segment.showWhole : List Segment → Bool
  | [] => true
  | .call (.known f) _ :: _ => f == .asJson || f == .any
  | _ => false

mutual

def Path.showsDocument (inFilter : Bool) : Path → Bool
  | ⟨origin, _, _, segments⟩ =>
    (!(inFilter && origin == .current) && Segment.showWhole segments) ||
      Segment.anyShowsDocument inFilter segments

def Segment.anyShowsDocument (inFilter : Bool) : List Segment → Bool
  | [] => false
  | s :: segments => s.showsDocument inFilter || Segment.anyShowsDocument inFilter segments

def Segment.showsDocument (inFilter : Bool) : Segment → Bool
  | .field _ => false
  | .filter g => g.showsDocument true
  | .call _ arguments => Argument.anyShowsDocument inFilter arguments

def Argument.anyShowsDocument (inFilter : Bool) : List Argument → Bool
  | [] => false
  | a :: arguments => a.showsDocument inFilter || Argument.anyShowsDocument inFilter arguments

def Argument.showsDocument (inFilter : Bool) : Argument → Bool
  | .path p => p.showsDocument inFilter
  | _ => false

def Group.showsDocument (inFilter : Bool) : Group → Bool
  | ⟨_, _, _, operands⟩ => Query.anyShowsDocument inFilter operands

def Query.anyShowsDocument (inFilter : Bool) : List Query → Bool
  | [] => false
  | q :: operands => q.showsDocument inFilter || Query.anyShowsDocument inFilter operands

def Query.showsDocument (inFilter : Bool) : Query → Bool
  | .path p => p.showsDocument inFilter
  | .group g => g.showsDocument inFilter

end

-- Two runs: they share the value at hand within filters, and outside of them each has its own
-- document at hand.
structure SameSight (g : Ground) (root root' : Value) (current : Standing) (inFilter : Bool)
    (v v' : Value) : Prop where
  shared : inFilter = true → v = v'
  whole : inFilter = false → current = g.standing ∧ v = root ∧ v' = root'

theorem SameSight.item {g : Ground} {root root' : Value} (current : Standing) (item : Value) :
    SameSight g root root' current true item item := ⟨fun _ => rfl, nofun⟩

theorem Segment.exists_next {g : Ground} {current s : Standing} {inFilter : Bool} {segment : Segment}
    (h : (segment.note g current inFilter s).1.complaints = []) :
    ∃ t, (segment.note g current inFilter s).2 = some t := by
  cases segment with
  | field name =>
    obtain ⟨t, -, hn⟩ := Segment.note_field g current inFilter h
    exact ⟨t, hn⟩
  | filter group => exact ⟨s, (Segment.note_filter g current inFilter h).2.2⟩
  | call callee arguments =>
    cases callee with
    | unknown name => exact absurd h (Segment.note_unknown g current inFilter)
    | known f => exact ⟨_, (Segment.note_call g current inFilter h).2.2⟩

theorem Segment.complaints_notes_tail {g : Ground} {current s : Standing} {inFilter : Bool}
    {segment : Segment} {segments : List Segment}
    (h : Note.allComplaints (Segment.notes g current inFilter s (segment :: segments)).1 = []) :
    ∃ t, Note.allComplaints (Segment.notes g current inFilter t segments).1 = [] := by
  obtain ⟨t, hn⟩ := Segment.exists_next (Segment.complaints_notes_cons g current inFilter h)
  rw [Segment.notes_cons_some g current inFilter segments hn] at h
  exact ⟨t, (List.append_eq_nil_iff.mp h).2⟩

section

variable {codecs : Codecs} {g : Ground} {fields fields' : Fields}

theorem Segment.eval_veiled (hd : Veiled g fields fields') (hg : g.standing.type = .single .record)
    {segment : Segment} {segments : List Segment} {current : Standing} {inFilter : Bool} (v v' : Value)
    (hshow : Segment.showWhole (segment :: segments) = false)
    (hc : (segment.note g current inFilter g.standing).1.complaints = []) :
    segment.eval codecs v (.record fields) (.record fields) =
      segment.eval codecs v' (.record fields') (.record fields') := by
  cases segment with
  | field name =>
    obtain ⟨t, hf, -⟩ := Segment.note_field g current inFilter hc
    exact hd.readField (Standing.free_of_field rfl hf)
  | filter group =>
    obtain ⟨hlist, -, -⟩ := Segment.note_filter g current inFilter hc
    rw [hg] at hlist
    exact hlist.elim nofun nofun
  | call callee arguments =>
    cases callee with
    | unknown name => exact absurd hc (Segment.note_unknown g current inFilter)
    | known f =>
      obtain ⟨hcall, -, -⟩ := Segment.note_call g current inFilter hc
      rw [hg] at hcall
      obtain ⟨hf, htypes⟩ := callComplaints_record hcall
      -- Parameters could read the document too, but none of these functions takes any.
      have harguments : arguments = [] := by
        have hlength := congrArg List.length htypes
        rw [List.length_map, Argument.length_notes] at hlength
        exact List.eq_nil_of_length_eq_zero hlength
      rcases hf with rfl | rfl | rfl
      · cases hshow
      · subst harguments
        exact congrArg (Except.mapError (Failure.call .count)) hd.count
      · cases hshow

mutual

theorem Path.eval_veiled (hd : Veiled g fields fields') (hg : g.standing.type = .single .record) :
    ∀ (p : Path) {current : Standing} {inFilter : Bool} {v v' : Value},
    SameSight g (.record fields) (.record fields') current inFilter v v' →
    p.showsDocument inFilter = false → (p.note g current inFilter).complaints = [] →
    p.eval codecs v (.record fields) = p.eval codecs v' (.record fields')
  | ⟨.root, true, _, _⟩, _, _, _, _, _, _, _ => rfl
  | ⟨.root, false, _, segments⟩, current, inFilter, _, _, h, hs, hc => by
    rw [Path.complaints_note] at hc
    simp only [Path.showsDocument, Bool.or_eq_false_iff] at hs
    have hshow : Segment.showWhole segments = false := by simpa using hs.1
    exact Segment.evalAll_document hd hg segments h hshow hs.2 hc
  | ⟨.current, _, _, segments⟩, current, true, v, v', h, hs, hc => by
    rw [Path.complaints_note] at hc
    simp only [Path.showsDocument, Bool.or_eq_false_iff] at hs
    obtain rfl := h.shared rfl
    exact Segment.evalAll_veiled hd hg segments h hs.2 hc v
  | ⟨.current, _, _, segments⟩, current, false, v, v', h, hs, hc => by
    rw [Path.complaints_note] at hc
    simp only [Path.showsDocument, Bool.or_eq_false_iff] at hs
    obtain ⟨rfl, rfl, rfl⟩ := h.whole rfl
    exact Segment.evalAll_document hd hg segments h hs.1 hs.2 hc
termination_by structural p => p

theorem Segment.evalAll_document (hd : Veiled g fields fields')
    (hg : g.standing.type = .single .record) : ∀ (segments : List Segment) {current : Standing}
    {inFilter : Bool} {v v' : Value},
    SameSight g (.record fields) (.record fields') current inFilter v v' →
    Segment.showWhole segments = false → Segment.anyShowsDocument inFilter segments = false →
    Note.allComplaints (Segment.notes g current inFilter g.standing segments).1 = [] →
    Segment.evalAll codecs v (.record fields) (.record fields) segments =
      Segment.evalAll codecs v' (.record fields') (.record fields') segments
  | [], _, _, _, _, _, hshow, _, _ => nomatch hshow
  | segment :: segments, current, inFilter, v, v', h, hshow, hs, hc => by
    have hfirst : segment.eval codecs v _ _ = segment.eval codecs v' _ _ :=
      Segment.eval_veiled hd hg v v' hshow (Segment.complaints_notes_cons g current inFilter hc)
    obtain ⟨t, hrest⟩ := Segment.complaints_notes_tail hc
    have hs := (Bool.or_eq_false_iff.mp hs).2
    simp only [Segment.evalAll, Value.isNull, hfirst]
    exact congrArg (Except.bind _) (funext (Segment.evalAll_veiled hd hg segments h hs hrest))
termination_by structural segments => segments

theorem Segment.evalAll_veiled (hd : Veiled g fields fields')
    (hg : g.standing.type = .single .record) : ∀ (segments : List Segment) {current s : Standing}
    {inFilter : Bool} {v v' : Value},
    SameSight g (.record fields) (.record fields') current inFilter v v' →
    Segment.anyShowsDocument inFilter segments = false →
    Note.allComplaints (Segment.notes g current inFilter s segments).1 = [] → ∀ w : Value,
    Segment.evalAll codecs v (.record fields) w segments =
      Segment.evalAll codecs v' (.record fields') w segments
  | [], _, _, _, _, _, _, _, _, _ => rfl
  | segment :: segments, current, s, inFilter, _, _, h, hs, hc, w => by
    simp only [Segment.anyShowsDocument, Bool.or_eq_false_iff] at hs
    have hfirst := Segment.eval_shared hd hg segment h hs.1
      (Segment.complaints_notes_cons g current inFilter hc) w
    obtain ⟨t, hrest⟩ := Segment.complaints_notes_tail hc
    rw [Segment.evalAll, Segment.evalAll, hfirst]
    have hall := funext (Segment.evalAll_veiled hd hg segments h hs.2 hrest)
    rw [hall]
termination_by structural segments => segments

theorem Segment.eval_shared (hd : Veiled g fields fields')
    (hg : g.standing.type = .single .record) : ∀ (segment : Segment) {current s : Standing}
    {inFilter : Bool} {v v' : Value},
    SameSight g (.record fields) (.record fields') current inFilter v v' →
    segment.showsDocument inFilter = false →
    (segment.note g current inFilter s).1.complaints = [] → ∀ w : Value,
    segment.eval codecs v (.record fields) w = segment.eval codecs v' (.record fields') w
  | .field _, _, _, _, _, _, _, _, _, _ => rfl
  | .filter group, current, s, inFilter, _, _, _, hs, hc, w => by
    obtain ⟨-, hgroup, -⟩ := Segment.note_filter g current inFilter hc
    have htest : (fun item => group.eval codecs item (.record fields)) =
        fun item => group.eval codecs item (.record fields') :=
      funext fun item => Group.eval_veiled hd hg group (.item s.element item) hs hgroup
    rw [Segment.eval, Segment.eval, htest]
  | .call (.unknown _) _, _, _, _, _, _, _, _, _, _ => rfl
  | .call (.known f) arguments, current, s, inFilter, _, _, h, hs, hc, w => by
    obtain ⟨-, hargs, -⟩ := Segment.note_call g current inFilter hc
    rw [Segment.eval, Segment.eval, Argument.evalAll_veiled hd hg arguments h hs hargs]
termination_by structural segment => segment

theorem Argument.evalAll_veiled (hd : Veiled g fields fields')
    (hg : g.standing.type = .single .record) : ∀ (arguments : List Argument) {current : Standing}
    {inFilter : Bool} {v v' : Value},
    SameSight g (.record fields) (.record fields') current inFilter v v' →
    Argument.anyShowsDocument inFilter arguments = false →
    (∀ n ∈ (Argument.notes g current inFilter arguments).filterMap (·.1), n.complaints = []) →
    Argument.evalAll codecs v (.record fields) arguments =
      Argument.evalAll codecs v' (.record fields') arguments
  | [], _, _, _, _, _, _, _ => rfl
  | a :: arguments, current, inFilter, _, _, h, hs, hc => by
    simp only [Argument.anyShowsDocument, Bool.or_eq_false_iff] at hs
    obtain ⟨hnote, hnotes⟩ := (Argument.forall_notes_cons g current inFilter).mp hc
    have hfirst := Argument.eval_veiled hd hg a h hs.1 hnote
    have hrest := Argument.evalAll_veiled hd hg arguments h hs.2 hnotes
    rw [Argument.evalAll, Argument.evalAll, hfirst, hrest]
termination_by structural arguments => arguments

theorem Argument.eval_veiled (hd : Veiled g fields fields')
    (hg : g.standing.type = .single .record) : ∀ (a : Argument) {current : Standing}
    {inFilter : Bool} {v v' : Value},
    SameSight g (.record fields) (.record fields') current inFilter v v' →
    a.showsDocument inFilter = false →
    (∀ n, (a.note g current inFilter).1 = some n → n.complaints = []) →
    a.eval codecs v (.record fields) = a.eval codecs v' (.record fields')
  | .number _ _, _, _, _, _, _, _, _ => rfl
  | .string _, _, _, _, _, _, _, _ => rfl
  | .bool _, _, _, _, _, _, _, _ => rfl
  | .path p, _, _, _, _, h, hs, hc => by
    rw [Argument.eval, Argument.eval, Path.eval_veiled hd hg p h hs (hc _ rfl)]
termination_by structural a => a

theorem Group.eval_veiled (hd : Veiled g fields fields') (hg : g.standing.type = .single .record) :
    ∀ (group : Group) {current : Standing} {inFilter : Bool} {v v' : Value},
    SameSight g (.record fields) (.record fields') current inFilter v v' →
    group.showsDocument inFilter = false → (group.note g current inFilter).complaints = [] →
    group.eval codecs v (.record fields) = group.eval codecs v' (.record fields')
  | ⟨operator, isExplicit, isBraced, operands⟩, current, inFilter, _, _, h, hs, hc => by
    obtain ⟨-, hparts⟩ := Group.note_complaints g current inFilter hc
    have hall := Query.evalAll_veiled hd hg operands h hs hparts
    cases operator with
    | and => exact hall.1
    | or => exact hall.2
    | invalid word => rfl
termination_by structural group => group

theorem Query.evalAll_veiled (hd : Veiled g fields fields')
    (hg : g.standing.type = .single .record) : ∀ (operands : List Query) {current : Standing}
    {inFilter : Bool} {v v' : Value},
    SameSight g (.record fields) (.record fields') current inFilter v v' →
    Query.anyShowsDocument inFilter operands = false →
    (∀ n ∈ Query.notes g current inFilter operands, n.complaints = []) →
    Query.evalAnd codecs v (.record fields) operands =
        Query.evalAnd codecs v' (.record fields') operands ∧
      Query.evalOr codecs v (.record fields) operands =
        Query.evalOr codecs v' (.record fields') operands
  | [], _, _, _, _, _, _, _ => ⟨rfl, rfl⟩
  | q :: operands, _, _, _, _, h, hs, hc => by
    simp only [Query.anyShowsDocument, Bool.or_eq_false_iff] at hs
    rw [Query.notes, List.forall_mem_cons] at hc
    have hfirst := Query.eval_veiled hd hg q h hs.1 hc.1
    obtain ⟨hand, hor⟩ := Query.evalAll_veiled hd hg operands h hs.2 hc.2
    rw [Query.evalAnd, Query.evalAnd, Query.evalOr, Query.evalOr, hfirst, hand, hor]
    exact ⟨rfl, rfl⟩
termination_by structural operands => operands

theorem Query.eval_veiled (hd : Veiled g fields fields') (hg : g.standing.type = .single .record) :
    ∀ (q : Query) {current : Standing} {inFilter : Bool} {v v' : Value},
    SameSight g (.record fields) (.record fields') current inFilter v v' →
    q.showsDocument inFilter = false → (q.operandNote g current inFilter).complaints = [] →
    q.eval codecs v (.record fields) = q.eval codecs v' (.record fields')
  | .path p, _, _, _, _, h, hs, hc =>
    Path.eval_veiled hd hg p h hs (Note.complaints_of_asOperand hc)
  | .group group, _, _, _, _, h, hs, hc => Group.eval_veiled hd hg group h hs hc
termination_by structural q => q

end

end

theorem Ground.sameSight (g : Ground) (root root' : Value) :
    SameSight g root root' g.standing false root root' := ⟨nofun, fun _ => ⟨rfl, rfl, rfl⟩⟩

theorem Query.eval_of_veiled {schema : Schema} {target : String} {g : Ground} {q : Query}
    {fields fields' : Fields} (codecs : Codecs) (hg : schema.ground target = .ok g)
    (hvalid : (q.validate g).note.complaints = []) (hshow : q.showsDocument false = false)
    (hd : Veiled g fields fields') :
    q.eval codecs (.record fields) (.record fields) =
      q.eval codecs (.record fields') (.record fields') := by
  have hrecord := Schema.ground_type hg
  have hsight := g.sameSight (.record fields) (.record fields')
  cases q with
  | path p => exact Path.eval_veiled hd hrecord p hsight hshow hvalid
  | group group => exact Group.eval_veiled hd hrecord group hsight hshow hvalid

theorem Query.eval_of_veiled_items :
    let schema : Schema := ⟨[⟨"Items", [], false⟩, ⟨"Limit", [], false⟩, ⟨"Report", ["Secret"], false⟩,
      ⟨"Secret", [], false⟩], [("Items", .list (.record [("Price", .number)])), ("Limit", .number),
      ("Report", .string), ("Secret", .string)]⟩
    let items : Value := .sequence [.record [("Price", .number .zero)]]
    let fields (secret : String) : Fields := [("Items", items),
      ("Limit", .number ⟨false, 5, 0, by decide, by decide⟩), ("SECRET", .string secret)]
    ∃ g q, schema.ground "Secret" = .ok g ∧
      Query.read "{AND,$.Count().Greater($.Limit),$.items[@.Price.Less($.Limit)].Any()}" = .ok q ∧
      (q.validate g).note.complaints = [] ∧ q.showsDocument false = false ∧
      Veiled g (fields "x") (fields "y") ∧
      q.eval (.none .bare) (.record (fields "x")) (.record (fields "x")) =
        q.eval (.none .bare) (.record (fields "y")) (.record (fields "y")) := by
  intro schema items fields
  have hread : (Query.read
      "{AND,$.Count().Greater($.Limit),$.items[@.Price.Less($.Limit)].Any()}").toOption.map
      (fun q => ((q.validate ⟨schema.root, ["Report", "Secret"]⟩).note.complaints,
        q.showsDocument false)) = some ([], false) := by
    decide +kernel
  simp only [Option.map_eq_some_iff, PartialQuery.toOption_eq_some_iff, Prod.mk.injEq] at hread
  obtain ⟨q, hq, hvalid, hshow⟩ := hread
  have hg : schema.ground "Secret" = .ok ⟨schema.root, ["Report", "Secret"]⟩ := rfl
  have hd : Veiled ⟨schema.root, ["Report", "Secret"]⟩ (fields "x") (fields "y") :=
    .shown _ (.shown _ (.hidden _ _ rfl .nil))
  exact ⟨_, q, hg, hq, hvalid, hshow, hd, Query.eval_of_veiled _ hg hvalid hshow hd⟩

def resultText : Result → String
  | .ok (.string s) => s
  | _ => ""

theorem Query.eval_blocked_ne :
    let schema : Schema := ⟨[⟨"Public", [], false⟩, ⟨"Secret", [], false⟩],
      [("Public", .string), ("Secret", .string)]⟩
    let fields (secret : String) : Fields := [("Public", .string "p"), ("Secret", .string secret)]
    ∃ g q, schema.ground "Secret" = .ok g ∧ g.blocked = ["Secret"] ∧
      Query.read "$.AsJSON()" = .ok q ∧ (q.validate g).note.complaints = [] ∧
      Veiled g (fields "x") (fields "y") ∧
      q.eval (.none .bare) (.record (fields "x")) (.record (fields "x")) ≠
        q.eval (.none .bare) (.record (fields "y")) (.record (fields "y")) := by
  intro schema fields
  let evalText (q : Query) (secret : String) :=
    resultText (q.eval (.none .bare) (.record (fields secret)) (.record (fields secret)))
  have hread : (Query.read "$.AsJSON()").toOption.map
      (fun q => ((q.validate ⟨schema.root, ["Secret"]⟩).note.complaints,
        evalText q "x" == evalText q "y")) = some ([], false) := by
    decide +kernel
  simp only [Option.map_eq_some_iff, PartialQuery.toOption_eq_some_iff, Prod.mk.injEq] at hread
  obtain ⟨q, hq, hvalid, htexts⟩ := hread
  have hd : Veiled ⟨schema.root, ["Secret"]⟩ (fields "x") (fields "y") :=
    .shown _ (.hidden _ _ rfl .nil)
  refine ⟨_, q, rfl, rfl, hq, hvalid, hd, fun heval => ?_⟩
  exact beq_eq_false_iff_ne.mp htexts (congrArg resultText heval)

end PathQuery
