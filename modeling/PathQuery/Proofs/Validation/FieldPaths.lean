import PathQuery.Proofs.Validation.Route
import PathQuery.Proofs.Validation.Standing

namespace PathQuery

namespace Shape

def levels : Shape → Nat
  | .list element => element.levels + 1
  | _ => 0

def walk? (n : Nat) (s : Shape) : List String → Option (List (Nat × Shape))
  | [] => some []
  | name :: names => do
    let t ← s.innermost.field? name
    let found ← walk? (n + t.levels) t names
    return (n, t) :: found

variable {s t : Shape} {n : Nat} {name : String} {names : List String}
  {found : List (Nat × Shape)}

theorem isList_eq_levels (s : Shape) : s.isList = decide (0 < s.levels) := by
  cases s <;> simp [isList, levels]

theorem isList_type (s : Shape) : s.type.isList = s.isList := by cases s <;> rfl

theorem levels_of_not_list (h : s.isList = false) : s.levels = 0 := by
  rw [isList_eq_levels] at h
  simpa using h

theorem levels_le_one (h : s.isFlat = true) : s.levels ≤ 1 := by
  cases s with
  | list element =>
    have helement : element.levels = 0 := levels_of_not_list (Bool.not_eq_true' _ ▸ h)
    simp only [levels, helement, Nat.zero_add, Nat.le_refl]
  | _ => exact Nat.zero_le 1

theorem exists_list_of_levels (h : 2 ≤ s.levels) : ∃ element, s = .list (.list element) := by
  cases s with
  | list element =>
    cases element with
    | list element => exact ⟨element, rfl⟩
    | _ => simp only [levels] at h; omega
  | _ => simp only [levels] at h; omega

theorem walk?_cons : s.walk? n (name :: names) = some found ↔
    ∃ t rest, s.innermost.field? name = some t ∧ t.walk? (n + t.levels) names = some rest ∧
      found = (n, t) :: rest := by
  rw [walk?]
  constructor
  · intro h
    obtain ⟨t, ht, h⟩ := Option.bind_eq_some_iff.mp h
    obtain ⟨rest, hrest, h⟩ := Option.bind_eq_some_iff.mp h
    exact ⟨t, rest, ht, hrest, (Option.some.inj h).symm⟩
  · rintro ⟨t, rest, ht, hrest, rfl⟩
    rw [ht, Option.bind_eq_bind, Option.bind_some, hrest]
    rfl

-- No list is entered within a list.
def Single (found : List (Nat × Shape)) : Prop := ∀ e ∈ found, 0 < e.1 → e.2.isList = false

theorem single_cons : Single ((n, t) :: found) ↔ (0 < n → t.isList = false) ∧ Single found :=
  List.forall_mem_cons

theorem walk?_within (hn : 0 < n) (h : s.walk? n names = some found) (hsingle : Single found) :
    ∀ e ∈ found, e.1 = n := by
  induction names generalizing s found with
  | nil =>
    cases h
    exact nofun
  | cons name names ih =>
    obtain ⟨t, rest, -, hrest, rfl⟩ := walk?_cons.mp h
    obtain ⟨ht, hsingle⟩ := single_cons.mp hsingle
    rw [levels_of_not_list (ht hn), Nat.add_zero] at hrest
    exact List.forall_mem_cons.mpr ⟨rfl, ih hrest hsingle⟩

theorem walk?_le_one (hflat : s.everywhere isFlat = true) (h : s.walk? 0 names = some found)
    (hsingle : Single found) : ∀ e ∈ found, e.1 ≤ 1 := by
  induction names generalizing s found with
  | nil =>
    cases h
    exact nofun
  | cons name names ih =>
    obtain ⟨t, rest, ht, hrest, rfl⟩ := walk?_cons.mp h
    have hsingle := (single_cons.mp hsingle).2
    have htflat := everywhere_field (everywhere_innermost hflat) ht
    have hlevels := levels_le_one (everywhere_self htflat)
    rw [Nat.zero_add] at hrest
    refine List.forall_mem_cons.mpr ⟨Nat.zero_le 1, ?_⟩
    rcases Nat.eq_zero_or_pos t.levels with hzero | hpos
    · rw [hzero] at hrest
      exact ih htflat hrest hsingle
    · intro e he
      rw [walk?_within hpos hrest hsingle e he]
      exact hlevels

end Shape

namespace Standing

structure IsWithin (st : Standing) (n : Nat) (s : Shape) : Prop where
  shape : st.shape? = some s.innermost
  dataType : st.type.dataType = s.type.dataType
  isList : st.type.isList = decide (0 < n)

variable {g : Ground} {st u : Standing} {n : Nat} {s : Shape} {name : String}

theorem IsWithin.ofShape (h : st.IsWithin n s) (t : Shape) :
    (ofShape t st.type.isList).IsWithin (n + t.levels) t := by
  refine ⟨rfl, rfl, ?_⟩
  change (t.type.isList || st.type.isList) = _
  rw [Shape.isList_type, Shape.isList_eq_levels, h.isList, ← Bool.decide_or]
  exact decide_eq_decide.mpr (by omega)

theorem IsWithin.field_eq_ok_iff (h : st.IsWithin n s) (hs : s.everywhere Shape.isKnown = true)
    (hfree : st.atRoot = true → g.isBlocked name = false) :
    st.field g name = .ok u ↔ ∃ t, s.innermost.field? name = some t ∧
      (0 < n → t.isList = false) ∧ u = Standing.ofShape t st.type.isList := by
  have hblocked : ¬(st.atRoot && g.isBlocked name) = true := by
    rw [Bool.and_eq_true]
    rintro ⟨hroot, hb⟩
    rw [hfree hroot] at hb
    cases hb
  cases hf : s.innermost.field? name with
  | none =>
    have herror : ∃ c, st.field g name = .error c := by
      rw [field, if_neg hblocked]
      split
      · next hu => exact absurd (h.dataType.symm.trans hu) (Shape.dataType_of_known hs)
      · rw [h.shape, Option.bind_some, hf]
        exact ⟨_, rfl⟩
      · exact ⟨_, rfl⟩
    obtain ⟨c, hc⟩ := herror
    rw [hc]
    constructor
    · intro hu
      cases hu
    · rintro ⟨t, ht, -⟩
      cases ht
  | some t =>
    have hrecord : st.type.dataType = .record := h.dataType.trans (Shape.dataType_of_field hf)
    have hshape : st.shape?.bind (·.field? name) = some t := by rw [h.shape, Option.bind_some, hf]
    have hlists : (st.type.isList && t.isList) = true ↔ ¬(0 < n → t.isList = false) := by
      simp [h.isList]
    rw [field_of_record hrecord hshape, if_neg hblocked]
    constructor
    · intro hu
      split at hu
      · cases hu
      · next hl => exact ⟨t, rfl, not_not.mp (mt hlists.mpr hl), (Except.ok.inj hu).symm⟩
    · rintro ⟨t', ht', hlist, rfl⟩
      obtain rfl := Option.some.inj ht'
      exact if_neg fun hl => hlists.mp hl hlist

theorem IsWithin.complaints_fields (h : st.IsWithin n s) (hs : s.everywhere Shape.isKnown = true)
    {names : List String}
    (hfree : st.atRoot = true → ∀ name, names.head? = some name → g.isBlocked name = false)
    (current : Standing) (inFilter : Bool) :
    Note.allComplaints (Segment.notes g current inFilter st (names.map Segment.field)).1 = [] ↔
      ∃ found, s.walk? n names = some found ∧ Shape.Single found := by
  induction names generalizing st n s with
  | nil => exact iff_of_true rfl ⟨[], rfl, nofun⟩
  | cons name names ih =>
    have hfirst (u : Standing) := h.field_eq_ok_iff (u := u) hs fun hroot => hfree hroot name rfl
    rw [List.map_cons, Segment.complaints_field_cons]
    constructor
    · rintro ⟨u, hu, hc⟩
      obtain ⟨t, ht, hlist, rfl⟩ := (hfirst u).mp hu
      have hts := Shape.everywhere_field (Shape.everywhere_innermost hs) ht
      obtain ⟨found, hfound, hsingle⟩ := (ih (h.ofShape t) hts nofun).mp hc
      exact ⟨(n, t) :: found, Shape.walk?_cons.mpr ⟨t, found, ht, hfound, rfl⟩,
        Shape.single_cons.mpr ⟨hlist, hsingle⟩⟩
    · rintro ⟨found, hfound, hsingle⟩
      obtain ⟨t, rest, ht, hrest, rfl⟩ := Shape.walk?_cons.mp hfound
      obtain ⟨hlist, hsingle⟩ := Shape.single_cons.mp hsingle
      have hts := Shape.everywhere_field (Shape.everywhere_innermost hs) ht
      exact ⟨_, (hfirst _).mpr ⟨t, ht, hlist, rfl⟩,
        (ih (h.ofShape t) hts nofun).mpr ⟨rest, hrest, hsingle⟩⟩

end Standing

section Run

variable {maps : Bool} {codecs : Codecs} {current root v : Value} {s : Shape} {name : String}
  {names : List String} {found : List (Nat × Shape)}

theorem Value.readField_lists {vs : List Value} (h : ∀ v ∈ vs, v.kind = .sequence) :
    (Value.sequence vs).readField name = .error (.keyNotFound name) := by
  have hnone : vs.filterMap (·.lookup? name) = [] := by
    refine List.filterMap_eq_nil_iff.mpr fun v hv => ?_
    obtain ⟨ws, rfl⟩ := Value.kind_eq_sequence.mp (h v hv)
    rfl
  simp only [Value.readField, hnone]

theorem Conforms.kinds_of_lists {element : Shape} (h : Conforms maps (.list (.list element)) v) :
    ∃ vs, v = .sequence vs ∧ ∀ w ∈ vs, w.kind = .sequence := by
  obtain ⟨vs, rfl, hvs⟩ := Conforms.list_iff.mp h
  refine ⟨vs, rfl, fun w hw => ?_⟩
  obtain ⟨ws, rfl, -⟩ := Conforms.list_iff.mp (hvs w hw)
  rfl

theorem Conforms.evalAll_field (codecs : Codecs) (current root : Value) {t : Shape}
    (h : Conforms maps s v) (ht : s.field? name = some t) (segments : List Segment) : ∃ w, Conforms maps t w ∧
      Segment.evalAll codecs current root v (.field name :: segments) =
        Segment.evalAll codecs current root w segments := by
  cases s with
  | record fields =>
    obtain ⟨hcovers, hfields⟩ := Conforms.record_iff.mp h
    obtain ⟨w, hw, hc⟩ := hfields name t ht
    refine ⟨w, hc, ?_⟩
    rw [Segment.evalAll, hcovers.isNull_eq_false, Segment.eval,
      Standing.readField_of_lookup hcovers hw]
    rfl
  | _ => cases ht

theorem Conforms.evalAll_lists (h : Conforms maps s v) (hs : s.isList = false)
    (hwalk : s.walk? 0 names = some found) (hsingle : Shape.Single found)
    (hdeep : ∃ e ∈ found, 2 ≤ e.1) :
    ∃ name ∈ names, Segment.evalAll codecs current root v (names.map Segment.field) =
      .error (.keyNotFound name) := by
  induction names generalizing s v found with
  | nil =>
    cases hwalk
    obtain ⟨e, he, -⟩ := hdeep
    cases he
  | cons name names ih =>
    obtain ⟨t, rest, ht, hrest, rfl⟩ := Shape.walk?_cons.mp hwalk
    rw [Shape.innermost_of_not_list hs] at ht
    rw [Nat.zero_add] at hrest
    have hsingle := (Shape.single_cons.mp hsingle).2
    have hdeep : ∃ e ∈ rest, 2 ≤ e.1 := by
      obtain ⟨e, he, hle⟩ := hdeep
      rcases List.mem_cons.mp he with rfl | he
      · cases hle
      · exact ⟨e, he, hle⟩
    obtain ⟨w, hw, hrun⟩ := h.evalAll_field codecs current root ht (names.map Segment.field)
    rw [List.map_cons, hrun]
    by_cases hlist : t.isList = false
    · rw [Shape.levels_of_not_list hlist] at hrest
      obtain ⟨other, hmem, herror⟩ := ih hw hlist hrest hsingle hdeep
      exact ⟨other, List.mem_cons_of_mem name hmem, herror⟩
    · have hpos : 0 < t.levels := by
        simpa [Shape.isList_eq_levels, Nat.pos_iff_ne_zero] using hlist
      obtain ⟨e, he, hle⟩ := hdeep
      rw [Shape.walk?_within hpos hrest hsingle e he] at hle
      obtain ⟨element, rfl⟩ := Shape.exists_list_of_levels hle
      obtain ⟨vs, rfl, hvs⟩ := hw.kinds_of_lists
      cases names with
      | nil =>
        cases hrest
        cases he
      | cons other names =>
        refine ⟨other, List.mem_cons_of_mem name (List.mem_cons_self ..), ?_⟩
        rw [List.map_cons, Segment.evalAll, Segment.eval, Value.readField_lists hvs]
        rfl

theorem Path.eval_document (codecs : Codecs) (d : Value) {p : Path} (hp : p.inFilter = false) :
    p.eval codecs d d = Segment.evalAll codecs d d d p.segments := by
  obtain ⟨origin, inFilter, asPredicate, segments⟩ := p
  cases hp
  cases origin <;> rw [Path.eval]

end Run

def Shape.OneLevel (found : List (Nat × Shape)) : Prop :=
  ∀ e ∈ found, e.1 ≤ 1 ∧ (e.1 = 1 → e.2.isList = false)

theorem Shape.oneLevel_iff {found : List (Nat × Shape)} :
    OneLevel found ↔ (∀ e ∈ found, e.1 ≤ 1) ∧ Single found := by
  constructor
  · intro h
    refine ⟨fun e he => (h e he).1, fun e he hpos => (h e he).2 ?_⟩
    exact Nat.le_antisymm (h e he).1 hpos
  · rintro ⟨hle, hsingle⟩ e he
    exact ⟨hle e he, fun hone => hsingle e he (hone ▸ Nat.one_pos)⟩

theorem Query.validate_fields {schema : Schema} {target : String} {g : Ground}
    (hg : schema.ground target = .ok g) (hknown : schema.root.everywhere Shape.isKnown = true)
    {p : Path} {names : List String} (hp : p.segments = names.map Segment.field)
    (hfree : ∀ name, names.head? = some name → g.isBlocked name = false) :
    (((Query.path p).validate g).note.complaints = [] ↔
      ∃ found, schema.root.walk? 0 names = some found ∧ Shape.Single found) ∧
    (schema.root.everywhere Shape.isFlat = true →
      (((Query.path p).validate g).note.complaints = [] ↔
        ∃ found, schema.root.walk? 0 names = some found ∧ Shape.OneLevel found)) ∧
    ∀ found, schema.root.walk? 0 names = some found → (∃ e ∈ found, 2 ≤ e.1) →
      ((Query.path p).validate g).note.complaints = [] → p.inFilter = false →
      ∀ (maps : Bool) (codecs : Codecs) (d : Value), Conforms maps schema.root d →
        ∃ name ∈ names, (Query.path p).eval codecs d d = .error (.keyNotFound name) := by
  obtain ⟨blocked, -, rfl⟩ := Schema.ground_eq_ok.mp hg
  have hstart : (Ground.standing ⟨schema.root, blocked⟩).IsWithin 0 schema.root := ⟨rfl, rfl, rfl⟩
  have hvalid : ((Query.path p).validate ⟨schema.root, blocked⟩).note.complaints = [] ↔
      ∃ found, schema.root.walk? 0 names = some found ∧ Shape.Single found := by
    rw [Query.complaints_validate_path, hp]
    exact hstart.complaints_fields hknown (fun _ => hfree) _ false
  refine ⟨hvalid, fun hflat => ?_, ?_⟩
  · rw [hvalid]
    refine exists_congr fun found => and_congr_right fun hwalk => ?_
    rw [Shape.oneLevel_iff]
    exact ⟨fun hsingle => ⟨Shape.walk?_le_one hflat hwalk hsingle, hsingle⟩, And.right⟩
  · intro found hwalk hdeep hcomplaints hfilter maps codecs d hd
    obtain ⟨found', hwalk', hsingle⟩ := hvalid.mp hcomplaints
    obtain rfl := Option.some.inj (hwalk.symm.trans hwalk')
    rw [Query.eval, Path.eval_document codecs d hfilter, hp]
    exact hd.evalAll_lists rfl hwalk hsingle hdeep

theorem Query.validate_fields_rows_grid :
    let rows : Schema := ⟨[⟨"out", [], false⟩, ⟨"rows", [], false⟩],
      [("out", .bool), ("rows", .list (.record [("id", .number)]))]⟩
    let grid : Schema := ⟨[⟨"grid", [], false⟩, ⟨"out", [], false⟩],
      [("grid", .list (.list (.record [("x", .number)]))), ("out", .bool)]⟩
    let id : Path := ⟨.root, false, false, ["rows", "id"].map .field⟩
    let x : Path := ⟨.root, false, false, ["grid", "x"].map .field⟩
    let d : Value := .record [("grid", .sequence [.sequence [.record [("x", .number .zero)]]]),
      ("out", .bool true)]
    ((Query.path id).validate ⟨rows.root, ["out"]⟩).note.complaints = [] ∧
      ((Query.path x).validate ⟨grid.root, ["out"]⟩).note.complaints = [] ∧
      Conforms false grid.root d ∧
      ∃ name ∈ ["grid", "x"], (Query.path x).eval (.none .bare) d d = .error (.keyNotFound name) := by
  intro rows grid id x d
  have hd : Conforms false grid.root d := by
    refine @Conforms.record_of_entries false [("grid", .list (.list _), .sequence [.sequence [_]]),
      ("out", .bool, _)] ?_
    have hx : Conforms false (.record [("x", .number)]) (.record [("x", .number .zero)]) :=
      @Conforms.record_of_entries false [("x", .number, .number .zero)]
        (List.forall_mem_singleton.mpr (.number .zero))
    have hgrid := Conforms.list (List.forall_mem_singleton.mpr hx)
    exact List.forall_mem_cons.mpr ⟨.list (List.forall_mem_singleton.mpr hgrid),
      List.forall_mem_singleton.mpr (.bool true)⟩
  obtain ⟨-, hid, -⟩ := @Query.validate_fields rows "out" _ rfl rfl id ["rows", "id"] rfl
    (by rintro _ ⟨⟩; rfl)
  obtain ⟨hx, -, hfails⟩ := @Query.validate_fields grid "out" _ rfl rfl x ["grid", "x"] rfl
    (by rintro _ ⟨⟩; rfl)
  have hxvalid := hx.mpr ⟨_, rfl, List.forall_mem_cons.mpr
    ⟨nofun, List.forall_mem_singleton.mpr fun _ => rfl⟩⟩
  refine ⟨(hid rfl).mpr ⟨_, rfl, ?_⟩, hxvalid, hd, ?_⟩
  · exact List.forall_mem_cons.mpr
      ⟨⟨Nat.zero_le 1, nofun⟩, List.forall_mem_singleton.mpr ⟨Nat.le_refl 1, fun _ => rfl⟩⟩
  · exact hfails _ rfl ⟨_, List.mem_cons_of_mem _ (List.mem_singleton_self _), Nat.le_refl 2⟩ hxvalid
      rfl false (.none .bare) d hd

theorem Query.validate_fields_behind_lists :
    let schema : Schema := ⟨[⟨"grid", [], false⟩, ⟨"out", [], false⟩],
      [("grid", .list (.list (.record [("x", .number)]))), ("out", .bool)]⟩
    let g : Ground := ⟨schema.root, ["out"]⟩
    let p : Path := ⟨.root, false, false, ["grid", "x"].map .field⟩
    schema.ground "out" = .ok g ∧ schema.root.everywhere Shape.isKnown = true ∧
      g.isBlocked "grid" = false ∧
      ¬(((Query.path p).validate g).note.complaints = [] ↔
        ∃ found, schema.root.walk? 0 ["grid", "x"] = some found ∧ Shape.OneLevel found) := by
  intro schema g p
  refine ⟨rfl, rfl, by decide +kernel, fun h => ?_⟩
  have hvalid : ((Query.path p).validate g).note.complaints = [] := by decide +kernel
  obtain ⟨found, hwalk, hone⟩ := h.mp hvalid
  obtain rfl := Option.some.inj hwalk
  have hdeep := (hone _ (List.mem_cons_of_mem _ (List.mem_singleton_self _))).1
  exact absurd hdeep (by decide)

end PathQuery
