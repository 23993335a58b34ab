import PathQuery.Proofs.Grammar.Completion

namespace PathQuery.Grammar

open PartialQuery

inductive Part where
  | path (role : Role)
  | segments
  | arguments
  | operand (role : Role)
  | operands (role : Role)
  | group (role : Role)

-- Behind the tokens the part may start.
inductive Opens : Part → List Token → Prop where
  | query : Opens (.path .query) []
  | queryGroup : Opens (.group .operand) []
  | origin {role : Role} {ts : List Token} (o : Origin) (allowed : o = .root → role.inFilter = false)
    (h : Opens (.path role) ts) : Opens .segments (ts ++ [originToken o])
  | segment {ts : List Token} (s : SegmentDerivation) (h : Opens .segments ts) :
    Opens .segments (ts ++ s.tokens)
  | predicate {ts : List Token} (h : Opens .segments ts) :
    Opens (.operand .filterOperand) (ts ++ [.rune '['])
  | call {ts : List Token} (name : String) (h : Opens .segments ts) :
    Opens .arguments (ts ++ [.rune '.', .ident name, .rune '('])
  | argument {ts : List Token} (a : ArgumentDerivation) (h : Opens .arguments ts) :
    Opens .arguments (ts ++ (a.tokens ++ [.rune ',']))
  | argumentPath {ts : List Token} (h : Opens .arguments ts) : Opens (.path .argument) ts
  | brace {role : Role} {ts : List Token} (word? : Option String) (h : Opens (.group role) ts) :
    Opens (.operands role) (ts ++ .rune '\x7b' :: wordTokens word?)
  | operands {role : Role} {ts : List Token} (o : OperandDerivation role)
    (h : Opens (.operands role) ts) : Opens (.operands role) (ts ++ (o.tokens ++ [.rune ',']))
  | operand {role : Role} {ts : List Token} (h : Opens (.operands role) ts) :
    Opens (.operand role) ts
  | operandPath {role : Role} {ts : List Token} (h : Opens (.operand role) ts) :
    Opens (.path role) ts
  | operandGroup {role : Role} {ts : List Token} (h : Opens (.operand role) ts) :
    Opens (.group role) ts

section Cut

variable {t u : Token} {ts ts' xs us : List Token}

theorem mem_of_cut (h : ts = xs ++ t :: us) : t ∈ ts := by simp [h]

theorem cut_skip (hu : u ≠ t) (h : u :: ts = xs ++ t :: us) :
    ∃ ys, xs = u :: ys ∧ ts = ys ++ t :: us := by
  cases xs with
  | nil => exact absurd (List.cons.inj h).1 hu
  | cons x xs =>
    obtain ⟨rfl, h'⟩ := List.cons.inj h
    exact ⟨xs, rfl, h'⟩

theorem cut_append (h : ts ++ ts' = xs ++ t :: us) :
    (∃ vs, ts = xs ++ t :: vs) ∨ ∃ ys, xs = ts ++ ys ∧ ts' = ys ++ t :: us := by
  rcases List.append_eq_append_iff.mp h with ⟨ys, hxs, h'⟩ | ⟨ys, hts, h'⟩
  · exact .inr ⟨ys, hxs, h'⟩
  · cases ys with
    | nil => exact .inr ⟨[], by simp [hts], h'.symm⟩
    | cons y ys =>
      obtain ⟨rfl, -⟩ := List.cons.inj h'
      exact .inl ⟨ys, hts⟩

theorem cut_left (ht : t ∉ ts') (h : ts ++ ts' = xs ++ t :: us) : ∃ vs, ts = xs ++ t :: vs := by
  rcases cut_append h with hleft | ⟨ys, -, h'⟩
  · exact hleft
  · exact absurd (by simp [h']) ht

end Cut

def OpensPath (ts : List Token) : Prop := ∃ role, Opens (.path role) ts

mutual

theorem PathDerivation.opensPath {role : Role} : ∀ (p : PathDerivation role) {ts xs us : List Token},
    Opens (.path role) ts → p.tokens = xs ++ .rune '@' :: us → OpensPath (ts ++ xs)
  | .mk origin allowed segments, ts, xs, us, h, ht => by
    cases xs with
    | nil => exact ⟨role, by rwa [List.append_nil]⟩
    | cons x xs =>
      obtain ⟨rfl, hs⟩ := List.cons.inj ht
      simpa using segments.opensPath (h.origin origin allowed) hs
termination_by structural p => p

theorem SegmentsDerivation.opensPath : ∀ (s : SegmentsDerivation) {ts xs us : List Token},
    Opens .segments ts → s.tokens = xs ++ .rune '@' :: us → OpensPath (ts ++ xs)
  | .nil, _, _, _, _, ht => absurd ht (by simp [SegmentsDerivation.tokens])
  | .cons first rest, ts, xs, us, h, ht => by
    rcases cut_append ht with ⟨vs, hf⟩ | ⟨ys, rfl, hr⟩
    · exact first.opensPath h hf
    · simpa using rest.opensPath (h.segment first) hr
termination_by structural s => s

theorem SegmentDerivation.opensPath : ∀ (s : SegmentDerivation) {ts xs us : List Token},
    Opens .segments ts → s.tokens = xs ++ .rune '@' :: us → OpensPath (ts ++ xs)
  | .field name, _, _, _, _, ht => absurd (mem_of_cut ht) (by simp [SegmentDerivation.tokens])
  | .emptyCall name, _, _, _, _, ht => absurd (mem_of_cut ht) (by simp [SegmentDerivation.tokens])
  | .call name arguments, ts, xs, us, h, ht => by
    obtain ⟨xs, rfl, hdot⟩ := cut_skip (by simp) ht
    obtain ⟨xs, rfl, hname⟩ := cut_skip (by simp) hdot
    obtain ⟨xs, rfl, hparen⟩ := cut_skip (by simp) hname
    obtain ⟨vs, ha⟩ := cut_left (by simp) hparen
    simpa using arguments.opensPath (h.call name) ha
  | .filter o, ts, xs, us, h, ht => by
    obtain ⟨xs, rfl, hbracket⟩ := cut_skip (by simp) ht
    obtain ⟨vs, ho⟩ := cut_left (by simp) hbracket
    simpa using o.opensPath h.predicate ho
termination_by structural s => s

theorem ArgumentsDerivation.opensPath : ∀ (a : ArgumentsDerivation) {ts xs us : List Token},
    Opens .arguments ts → a.tokens = xs ++ .rune '@' :: us → OpensPath (ts ++ xs)
  | .one a, _, _, _, h, ht => a.opensPath h ht
  | .more a rest, ts, xs, us, h, ht => by
    rcases cut_append ht with ⟨vs, ha⟩ | ⟨ys, rfl, hr⟩
    · exact a.opensPath h ha
    · obtain ⟨ys, rfl, hcomma⟩ := cut_skip (by simp) hr
      simpa using rest.opensPath (h.argument a) hcomma
termination_by structural a => a

theorem ArgumentDerivation.opensPath : ∀ (a : ArgumentDerivation) {ts xs us : List Token},
    Opens .arguments ts → a.tokens = xs ++ .rune '@' :: us → OpensPath (ts ++ xs)
  | .number _ _ _, _, _, _, _, ht => absurd (mem_of_cut ht) (by simp [ArgumentDerivation.tokens])
  | .string _, _, _, _, _, ht => absurd (mem_of_cut ht) (by simp [ArgumentDerivation.tokens])
  | .bool _, _, _, _, _, ht => absurd (mem_of_cut ht) (by simp [ArgumentDerivation.tokens])
  | .path p, _, _, _, h, ht => p.opensPath h.argumentPath ht
termination_by structural a => a

theorem OperandDerivation.opensPath {role : Role} : ∀ (o : OperandDerivation role)
    {ts xs us : List Token}, Opens (.operand role) ts → o.tokens = xs ++ .rune '@' :: us →
    OpensPath (ts ++ xs)
  | .path p, _, _, _, h, ht => p.opensPath h.operandPath ht
  | .group g, _, _, _, h, ht => g.opensPath h.operandGroup ht
termination_by structural o => o

theorem OperandsDerivation.opensPath {role : Role} : ∀ (o : OperandsDerivation role)
    {ts xs us : List Token}, Opens (.operands role) ts → o.tokens = xs ++ .rune '@' :: us →
    OpensPath (ts ++ xs)
  | .one o, _, _, _, h, ht => o.opensPath h.operand ht
  | .more o rest, ts, xs, us, h, ht => by
    rcases cut_append ht with ⟨vs, ho⟩ | ⟨ys, rfl, hr⟩
    · exact o.opensPath h.operand ho
    · obtain ⟨ys, rfl, hcomma⟩ := cut_skip (by simp) hr
      simpa using rest.opensPath (h.operands o) hcomma
termination_by structural o => o

theorem GroupDerivation.opensPath {role : Role} : ∀ (g : GroupDerivation role)
    {ts xs us : List Token}, Opens (.group role) ts → g.tokens = xs ++ .rune '@' :: us →
    OpensPath (ts ++ xs)
  | .mk word? operands, ts, xs, us, h, ht => by
    obtain ⟨xs, rfl, hbrace⟩ := cut_skip (by simp) ht
    obtain ⟨vs, hinner⟩ := cut_left (by simp) hbrace
    rcases cut_append hinner with ⟨vs, hw⟩ | ⟨ys, rfl, ho⟩
    · cases word? <;> simp [wordTokens, List.cons_eq_append_iff] at hw
    · simpa using operands.opensPath (h.brace word?) ho
termination_by structural g => g

end

theorem QueryDerivation.opensPath (d : QueryDerivation) {xs us : List Token}
    (h : d.tokens = xs ++ .rune '@' :: us) : OpensPath xs := by
  cases d with
  | path p =>
    obtain ⟨vs, hp⟩ := cut_left (by simp) h
    exact p.opensPath .query hp
  | group g =>
    obtain ⟨vs, hg⟩ := cut_left (by simp) h
    exact g.opensPath .queryGroup hg

def ReadsPath (ts : List Token) (role : Role) : Prop := ∃ c : PathContext,
  (∀ us, nothing.reading? (ts ++ .rune '@' :: us) = (startPath c .current).reading? us) ∧
    ∀ us, nothing.reading? (ts ++ .rune '$' :: us) =
      if role.inFilter then none else (startPath c .root).reading? us

def ReadsGroup (ts : List Token) (role : Role) : Prop := ∃ c : GroupContext, GroupFits c role ∧
  ∀ us, nothing.reading? (ts ++ .rune '\x7b' :: us) = (PartialQuery.brace c).reading? us

def ReadsOn (ts : List Token) : Part → Prop
  | .path role => ReadsPath ts role
  | .segments => ∃ p : OpenPath, ∀ us, us ≠ [] → us.head? ≠ some (.rune '(') →
    nothing.reading? (ts ++ us) = (PartialQuery.path p).reading? us
  | .arguments => ∃ c : OpenCall, ∀ us, us ≠ [] → (∀ vs, us ≠ .rune ')' :: vs) →
    nothing.reading? (ts ++ us) = (PartialQuery.argumentComma c).reading? us
  | .operand role => ReadsPath ts role ∧ ReadsGroup ts role
  | .operands role => ∃ g : OpenGroup, GroupFits g.context role ∧
    ∀ us, us ≠ [] → (∀ word vs, us ≠ .ident word :: vs) →
      nothing.reading? (ts ++ us) = (PartialQuery.operandComma g).reading? us
  | .group role => ReadsGroup ts role

variable {ts : List Token} {role : Role}

theorem ReadsOn.origin (o : Origin) (allowed : o = .root → role.inFilter = false)
    (h : ReadsOn ts (.path role)) : ReadsOn (ts ++ [originToken o]) .segments := by
  obtain ⟨c, hcurrent, hroot⟩ := h
  refine ⟨⟨c, o, []⟩, fun us _ _ => ?_⟩
  rw [List.append_assoc]
  cases o with
  | current => exact hcurrent us
  | root =>
    refine (hroot us).trans ?_
    rw [allowed rfl]
    rfl

theorem ReadsOn.segment (s : SegmentDerivation) (h : ReadsOn ts .segments) :
    ReadsOn (ts ++ s.tokens) .segments := by
  obtain ⟨p, hp⟩ := h
  refine ⟨p.push s.tree, fun us hne hhead => ?_⟩
  have hs : (s.tokens ++ us).head? ≠ some (.rune '(') := by
    rcases s.head_tokens us with h | h <;> simp [h]
  rw [List.append_assoc, hp _ (by simp [hne]) hs, s.reading? p hne hhead]

theorem ReadsOn.predicate (h : ReadsOn ts .segments) :
    ReadsOn (ts ++ [.rune '[']) (.operand .filterOperand) := by
  obtain ⟨p, hp⟩ := h
  have hb : ∀ us, nothing.reading? (ts ++ [.rune '['] ++ us) =
      (PartialQuery.bracket p).reading? us := fun us => by
    rw [List.append_assoc, List.singleton_append, hp _ (by simp) (by simp)]
    rfl
  exact ⟨⟨.filter p, fun us => hb _, fun us => hb _⟩, .filter p, ⟨rfl, rfl⟩, fun us => hb _⟩

theorem ReadsOn.call (name : String) (h : ReadsOn ts .segments) :
    ReadsOn (ts ++ [.rune '.', .ident name, .rune '(']) .arguments := by
  obtain ⟨p, hp⟩ := h
  refine ⟨⟨p, .named name, []⟩, fun us hne hhead => ?_⟩
  rw [List.append_assoc, hp _ (by simp) (by simp), ← reading?_parenthesis hne hhead]
  rfl

theorem ReadsOn.argument (a : ArgumentDerivation) (h : ReadsOn ts .arguments) :
    ReadsOn (ts ++ (a.tokens ++ [.rune ','])) .arguments := by
  obtain ⟨c, hc⟩ := h
  refine ⟨c.push a.tree, fun us _ _ => ?_⟩
  rw [List.append_assoc, List.append_assoc, List.singleton_append,
    hc _ (by simp) (fun vs => a.tokens_ne_paren _ vs), a.reading? c (by simp) (endsPath_comma us)]
  rfl

theorem ReadsOn.argumentPath (h : ReadsOn ts .arguments) : ReadsOn ts (.path .argument) := by
  obtain ⟨c, hc⟩ := h
  exact ⟨.argument c, fun us => hc _ (by simp) (by simp), fun us => hc _ (by simp) (by simp)⟩

theorem ReadsOn.brace (word? : Option String) (h : ReadsOn ts (.group role)) :
    ReadsOn (ts ++ .rune '\x7b' :: wordTokens word?) (.operands role) := by
  obtain ⟨c, hfits, hc⟩ := h
  cases word? with
  | none =>
    refine ⟨emptyGroup c, hfits, fun us hne hhead => ?_⟩
    rw [List.append_assoc, List.cons_append, hc]
    exact reading?_brace hne hhead
  | some word =>
    refine ⟨⟨c, .ofWord word, true, []⟩, hfits, fun us _ _ => ?_⟩
    rw [List.append_assoc, List.cons_append, hc]
    rfl

theorem ReadsOn.operands (o : OperandDerivation role) (h : ReadsOn ts (.operands role)) :
    ReadsOn (ts ++ (o.tokens ++ [.rune ','])) (.operands role) := by
  obtain ⟨g, hfits, hg⟩ := h
  refine ⟨g.push o.tree, hfits, fun us _ _ => ?_⟩
  rw [List.append_assoc, List.append_assoc, List.singleton_append,
    hg _ (by simp) (fun word vs => o.tokens_ne_ident word _ vs),
    o.reading? g hfits (by simp) (endsPath_comma us)]
  rfl

theorem ReadsOn.operand (h : ReadsOn ts (.operands role)) : ReadsOn ts (.operand role) := by
  obtain ⟨g, hfits, hg⟩ := h
  have hg : ∀ c us, nothing.reading? (ts ++ .rune c :: us) =
      (PartialQuery.operandComma g).reading? (.rune c :: us) := fun c us => hg _ (by simp) (by simp)
  refine ⟨⟨.operand g, fun us => hg _ us, fun us => ?_⟩, .operand g, hfits.operand,
    fun us => hg _ us⟩
  rw [hg, reading?_cons, next?, step, stepOperand, hfits.inFilter]
  cases role.inFilter <;> rfl

theorem Opens.readsOn {part : Part} (h : Opens part ts) : ReadsOn ts part := by
  induction h with
  | query => exact ⟨.query, fun us => rfl, fun us => rfl⟩
  | queryGroup => exact ⟨.query, ⟨rfl, rfl⟩, fun us => rfl⟩
  | origin o allowed _ ih => exact ih.origin o allowed
  | segment s _ ih => exact ih.segment s
  | predicate _ ih => exact ih.predicate
  | call name _ ih => exact ih.call name
  | argument a _ ih => exact ih.argument a
  | argumentPath _ ih => exact ih.argumentPath
  | brace word? _ ih => exact ih.brace word?
  | operands o _ ih => exact ih.operands o
  | operand _ ih => exact ih.operand
  | operandPath _ ih => exact ih.1
  | operandGroup _ ih => exact ih.2

theorem ReadsPath.current (h : ReadsPath ts role) :
    ∃ r, nothing.reading? (ts ++ [.rune '@']) = some r := by
  obtain ⟨c, hcurrent, -⟩ := h
  exact ⟨_, hcurrent []⟩

theorem ReadsPath.root_eq_none_iff (h : ReadsPath ts role) :
    nothing.reading? (ts ++ [.rune '$']) = none ↔ role = .filterOperand := by
  obtain ⟨c, -, hroot⟩ := h
  rw [hroot []]
  cases role <;> simp [Role.inFilter, reading?]

theorem opensPath_of_reading? {r : PartialQuery} (hend : .endOfInput ∉ ts)
    (h : nothing.reading? (ts ++ [.rune '@']) = some r) : OpensPath ts := by
  obtain ⟨q, hq⟩ := accepts_completion r
  have hread : nothing.Accepts (ts ++ .rune '@' :: r.completion ++ [.endOfInput]) :=
    ⟨q, by rw [List.append_cons ts, List.append_assoc, reading?_append, h, Option.bind_some, hq]⟩
  have hcompletion : .endOfInput ∉ r.completion := fun hmem => (r.completion_spelled _ hmem).2 rfl
  obtain ⟨d, hd⟩ := exists_derivation (by simp [hend, hcompletion]) hread
  rw [List.append_assoc, List.cons_append] at hd
  exact d.opensPath hd

theorem opens_filterOperand_iff (hend : .endOfInput ∉ ts) :
    Opens (.path .filterOperand) ts ↔ (∃ r, nothing.reading? (ts ++ [.rune '@']) = some r) ∧
      nothing.reading? (ts ++ [.rune '$']) = none := by
  constructor
  · intro h
    have hreads : ReadsPath ts .filterOperand := h.readsOn
    exact ⟨hreads.current, hreads.root_eq_none_iff.mpr rfl⟩
  · rintro ⟨⟨r, hr⟩, hroot⟩
    obtain ⟨role, hopens⟩ := opensPath_of_reading? hend hr
    have hreads : ReadsPath ts role := hopens.readsOn
    obtain rfl := hreads.root_eq_none_iff.mp hroot
    exact hopens

end PathQuery.Grammar
