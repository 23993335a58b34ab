import PathQuery.Proofs.Grammar.Exactness
import PathQuery.Proofs.Scan.Respelling
import PathQuery.Query.Printer

namespace PathQuery

open Scan

theorem Builtin.named?_name {f : Builtin} : Builtin.named? f.name = some f := by
  have h : ∀ f ∈ Builtin.all, Builtin.named? f.name = some f := by decide +kernel
  exact h f (Builtin.mem_all f)

theorem Callee.named_text (name : String) :
    Callee.named (Callee.named name).text = Callee.named name := by
  cases h : Builtin.named? name with
  | none => simp only [Callee.named, h, Callee.text]
  | some f => simp only [Callee.named, h, Callee.text, Builtin.named?_name]

theorem Operator.ofWord_cases (word : String) : Operator.ofWord word = .and ∨
    Operator.ofWord word = .or ∨ Operator.ofWord word = .invalid word := by
  unfold Operator.ofWord
  split
  · exact .inl rfl
  · split
    · exact .inr (.inl rfl)
    · exact .inr (.inr rfl)

theorem Operator.ofWord_text (word : String) :
    Operator.ofWord (Operator.ofWord word).text = Operator.ofWord word := by
  rcases Operator.ofWord_cases word with h | h | h
  · rw [h]; rfl
  · rw [h]; rfl
  · rw [h]; exact h

def Token.Scanned : Token → Prop
  | .ident name => ∃ cs rest, Scan.token anyIdent cs = (.ident name, rest)
  | .number text => ∃ cs rest, Scan.token anyIdent cs = (.number text, rest)
  | _ => True

theorem Token.scanned_token {cs rest : List Char} {t : Token}
    (h : Scan.token anyIdent cs = (t, rest)) :
    t.Scanned := by
  cases t with
  | ident name => exact ⟨cs, rest, h⟩
  | number text => exact ⟨cs, rest, h⟩
  | _ => trivial

theorem Scan.Yields.scanned {cs : List Char} {ts : List Token} (h : Yields anyIdent cs ts) :
    ∀ t ∈ ts, t.Scanned := by
  induction h with
  | finished => simp [Token.Scanned]
  | unterminated => simp [Token.Scanned]
  | token h ht _ ih => exact List.forall_mem_cons.mpr ⟨Token.scanned_token ht, ih⟩

theorem Token.scanned_callee {name : String} (h : (Token.ident name).Scanned) :
    (Token.ident (Callee.named name).text).Scanned := by
  have hb : ∀ f ∈ Builtin.all, Scan.token anyIdent f.name.toList = (.ident f.name, []) := by
    decide +kernel
  cases hn : Builtin.named? name with
  | none =>
    simp only [Callee.named, hn]
    exact h
  | some f =>
    simp only [Callee.named, hn]
    exact ⟨_, _, hb f (Builtin.mem_all f)⟩

theorem Token.scanned_operator {word : String} (h : (Token.ident word).Scanned) :
    (Token.ident (Operator.ofWord word).text).Scanned := by
  rcases Operator.ofWord_cases word with hw | hw | hw
  · rw [hw]; exact ⟨"AND".toList, [], by decide⟩
  · rw [hw]; exact ⟨"OR".toList, [], by decide⟩
  · rw [hw]; exact h

def Spells (follows : List Char → Prop) (s : String) (us : List Token) : Prop :=
  ∀ cs ts, follows cs → Yields anyIdent cs ts → Yields anyIdent (s.toList ++ cs) (us ++ ts)

def Reserved (cs : List Char) : Prop := ∀ c ∈ cs.head?, isReserved c = true

theorem Scan.Delimited.reserved {cs : List Char} (h : Delimited cs) : Reserved cs := by
  have hd : delimiters.all isReserved = true := by decide
  exact fun c hc => List.all_eq_true.mp hd c (h c hc)

theorem Reserved.startsOutside {cs : List Char} (h : Reserved cs) (i : Nat) :
    StartsOutside (anyIdent · i) cs := fun c hc => by simp [anyIdent, h c hc]

variable {follows : List Char → Prop}

theorem spells_empty : Spells (fun _ => True) "" [] := fun _ _ _ h => h

theorem spells_rune {s : String} {c : Char} (hs : s.toList = [c]) (hc : c ∈ punctuation) :
    Spells (fun _ => True) s [.rune c] := by
  intro cs ts _ h
  have hy := (respells_rune hc cs).yields h
  rw [show (Token.rune c).text = String.singleton c from rfl, String.toList_singleton] at hy
  rw [hs]
  exact hy

theorem spells_string (s : String) : Spells follows (Text.quote s) [.string s] :=
  fun cs _ _ h => (respells_string s cs).yields h

theorem spells_ident {name : String} (h : (Token.ident name).Scanned) :
    Spells Reserved name [.ident name] := by
  obtain ⟨cs, rest, ht⟩ := h
  exact fun follow _ hf h => (respells_ident ht hf.startsOutside).yields h

theorem spells_number {text : String} (h : (Token.number text).Scanned) :
    Spells Delimited text [.number text] := by
  obtain ⟨cs, rest, ht⟩ := h
  exact fun follow _ hf h => (hf.respells_number ht).yields h

theorem Spells.append {follows' : List Char → Prop} {s s' : String} {us us' : List Token}
    (h : Spells follows s us) (h' : Spells follows' s' us')
    (hf : ∀ cs, follows' cs → follows (s'.toList ++ cs)) :
    Spells follows' (s ++ s') (us ++ us') := by
  intro cs ts hcs hy
  rw [String.toList_append, List.append_assoc, List.append_assoc]
  exact h _ _ (hf cs hcs) (h' cs ts hcs hy)

theorem Spells.anywhere {s : String} {us : List Token} (h : Spells (fun _ => True) s us) :
    Spells follows s us := fun cs ts _ => h cs ts trivial

theorem Spells.after_rune {s s' : String} (c : Char) {us : List Token} (h : Spells follows s' us)
    (hs : s.toList = [c]) (hc : c ∈ punctuation) : Spells follows (s ++ s') (.rune c :: us) :=
  (spells_rune hs hc).append h fun _ _ => trivial

theorem Spells.before_rune {s t : String} (c : Char) {us : List Token} (h : Spells follows s us)
    (ht : t.toList = [c]) (hc : c ∈ punctuation) (hf : ∀ cs, follows (c :: cs)) :
    Spells (fun _ => True) (s ++ t) (us ++ [.rune c]) :=
  h.append (spells_rune ht hc) fun cs _ => by
    rw [ht]
    exact hf cs

theorem Spells.comma {follows' : List Char → Prop} {s s' : String} {us us' : List Token}
    (h : Spells follows s us) (h' : Spells follows' s' us') (hf : ∀ cs, follows (',' :: cs)) :
    Spells follows' (s ++ ("," ++ s')) (us ++ .rune ',' :: us') :=
  h.append (h'.after_rune ',' rfl (by decide)) fun cs _ => by
    rw [String.toList_append]
    exact hf _

theorem reserved_punctuation {c : Char} (hc : c ∈ punctuation) (cs : List Char) :
    Reserved (c :: cs) := by
  have hp : punctuation.all isReserved = true := by decide
  simpa [Reserved] using List.all_eq_true.mp hp c hc

theorem delimited_cons {c : Char} (hc : c ∈ delimiters) (cs : List Char) : Delimited (c :: cs) := by
  simpa [Delimited] using hc

namespace Grammar

theorem OperandDerivation.predicate_eq {role : Role} {o o' : OperandDerivation role}
    (h : o.tree = o'.tree) : o.predicate = o'.predicate := by
  cases o <;> cases o' <;> simp_all [OperandDerivation.tree, OperandDerivation.predicate]

theorem OperandDerivation.predicate_text {role : Role} (o : OperandDerivation role) :
    o.predicate.text = o.tree.text := by
  cases o <;> rfl

theorem segmentsText_reserved {segments : List Segment} {cs : List Char} (h : Delimited cs) :
    Reserved ((Path.segmentsText segments).toList ++ cs) := by
  cases segments with
  | nil => exact h.reserved
  | cons s segments =>
    cases s <;> simp [Path.segmentsText, Segment.stepText, Reserved, isReserved]

theorem ArgumentsDerivation.tailText_trees (a : ArgumentsDerivation) :
    Argument.tailText a.trees = "," ++ Argument.listText a.trees := by
  cases a <;> exact String.append_assoc

theorem OperandsDerivation.tailText_trees {role : Role} (o : OperandsDerivation role) :
    Query.tailText o.trees = "," ++ Query.listText o.trees := by
  cases o <;> exact String.append_assoc

mutual

theorem PathDerivation.spells {role : Role} : ∀ (p : PathDerivation role),
    (∀ t ∈ p.tokens, t.Scanned) →
    ∃ p' : PathDerivation role, p'.tree = p.tree ∧ Spells Delimited p.tree.text p'.tokens
  | .mk origin allowed segments, h => by
    obtain ⟨s, hs, hy⟩ := SegmentsDerivation.spells segments fun t ht =>
      h t (by simp [PathDerivation.tokens, ht])
    refine ⟨.mk origin allowed s, by simp [PathDerivation.tree, hs], ?_⟩
    have ho : Spells (fun _ => True) origin.text [originToken origin] := by
      cases origin with
      | root => exact spells_rune rfl (by decide)
      | current => exact spells_rune rfl (by decide)
    exact ho.append hy fun _ _ => trivial
termination_by structural x => x

theorem SegmentsDerivation.spells : ∀ (s : SegmentsDerivation), (∀ t ∈ s.tokens, t.Scanned) →
    ∃ s' : SegmentsDerivation, s'.trees = s.trees ∧
      Spells Delimited (Path.segmentsText s.trees) s'.tokens
  | .nil, _ => ⟨.nil, rfl, spells_empty.anywhere⟩
  | .cons first rest, h => by
    obtain ⟨f, hf, hfy⟩ := SegmentDerivation.spells first fun t ht =>
      h t (by simp [SegmentsDerivation.tokens, ht])
    obtain ⟨r, hr, hry⟩ := SegmentsDerivation.spells rest fun t ht =>
      h t (by simp [SegmentsDerivation.tokens, ht])
    refine ⟨.cons f r, by simp [SegmentsDerivation.trees, hf, hr], ?_⟩
    exact hfy.append hry fun _ hcs => segmentsText_reserved hcs
termination_by structural x => x

theorem SegmentDerivation.spells : ∀ (s : SegmentDerivation), (∀ t ∈ s.tokens, t.Scanned) →
    ∃ s' : SegmentDerivation, s'.tree = s.tree ∧ Spells Reserved s.tree.stepText s'.tokens
  | .field name, h => by
    simp only [SegmentDerivation.tokens, List.forall_mem_cons] at h
    exact ⟨.field name, rfl, (spells_ident h.2.1).after_rune '.' rfl (by decide)⟩
  | .emptyCall name, h => by
    simp only [SegmentDerivation.tokens, List.forall_mem_cons] at h
    refine ⟨.emptyCall (Callee.named name).text, ?_, ?_⟩
    · simp [SegmentDerivation.tree, Callee.named_text]
    · have hn := spells_ident (Token.scanned_callee h.2.1)
      have ho := (hn.after_rune (s := ".") '.' rfl (by decide)).before_rune (t := "(") '(' rfl
        (by decide) (reserved_punctuation (by decide))
      have ha := ho.append spells_empty fun _ _ => trivial
      exact (ha.before_rune ')' rfl (by decide) fun _ => trivial).anywhere
  | .call name arguments, h => by
    simp only [SegmentDerivation.tokens, List.forall_mem_cons, List.forall_mem_append] at h
    obtain ⟨a, hat, hay⟩ := ArgumentsDerivation.spells arguments h.2.2.2.1
    refine ⟨.call (Callee.named name).text a, ?_, ?_⟩
    · simp [SegmentDerivation.tree, Callee.named_text, hat]
    · have hn := spells_ident (Token.scanned_callee h.2.1)
      have ho := (hn.after_rune (s := ".") '.' rfl (by decide)).before_rune (t := "(") '(' rfl
        (by decide) (reserved_punctuation (by decide))
      have ha := ho.append hay fun _ _ => trivial
      exact (ha.before_rune ')' rfl (by decide) (delimited_cons (by decide))).anywhere
  | .filter predicate, h => by
    simp only [SegmentDerivation.tokens, List.forall_mem_cons, List.forall_mem_append] at h
    obtain ⟨o, hot, hoy⟩ := OperandDerivation.spells predicate h.2.1
    rw [← predicate.predicate_text] at hoy
    refine ⟨.filter o, ?_, ?_⟩
    · rw [SegmentDerivation.tree, SegmentDerivation.tree, OperandDerivation.predicate_eq hot]
    · exact ((hoy.after_rune '[' rfl (by decide)).before_rune ']' rfl (by decide)
        (delimited_cons (by decide))).anywhere
termination_by structural x => x

theorem ArgumentsDerivation.spells : ∀ (a : ArgumentsDerivation), (∀ t ∈ a.tokens, t.Scanned) →
    ∃ a' : ArgumentsDerivation, a'.trees = a.trees ∧
      Spells Delimited (Argument.listText a.trees) a'.tokens
  | .one a, h => by
    obtain ⟨a', hat, hay⟩ := ArgumentDerivation.spells a h
    refine ⟨.one a', by simp [ArgumentsDerivation.trees, hat], ?_⟩
    rw [ArgumentsDerivation.trees, Argument.listText, Argument.tailText, String.append_empty]
    exact hay
  | .more a rest, h => by
    simp only [ArgumentsDerivation.tokens, List.forall_mem_cons, List.forall_mem_append] at h
    obtain ⟨a', hat, hay⟩ := ArgumentDerivation.spells a h.1
    obtain ⟨r, hrt, hry⟩ := ArgumentsDerivation.spells rest h.2.2
    refine ⟨.more a' r, by simp [ArgumentsDerivation.trees, hat, hrt], ?_⟩
    rw [ArgumentsDerivation.trees, Argument.listText, rest.tailText_trees]
    exact hay.comma hry (delimited_cons (by decide))
termination_by structural x => x

theorem ArgumentDerivation.spells : ∀ (a : ArgumentDerivation), (∀ t ∈ a.tokens, t.Scanned) →
    ∃ a' : ArgumentDerivation, a'.tree = a.tree ∧ Spells Delimited a.tree.text a'.tokens
  | .number text value representable, h =>
    ⟨.number text value representable, rfl,
      spells_number (h (.number text) (by simp [ArgumentDerivation.tokens]))⟩
  | .string s, _ => ⟨.string s, rfl, spells_string s⟩
  | .bool b, h => by
    have hb := spells_ident (h (.ident (Key.boolText b)) (by simp [ArgumentDerivation.tokens]))
    exact ⟨.bool b, rfl, fun cs ts hcs => hb cs ts hcs.reserved⟩
  | .path p, h => by
    obtain ⟨p', hpt, hpy⟩ := PathDerivation.spells p h
    exact ⟨.path p', by simp [ArgumentDerivation.tree, hpt], hpy⟩
termination_by structural x => x

theorem OperandDerivation.spells {role : Role} : ∀ (o : OperandDerivation role),
    (∀ t ∈ o.tokens, t.Scanned) →
    ∃ o' : OperandDerivation role, o'.tree = o.tree ∧ Spells Delimited o.tree.text o'.tokens
  | .path p, h => by
    obtain ⟨p', hpt, hpy⟩ := PathDerivation.spells p h
    exact ⟨.path p', by simp [OperandDerivation.tree, hpt], hpy⟩
  | .group g, h => by
    obtain ⟨g', hgt, hgy⟩ := GroupDerivation.spells g h
    exact ⟨.group g', by simp [OperandDerivation.tree, hgt], hgy⟩
termination_by structural x => x

theorem OperandsDerivation.spells {role : Role} : ∀ (o : OperandsDerivation role),
    (∀ t ∈ o.tokens, t.Scanned) →
    ∃ o' : OperandsDerivation role, o'.trees = o.trees ∧
      Spells Delimited (Query.listText o.trees) o'.tokens
  | .one o, h => by
    obtain ⟨o', hot, hoy⟩ := OperandDerivation.spells o h
    refine ⟨.one o', by simp [OperandsDerivation.trees, hot], ?_⟩
    rw [OperandsDerivation.trees, Query.listText, Query.tailText, String.append_empty]
    exact hoy
  | .more o rest, h => by
    simp only [OperandsDerivation.tokens, List.forall_mem_cons, List.forall_mem_append] at h
    obtain ⟨o', hot, hoy⟩ := OperandDerivation.spells o h.1
    obtain ⟨r, hrt, hry⟩ := OperandsDerivation.spells rest h.2.2
    refine ⟨.more o' r, by simp [OperandsDerivation.trees, hot, hrt], ?_⟩
    rw [OperandsDerivation.trees, Query.listText, rest.tailText_trees]
    exact hoy.comma hry (delimited_cons (by decide))
termination_by structural x => x

theorem GroupDerivation.spells {role : Role} : ∀ (g : GroupDerivation role),
    (∀ t ∈ g.tokens, t.Scanned) →
    ∃ g' : GroupDerivation role, g'.tree = g.tree ∧ Spells Delimited g.tree.text g'.tokens
  | .mk none operands, h => by
    simp only [GroupDerivation.tokens, wordTokens, List.forall_mem_cons,
      List.forall_mem_append] at h
    obtain ⟨o, hot, hoy⟩ := OperandsDerivation.spells operands h.2.1.2
    refine ⟨.mk none o, by simp [GroupDerivation.tree, hot], ?_⟩
    rw [GroupDerivation.tree, Group.text]
    · exact ((hoy.after_rune '\x7b' rfl (by decide)).before_rune '\x7d' rfl (by decide)
        (delimited_cons (by decide))).anywhere
    · simp
  | .mk (some word) operands, h => by
    simp only [GroupDerivation.tokens, wordTokens, List.forall_mem_cons,
      List.forall_mem_append] at h
    obtain ⟨o, hot, hoy⟩ := OperandsDerivation.spells operands h.2.1.2
    refine ⟨.mk (some (Operator.ofWord word).text) o, ?_, ?_⟩
    · simp [GroupDerivation.tree, operatorOf, Operator.ofWord_text, hot]
    · have hw := spells_ident (Token.scanned_operator h.2.1.1.1)
      have ho := (hw.after_rune (s := "\x7b") '\x7b' rfl (by decide)).comma hoy
        (reserved_punctuation (by decide))
      rw [GroupDerivation.tree, Group.text, operands.tailText_trees]
      · exact (ho.before_rune '\x7d' rfl (by decide) (delimited_cons (by decide))).anywhere
      · simp
termination_by structural x => x

end

theorem QueryDerivation.spells (d : QueryDerivation) (h : ∀ t ∈ d.tokens, t.Scanned) :
    ∃ d' : QueryDerivation, d'.tree = d.tree ∧ d'.Derives d.tree.text := by
  have hend : Yields anyIdent [] [.endOfInput] := .finished rfl
  have hnil : Delimited [] := by simp [Delimited]
  cases d with
  | path p =>
    simp only [QueryDerivation.tokens, List.forall_mem_append] at h
    obtain ⟨p', hp, hy⟩ := p.spells h.1
    have hy := hy [] _ hnil hend
    rw [List.append_nil] at hy
    exact ⟨.path p', congrArg Query.path hp, hy.unique (yields_tokens anyIdent _)⟩
  | group g =>
    simp only [QueryDerivation.tokens, List.forall_mem_append] at h
    obtain ⟨g', hg, hy⟩ := g.spells h.1
    have hy := hy [] _ hnil hend
    rw [List.append_nil] at hy
    exact ⟨.group g', congrArg Query.group hg, hy.unique (yields_tokens anyIdent _)⟩

end Grammar

theorem Query.read_text {s : String} {q : Query} (h : Query.read s = .ok q) :
    Query.read q.text = .ok q := by
  obtain ⟨d, hd, rfl⟩ := Grammar.exists_derives h
  have hs : ∀ t ∈ d.tokens, t.Scanned := hd ▸ (yields_tokens anyIdent s).scanned
  obtain ⟨d', ht, hd'⟩ := d.spells hs
  rw [hd'.read, ht]

theorem Query.read_text_nested : ∃ q,
    Query.read ("\x7b or,$.xs[@.tag.EQUAL('it\\'s\\u0007')].average(-1.5e3,@.b.Nope())," ++
      "\x7b@,@[\x7bxor,@\x7d]\x7d\x7d") = .ok q ∧
    q.text = "\x7bOR,$.xs[@.tag.Equal(\"it's\\u0007\")].Avg(-1.5e3,@.b.Nope())," ++
      "\x7b@,@[\x7bxor,@\x7d]\x7d\x7d" ∧
    Query.read q.text = .ok q := by
  have h : (Query.read
      ("\x7b or,$.xs[@.tag.EQUAL('it\\'s\\u0007')].average(-1.5e3,@.b.Nope())," ++
        "\x7b@,@[\x7bxor,@\x7d]\x7d\x7d")).toOption.map Query.text =
      some ("\x7bOR,$.xs[@.tag.Equal(\"it's\\u0007\")].Avg(-1.5e3,@.b.Nope())," ++
        "\x7b@,@[\x7bxor,@\x7d]\x7d\x7d") := by
    decide +kernel
  simp only [Option.map_eq_some_iff, PartialQuery.toOption_eq_some_iff] at h
  obtain ⟨q, hq, ht⟩ := h
  exact ⟨q, hq, ht, Query.read_text hq⟩

end PathQuery
