import PathQuery.Proofs.Grammar.RoundTrip

namespace PathQuery

open PartialQuery Scan

mutual

def PathContext.closing : PathContext → List Token
  | .query => []
  | .operand ⟨context, _, _, _⟩ => .rune '\x7d' :: context.closing
  | .filter ⟨context, _, _⟩ => .rune ']' :: context.closing
  | .argument ⟨⟨context, _, _⟩, _, _⟩ => .rune ')' :: context.closing

def GroupContext.closing : GroupContext → List Token
  | .query => []
  | .operand ⟨context, _, _, _⟩ => .rune '\x7d' :: context.closing
  | .filter ⟨context, _, _⟩ => .rune ']' :: context.closing

end

def Token.IsSpelled (t : Token) : Prop := t.Scanned ∧ t ≠ .endOfInput

theorem Token.isSpelled_rune (c : Char) : (Token.rune c).IsSpelled := ⟨trivial, nofun⟩

mutual

theorem PathContext.closing_spelled : ∀ (c : PathContext), ∀ t ∈ c.closing, t.IsSpelled
  | .query => nofun
  | .operand ⟨context, _, _, _⟩ =>
    List.forall_mem_cons.mpr ⟨Token.isSpelled_rune _, context.closing_spelled⟩
  | .filter ⟨context, _, _⟩ =>
    List.forall_mem_cons.mpr ⟨Token.isSpelled_rune _, context.closing_spelled⟩
  | .argument ⟨⟨context, _, _⟩, _, _⟩ =>
    List.forall_mem_cons.mpr ⟨Token.isSpelled_rune _, context.closing_spelled⟩
termination_by structural c => c

theorem GroupContext.closing_spelled : ∀ (c : GroupContext), ∀ t ∈ c.closing, t.IsSpelled
  | .query => nofun
  | .operand ⟨context, _, _, _⟩ =>
    List.forall_mem_cons.mpr ⟨Token.isSpelled_rune _, context.closing_spelled⟩
  | .filter ⟨context, _, _⟩ =>
    List.forall_mem_cons.mpr ⟨Token.isSpelled_rune _, context.closing_spelled⟩
termination_by structural c => c

end

@[simp] theorem PathContext.closing_operand (g : OpenGroup) :
    (PathContext.operand g).closing = .rune '\x7d' :: g.context.closing := by cases g; rfl

@[simp] theorem PathContext.closing_filter (p : OpenPath) :
    (PathContext.filter p).closing = .rune ']' :: p.context.closing := by cases p; rfl

@[simp] theorem PathContext.closing_argument (c : OpenCall) :
    (PathContext.argument c).closing = .rune ')' :: c.path.context.closing := by
  obtain ⟨⟨_, _, _⟩, _, _⟩ := c
  rfl

namespace PartialQuery

-- The tokens that make a partial query a query.
def completion : PartialQuery → List Token
  | .nothing => [.rune '@']
  | .path p | .named p _ => p.context.closing
  | .dot p => .ident "a" :: p.context.closing
  | .bracket p => .rune '@' :: .rune ']' :: p.context.closing
  | .predicate p _ => .rune ']' :: p.context.closing
  | .brace c => .rune '@' :: .rune '\x7d' :: c.closing
  | .operator c _ => .rune ',' :: .rune '@' :: .rune '\x7d' :: c.closing
  | .operandComma g => .rune '@' :: .rune '\x7d' :: g.context.closing
  | .operand g => .rune '\x7d' :: g.context.closing
  | .parenthesis c | .argument c => .rune ')' :: c.path.context.closing
  | .argumentComma c => .rune '@' :: .rune ')' :: c.path.context.closing
  | .complete _ => []

theorem completion_spelled (r : PartialQuery) : ∀ t ∈ r.completion, t.IsSpelled := by
  cases r with
  | nothing => simp [completion, Token.isSpelled_rune]
  | dot p =>
    have ha : (Token.ident "a").IsSpelled := ⟨⟨['a'], [], by decide⟩, nofun⟩
    exact List.forall_mem_cons.mpr ⟨ha, p.context.closing_spelled⟩
  | brace c | operator c _ => simpa [completion, Token.isSpelled_rune] using c.closing_spelled
  | operandComma g | operand g =>
    simpa [completion, Token.isSpelled_rune] using g.context.closing_spelled
  | complete q => nofun
  | _ => simpa [completion, Token.isSpelled_rune] using PathContext.closing_spelled _

theorem reading?_singleton (r : PartialQuery) (t : Token) : r.reading? [t] = r.next? t := by
  rw [reading?_cons]
  cases r.next? t <;> rfl

theorem accepts_endOfInput (q : Query) : (PartialQuery.complete q).Accepts [.endOfInput] := ⟨q, rfl⟩

theorem Accepts.cons {r r' : PartialQuery} {t : Token} {ts : List Token} (h : r'.Accepts ts)
    (hr : r.next? t = some r') : r.Accepts (t :: ts) := accepts_cons.mpr ⟨r', hr, h⟩

theorem endsPath_closing (c : PathContext) : Grammar.EndsPath (c.closing ++ [.endOfInput]) := by
  cases c with
  | query => exact Grammar.endsPath_endOfInput _
  | operand g => rw [PathContext.closing_operand]; exact Grammar.endsPath_brace _
  | filter p => rw [PathContext.closing_filter]; exact Grammar.endsPath_bracket _
  | argument c => rw [PathContext.closing_argument]; exact Grammar.endsPath_paren _

theorem accepts_closing {p : OpenPath}
    (h : (closePath p).Accepts (p.context.closing ++ [.endOfInput])) :
    (PartialQuery.path p).Accepts (p.context.closing ++ [.endOfInput]) :=
  (Accepts.congr (Grammar.reading?_closePath (by simp) (endsPath_closing p.context))).mpr h

mutual

theorem startedPath_accepts : ∀ (c : PathContext) (o : Origin) (segments : List Segment),
    (PartialQuery.path ⟨c, o, segments⟩).Accepts (c.closing ++ [.endOfInput])
  | .query, _, _ => accepts_closing (accepts_endOfInput _)
  | .operand ⟨context, op, isExplicit, _⟩, _, _ =>
    accepts_closing ((startedGroup_accepts context op isExplicit _).cons rfl)
  | .filter ⟨context, origin, _⟩, _, _ =>
    accepts_closing ((startedPath_accepts context origin _).cons rfl)
  | .argument ⟨⟨context, origin, _⟩, _, _⟩, _, _ =>
    accepts_closing ((startedPath_accepts context origin _).cons rfl)
termination_by structural c => c

theorem startedGroup_accepts : ∀ (c : GroupContext) (op : Operator) (isExplicit : Bool)
    (operands : List Query),
    (closeGroup ⟨c, op, isExplicit, operands⟩).Accepts (c.closing ++ [.endOfInput])
  | .query, _, _, _ => accepts_endOfInput _
  | .operand ⟨context, op, isExplicit, _⟩, _, _, _ =>
    (startedGroup_accepts context op isExplicit _).cons rfl
  | .filter ⟨context, origin, _⟩, _, _, _ => (startedPath_accepts context origin _).cons rfl
termination_by structural c => c

end

theorem path_accepts (p : OpenPath) :
    (PartialQuery.path p).Accepts (p.context.closing ++ [.endOfInput]) := by
  cases p
  exact startedPath_accepts _ _ _

theorem closeGroup_accepts (g : OpenGroup) :
    (closeGroup g).Accepts (g.context.closing ++ [.endOfInput]) := by
  cases g
  exact startedGroup_accepts _ _ _ _

theorem operandComma_accepts (g : OpenGroup) : (PartialQuery.operandComma g).Accepts
    (.rune '@' :: .rune '\x7d' :: (g.context.closing ++ [.endOfInput])) := by
  have h := path_accepts ⟨.operand g, .current, []⟩
  rw [PathContext.closing_operand] at h
  exact h.cons rfl

theorem accepts_completion (r : PartialQuery) : r.Accepts (r.completion ++ [.endOfInput]) := by
  cases r with
  | nothing => exact (path_accepts ⟨.query, .current, []⟩).cons rfl
  | path p => exact path_accepts p
  | dot p =>
    have h := path_accepts (p.push (.field "a"))
    exact ((Accepts.congr (Grammar.reading?_named (by simp)
      (endsPath_closing p.context).2.2)).mpr h).cons rfl
  | named p name =>
    have h := path_accepts (p.push (.field name))
    exact (Accepts.congr (Grammar.reading?_named (by simp)
      (endsPath_closing p.context).2.2)).mpr h
  | bracket p =>
    have h := path_accepts ⟨.filter p, .current, []⟩
    rw [PathContext.closing_filter] at h
    exact h.cons rfl
  | predicate p g => exact (path_accepts (p.push (.filter g))).cons rfl
  | brace c => exact operandComma_accepts (emptyGroup c)
  | operator c word => exact (operandComma_accepts ⟨c, .ofWord word, true, []⟩).cons rfl
  | operandComma g => exact operandComma_accepts g
  | operand g => exact (closeGroup_accepts g).cons rfl
  | parenthesis c => exact (path_accepts c.close).cons rfl
  | argumentComma c =>
    have h := path_accepts ⟨.argument c, .current, []⟩
    rw [PathContext.closing_argument] at h
    exact h.cons rfl
  | argument c => exact (path_accepts c.close).cons rfl
  | complete q => exact accepts_endOfInput q

end PartialQuery

inductive Token.Parts : Token → PartialQuery → Prop where
  | rune {c : Char} {r : PartialQuery} (h : c ∈ punctuation) : Parts (.rune c) r
  | endOfInput {q : Query} : Parts .endOfInput (.complete q)

def PartialQuery.IsWord : PartialQuery → Prop
  | .named _ _ | .operator _ _ | .argument _ => True
  | _ => False

inductive Token.Leads : Token → PartialQuery → Prop where
  | parts {t : Token} {r : PartialQuery} (h : t.Parts r) : Leads t r
  | ident {name : String} {r : PartialQuery} (h : r.IsWord) : Leads (.ident name) r
  | number {text : String} {c : OpenCall} : Leads (.number text) (.argument c)
  | string {s : String} {r : PartialQuery} : Leads (.string s) r

namespace PartialQuery

variable {r r' : PartialQuery} {t : Token}

theorem parts_origin (o : Origin) (r : PartialQuery) : (Grammar.originToken o).Parts r := by
  cases o with
  | root => exact .rune (by decide)
  | current => exact .rune (by decide)

theorem closePath_parts {p : OpenPath} (h : (closePath p).next? t = some r') : t.Parts r' := by
  obtain ⟨context, origin, segments⟩ := p
  cases context with
  | query => obtain ⟨rfl, rfl⟩ := next?_complete h; exact .endOfInput
  | operand g => rcases next?_operand h with ⟨rfl, -⟩ | ⟨rfl, -⟩ <;> exact .rune (by decide)
  | filter around => obtain ⟨rfl, -⟩ := next?_predicate h; exact .rune (by decide)
  | argument c => rcases next?_argument h with ⟨rfl, -⟩ | ⟨rfl, -⟩ <;> exact .rune (by decide)

theorem path_parts {p : OpenPath} (h : (PartialQuery.path p).next? t = some r') : t.Parts r' := by
  by_cases ht : t = .rune '.' ∨ t = .rune '['
  · rcases ht with rfl | rfl <;> exact .rune (by decide)
  · rw [Grammar.next?_path ht] at h
    exact closePath_parts h

theorem operandComma_parts {g : OpenGroup} (h : (PartialQuery.operandComma g).next? t = some r') :
    t.Parts r' := by
  rcases next?_operandComma h with ⟨rfl, -⟩ | ⟨o, rfl, -, -⟩
  · exact .rune (by decide)
  · exact parts_origin o r'

theorem argumentComma_leads {c : OpenCall} (h : (PartialQuery.argumentComma c).next? t = some r') :
    t.Leads r' := by
  rcases next?_argumentComma h with ⟨a, ha, rfl⟩ | ⟨o, rfl, -⟩
  · cases a with
    | number text value h => obtain rfl := List.singleton_inj.mp ha; exact .number
    | string s => obtain rfl := List.singleton_inj.mp ha; exact .string
    | bool b => obtain rfl := List.singleton_inj.mp ha; exact .ident trivial
    | path p =>
      obtain ⟨o, allowed, segments⟩ := p
      obtain rfl := (List.cons.inj ha).1
      exact .parts (parts_origin o _)
  · exact .parts (parts_origin o r')

theorem word_parts (hr : r.IsWord) (h : r.next? t = some r') : t.Parts r' := by
  cases r with
  | named p name =>
    by_cases ht : t = .rune '('
    · obtain rfl := ht
      exact .rune (by decide)
    · have hn : (PartialQuery.named p name).reading? [t] =
          (PartialQuery.path (p.push (.field name))).reading? [t] :=
        Grammar.reading?_named (by simp) (by simp [ht])
      rw [reading?_singleton, reading?_singleton] at hn
      exact path_parts (hn ▸ h)
  | operator c word => obtain ⟨rfl, -⟩ := next?_operator h; exact .rune (by decide)
  | argument c => rcases next?_argument h with ⟨rfl, -⟩ | ⟨rfl, -⟩ <;> exact .rune (by decide)
  | _ => cases hr

theorem leads_of_next? (h : r.next? t = some r') : t.Leads r' := by
  cases r with
  | nothing =>
    rcases next?_nothing h with ⟨rfl, -⟩ | ⟨o, rfl, -⟩
    · exact .parts (.rune (by decide))
    · exact .parts (parts_origin o r')
  | path p => exact .parts (path_parts h)
  | dot p => obtain ⟨name, rfl, rfl⟩ := next?_dot h; exact .ident trivial
  | bracket p =>
    rcases next?_bracket h with ⟨rfl, -⟩ | ⟨rfl, -⟩ <;> exact .parts (.rune (by decide))
  | predicate p g => obtain ⟨rfl, -⟩ := next?_predicate h; exact .parts (.rune (by decide))
  | brace c =>
    by_cases ht : ∃ word, t = .ident word
    · obtain ⟨word, rfl⟩ := ht
      obtain rfl := Option.some.inj h
      exact .ident trivial
    · have hn : (PartialQuery.brace c).reading? [t] =
          (PartialQuery.operandComma (emptyGroup c)).reading? [t] :=
        Grammar.reading?_brace (by simp) (by simp_all)
      rw [reading?_singleton, reading?_singleton] at hn
      exact .parts (operandComma_parts (hn ▸ h))
  | operandComma g => exact .parts (operandComma_parts h)
  | operand g =>
    rcases next?_operand h with ⟨rfl, -⟩ | ⟨rfl, -⟩ <;> exact .parts (.rune (by decide))
  | parenthesis c =>
    by_cases ht : t = .rune ')'
    · obtain rfl := ht
      exact .parts (.rune (by decide))
    · have hn : (PartialQuery.parenthesis c).reading? [t] =
          (PartialQuery.argumentComma c).reading? [t] :=
        Grammar.reading?_parenthesis (by simp) (by simp [ht])
      rw [reading?_singleton, reading?_singleton] at hn
      exact argumentComma_leads (hn ▸ h)
  | argumentComma c => exact argumentComma_leads h
  | complete q => obtain ⟨rfl, rfl⟩ := next?_complete h; exact .parts .endOfInput
  | named p name => exact .parts (word_parts (r := .named p name) trivial h)
  | operator c word => exact .parts (word_parts (r := .operator c word) trivial h)
  | argument c => exact .parts (word_parts (r := .argument c) trivial h)

end PartialQuery

def spelling (ts : List Token) : List Char := ts.flatMap fun t => t.text.toList

variable {r : PartialQuery} {ts : List Token}

theorem spelling_cons_rune (c : Char) (ts : List Token) :
    spelling (.rune c :: ts) = c :: spelling ts := by
  change (String.singleton c).toList ++ spelling ts = _
  rw [String.toList_singleton, List.singleton_append]

theorem reserved_spelling (hr : r.IsWord) (h : r.Accepts (ts ++ [.endOfInput]))
    (hend : .endOfInput ∉ ts) : Reserved (spelling ts) := by
  cases ts with
  | nil => simp [Reserved, spelling]
  | cons t ts =>
    obtain ⟨r', hn, -⟩ := accepts_cons.mp h
    cases word_parts hr hn with
    | rune hc =>
      rw [spelling_cons_rune]
      exact reserved_punctuation hc _
    | endOfInput => simp at hend

theorem delimited_spelling {c : OpenCall} (h : (PartialQuery.argument c).Accepts (ts ++ [.endOfInput])) :
    Delimited (spelling ts) := by
  cases ts with
  | nil => simp [Delimited, spelling]
  | cons t ts =>
    obtain ⟨r', hn, -⟩ := accepts_cons.mp h
    rcases next?_argument hn with ⟨rfl, -⟩ | ⟨rfl, -⟩
    · rw [spelling_cons_rune]
      exact delimited_cons (by decide) _
    · rw [spelling_cons_rune]
      exact delimited_cons (by decide) _

theorem yields_spelling (h : r.Accepts (ts ++ [.endOfInput])) (hend : .endOfInput ∉ ts)
    (hs : ∀ t ∈ ts, t.Scanned) : Yields anyIdent (spelling ts) (ts ++ [.endOfInput]) := by
  induction ts generalizing r with
  | nil => exact .finished rfl
  | cons t ts ih =>
    obtain ⟨r', hr, hrest⟩ := accepts_cons.mp h
    obtain ⟨ht, hts⟩ := List.forall_mem_cons.mp hs
    have hend' : .endOfInput ∉ ts := fun hmem => hend (List.mem_cons_of_mem _ hmem)
    have hrespells : Respells t (spelling ts) := by
      cases leads_of_next? hr with
      | parts hp =>
        cases hp with
        | rune hc => exact respells_rune hc _
        | endOfInput => simp at hend
      | ident hw =>
        obtain ⟨cs, rest, hscan⟩ := ht
        exact respells_ident hscan (reserved_spelling hw hrest hend').startsOutside
      | number =>
        obtain ⟨cs, rest, hscan⟩ := ht
        exact (delimited_spelling hrest).respells_number hscan
      | string => exact respells_string _ _
    exact hrespells.yields (ih hrest hend' hts)

def Viable (ts : List Token) : Prop :=
  ∃ s q, Query.read s = .ok q ∧ ts <+: (tokens anyIdent s).map (·.token)

theorem Viable.of_prefix {us : List Token} (h : Viable us) (hp : ts <+: us) : Viable ts := by
  obtain ⟨s, q, hq, hu⟩ := h
  exact ⟨s, q, hq, hp.trans hu⟩

theorem Viable.reading? (h : Viable ts) : ∃ r, PartialQuery.nothing.reading? ts = some r := by
  obtain ⟨s, q, hq, us, hu⟩ := h
  rw [Query.read_eq_ok_iff, ← hu, reading?_append, Option.bind_eq_some_iff] at hq
  obtain ⟨r, hr, -⟩ := hq
  exact ⟨r, hr⟩

theorem viable_of_reading? (h : PartialQuery.nothing.reading? ts = some r)
    (hs : ∀ t ∈ ts, t.IsSpelled) : Viable ts := by
  have hread : PartialQuery.nothing.Accepts (ts ++ r.completion ++ [.endOfInput]) := by
    obtain ⟨q, hq⟩ := accepts_completion r
    exact ⟨q, by rw [List.append_assoc, reading?_append, h, Option.bind_some, hq]⟩
  have hall : ∀ t ∈ ts ++ r.completion, t.IsSpelled :=
    List.forall_mem_append.mpr ⟨hs, r.completion_spelled⟩
  have hy := yields_spelling hread (fun hmem => (hall _ hmem).2 rfl) fun t ht => (hall t ht).1
  obtain ⟨q, hq⟩ := hread
  have htokens : (tokens anyIdent (String.ofList (spelling (ts ++ r.completion)))).map (·.token) =
      ts ++ r.completion ++ [.endOfInput] := by
    refine (yields_tokens anyIdent _).unique ?_
    rw [String.toList_ofList]
    exact hy
  refine ⟨_, q, Query.read_eq_ok_iff.mpr (htokens.symm ▸ hq), ?_⟩
  rw [htokens, List.append_assoc]
  exact List.prefix_append _ _

end PathQuery
