import PathQuery.Query.Partial

namespace PathQuery.PartialQuery

def next? (p : PartialQuery) (t : Token) : Option PartialQuery := (p.step ⟨t, .start⟩).toOption

def reading? (p : PartialQuery) : List Token → Option PartialQuery
  | [] => some p
  | t :: ts => (p.next? t).bind fun q => q.reading? ts

theorem reading?_cons (p : PartialQuery) (t : Token) (ts : List Token) :
    p.reading? (t :: ts) = (p.next? t).bind fun q => q.reading? ts := rfl

theorem reading?_append (p : PartialQuery) (ts us : List Token) :
    p.reading? (ts ++ us) = (p.reading? ts).bind fun q => q.reading? us := by
  induction ts generalizing p with
  | nil => rfl
  | cons t ts ih =>
    rw [List.cons_append, reading?_cons, reading?_cons, Option.bind_assoc]
    exact congrArg _ (funext fun q => ih q)

theorem refuse_toOption (expected : String) (t : PlacedToken) :
    (refuse expected t : Except SyntaxError PartialQuery).toOption = none := by
  unfold refuse
  split <;> rfl

variable {t u : PlacedToken}

theorem stepOperand_toOption (g : OpenGroup) (expected expected' : String)
    (h : t.token = u.token) :
    (stepOperand g expected t).toOption = (stepOperand g expected' u).toOption := by
  unfold stepOperand
  rw [h]
  split <;> first | rfl | (split <;> rfl) | simp [refuse_toOption]

theorem stepArgument_toOption (c : OpenCall) (h : t.token = u.token) :
    (stepArgument c t).toOption = (stepArgument c u).toOption := by
  unfold stepArgument
  rw [h]
  split <;> first | rfl | (split <;> rfl) | simp [refuse_toOption]

theorem stepComplete_toOption (p : PartialQuery) (h : t.token = u.token) :
    (stepComplete p t).toOption = (stepComplete p u).toOption := by
  cases p with
  | predicate | operand | argument | complete =>
    simp only [stepComplete, h]
    split
    all_goals first | rfl | simp only [refuse_toOption]
  | _ => simp only [stepComplete, refuse_toOption]

theorem stepPath_toOption (p : OpenPath) (h : t.token = u.token) :
    (stepPath p t).toOption = (stepPath p u).toOption := by
  unfold stepPath
  rw [h]
  split <;> first | rfl | exact stepComplete_toOption _ h

theorem step_toOption (p : PartialQuery) (h : t.token = u.token) :
    (p.step t).toOption = (p.step u).toOption := by
  cases p with
  | path p => exact stepPath_toOption p h
  | operandComma g => exact stepOperand_toOption g _ _ h
  | argumentComma c => exact stepArgument_toOption c h
  | predicate p g => exact stepComplete_toOption (.predicate p g) h
  | operand g => exact stepComplete_toOption (.operand g) h
  | argument c => exact stepComplete_toOption (.argument c) h
  | complete q => exact stepComplete_toOption (.complete q) h
  | named p name =>
    simp only [step, h]
    split
    · rfl
    · exact stepPath_toOption _ h
  | brace c =>
    simp only [step, h]
    split
    · rfl
    · exact stepOperand_toOption _ _ _ h
  | parenthesis c =>
    simp only [step, h]
    split
    · rfl
    · exact stepArgument_toOption _ h
  | _ =>
    simp only [step, h]
    split <;> first | rfl | simp [refuse_toOption]

theorem toOption_eq_some_iff {ε α : Type} (x : Except ε α) (a : α) :
    x.toOption = some a ↔ x = .ok a := by
  cases x <;> simp [Except.toOption]

theorem step_eq_ok_iff (p q : PartialQuery) (t : PlacedToken) :
    p.step t = .ok q ↔ p.next? t.token = some q := by
  rw [next?, p.step_toOption (t := ⟨t.token, .start⟩) (u := t) rfl, toOption_eq_some_iff]

theorem run_eq_ok_iff (p q : PartialQuery) (ts : List PlacedToken) :
    run p ts = .ok q ↔ p.reading? (ts.map (·.token)) = some q := by
  induction ts generalizing p with
  | nil => simp [run, reading?]
  | cons t ts ih =>
    rw [run, List.map_cons, reading?_cons]
    cases h : p.step t with
    | ok r => simpa [(step_eq_ok_iff p r t).mp h] using ih r
    | error e =>
      have : p.next? t.token = none := by
        cases hn : p.next? t.token with
        | none => rfl
        | some r => simp [(step_eq_ok_iff p r t).mpr hn] at h
      simp [this]

@[simp] theorem next?_path_dot (p : OpenPath) :
    (PartialQuery.path p).next? (.rune '.') = some (.dot p) := rfl

@[simp] theorem next?_path_bracket (p : OpenPath) :
    (PartialQuery.path p).next? (.rune '[') = some (.bracket p) := rfl

@[simp] theorem next?_dot_ident (p : OpenPath) (name : String) :
    (PartialQuery.dot p).next? (.ident name) = some (.named p name) := rfl

@[simp] theorem next?_named_paren (p : OpenPath) (name : String) :
    (PartialQuery.named p name).next? (.rune '(') = some (.parenthesis ⟨p, .named name, []⟩) := rfl

@[simp] theorem next?_parenthesis_paren (c : OpenCall) :
    (PartialQuery.parenthesis c).next? (.rune ')') = some (.path c.close) := rfl

@[simp] theorem next?_argument_paren (c : OpenCall) :
    (PartialQuery.argument c).next? (.rune ')') = some (.path c.close) := rfl

@[simp] theorem next?_argument_comma (c : OpenCall) :
    (PartialQuery.argument c).next? (.rune ',') = some (.argumentComma c) := rfl

@[simp] theorem next?_predicate_bracket (p : OpenPath) (g : Group) :
    (PartialQuery.predicate p g).next? (.rune ']') = some (.path (p.push (.filter g))) := rfl

@[simp] theorem next?_brace_ident (c : GroupContext) (word : String) :
    (PartialQuery.brace c).next? (.ident word) = some (.operator c word) := rfl

@[simp] theorem next?_operator_comma (c : GroupContext) (word : String) :
    (PartialQuery.operator c word).next? (.rune ',') =
      some (.operandComma ⟨c, .ofWord word, true, []⟩) := rfl

@[simp] theorem next?_operand_comma (g : OpenGroup) :
    (PartialQuery.operand g).next? (.rune ',') = some (.operandComma g) := rfl

@[simp] theorem next?_operand_brace (g : OpenGroup) :
    (PartialQuery.operand g).next? (.rune '\x7d') = some (closeGroup g) := rfl

@[simp] theorem next?_operandComma_brace (g : OpenGroup) :
    (PartialQuery.operandComma g).next? (.rune '\x7b') = some (.brace (.operand g)) := rfl

@[simp] theorem next?_bracket_brace (p : OpenPath) :
    (PartialQuery.bracket p).next? (.rune '\x7b') = some (.brace (.filter p)) := rfl

end PathQuery.PartialQuery
