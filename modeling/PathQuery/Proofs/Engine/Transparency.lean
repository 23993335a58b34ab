import PathQuery.Engine
import PathQuery.Proofs.Result

namespace PathQuery

section Caches

variable {α β ε : Type} {read : String → Except ε β} {view : α → β} {c : Cache α} {key : String}
  {value : α}

def Cache.Reads (read : String → Except ε β) (view : α → β) (c : Cache α) : Prop :=
  ∀ e ∈ c.entries, read e.key = .ok (view e.value)

namespace Cache.Reads

theorem ofCapacity (capacity : Nat) : (Cache.ofCapacity capacity : Cache α).Reads read view := nofun

theorem without {entries : List (CacheEntry α)} (h : ∀ e ∈ entries, read e.key = .ok (view e.value))
    (key : String) : ∀ e ∈ Cache.without entries key, read e.key = .ok (view e.value) :=
  fun e he => h e (List.mem_filter.mp he).1

theorem dropOldest (h : c.Reads read view) :
    { c with entries := Cache.dropOldest c.entries }.Reads read view := by
  simp only [Reads, Cache.dropOldest]
  split
  · exact without h _
  · exact nofun

theorem use (h : c.Reads read view) (hv : read key = .ok (view value)) :
    (c.use key value).Reads read view :=
  List.forall_mem_cons.mpr ⟨hv, without h key⟩

theorem insert (h : c.Reads read view) (hv : read key = .ok (view value)) :
    (c.insert key value).Reads read view := by
  rw [Cache.insert]
  split
  · exact h
  · split
    · exact h.dropOldest.use hv
    · exact h.use hv

theorem find? {e : CacheEntry α} (h : c.Reads read view) (he : c.find? key = some e) :
    read key = .ok (view e.value) := by
  have hkey : e.key = key := by simpa using List.find?_some he
  exact hkey ▸ h e (List.mem_of_find?_eq_some he)

theorem getOrBuild (h : c.Reads read view) (build : Unit → Except ε α)
    (hb : (build ()).map view = read key) : (c.getOrBuild key build).1.map view = read key ∧
      (c.getOrBuild key build).2.Reads read view := by
  rw [Cache.getOrBuild, Cache.get]
  cases he : c.find? key with
  | some e =>
    have hv := h.find? he
    exact ⟨hv.symm, h.use hv⟩
  | none =>
    cases hbuilt : build () with
    | error fault =>
      rw [hbuilt] at hb
      exact ⟨hb, h⟩
    | ok value =>
      rw [hbuilt] at hb
      exact ⟨hb, insert (c := { c with clock := c.clock + 1 }) h hb.symm⟩

end Cache.Reads

end Caches

inductive Request where
  | parse (text : String)
  | evaluate (text : String) (current root : Value)
  | validate (text schemaText target : String)
  | dependencies (text : String)

inductive Answer where
  | query (q : Except SyntaxError Query)
  | value (v : Except QueryError Value)
  | validation (v : Except QueryError Validation)
  | chains (cs : Except QueryError (List Chain))

def Query.validateFor (query : Query) (schemaText target : String) :
    Except QueryError Validation := do
  let schema ← (Schema.read schemaText).mapError .schema
  let blocked ← (schema.blockedFor target).mapError .schema
  return query.validate ⟨schema.root, blocked⟩

def Request.answer (codecs : Codecs) : Request → Answer
  | .parse text => .query (Query.read text)
  | .evaluate text current root => .value do
    let query ← (Query.read text).mapError .parse
    (query.eval codecs current root).mapError .evaluation
  | .validate text schemaText target => .validation do
    let query ← (Query.read text).mapError .parse
    query.validateFor schemaText target
  | .dependencies text => .chains do
    let query ← (Query.read text).mapError .parse
    return query.dependencies

theorem Query.validateFor_eq (query : Query) (schemaText target : String) :
    query.validateFor schemaText target =
      (((Schema.read schemaText).bind (·.ground target)).map query.validate).mapError .schema := by
  rw [validateFor]
  cases Schema.read schemaText with
  | error fault => rfl
  | ok schema =>
    change ((schema.blockedFor target).mapError QueryError.schema >>= fun blocked =>
      .ok (query.validate ⟨schema.root, blocked⟩)) =
        ((schema.ground target).map query.validate).mapError .schema
    rw [Schema.ground]
    cases schema.blockedFor target <;> rfl

namespace Engine

variable {e : Engine} {text : String}

def respond (e : Engine) : Request → Answer × Engine
  | .parse text => (e.parse text).map (fun kept => .query (kept.map (·.query))) id
  | .evaluate text current root => (e.evaluate text current root).map .value id
  | .validate text schemaText target => (e.validate text schemaText target).map .validation id
  | .dependencies text => (e.dependencies text).map .chains id

def responses (e : Engine) : List Request → List Answer
  | [] => []
  | r :: requests => (e.respond r).1 :: responses (e.respond r).2 requests

structure IsSound (codecs : Codecs) (e : Engine) : Prop where
  queries : e.queries.Reads Query.read KeptQuery.query
  schemas : e.schemas.Reads Schema.read id
  codecs : e.codecs = codecs

variable {codecs : Codecs}

theorem ofSettings_isSound (s : Settings) (codecs : Codecs) : (ofSettings s codecs).IsSound codecs :=
  ⟨.ofCapacity _, .ofCapacity _, rfl⟩

theorem IsSound.parse (h : e.IsSound codecs) (text : String) :
    (e.parse text).1.map (·.query) = Query.read text ∧ (e.parse text).2.IsSound codecs := by
  have hb : ((Query.read text).map fun query => (⟨query, e.requests⟩ : KeptQuery)).map
      KeptQuery.query = Query.read text := by
    cases Query.read text <;> rfl
  obtain ⟨hkept, hqueries⟩ := h.queries.getOrBuild (fun _ => _) hb
  exact ⟨hkept, hqueries, h.schemas, h.codecs⟩

theorem IsSound.schema (h : e.IsSound codecs) (text : String) :
    (e.schema text).1 = Schema.read text ∧ (e.schema text).2.IsSound codecs := by
  have hb : (Schema.read text).map id = Schema.read text := by rw [Except.map_id, id]
  obtain ⟨hkept, hschemas⟩ := h.schemas.getOrBuild (fun _ => Schema.read text) hb
  rw [Except.map_id] at hkept
  exact ⟨hkept, h.queries, hschemas, h.codecs⟩

theorem IsSound.withQuery {α : Type} (h : e.IsSound codecs) (text : String)
    (next : Query → Engine → Except QueryError α × Engine) (alone : Query → Except QueryError α)
    (hnext : ∀ query e', IsSound codecs e' →
      (next query e').1 = alone query ∧ (next query e').2.IsSound codecs) :
    (e.withQuery text next).1 = (Query.read text).mapError .parse >>= alone ∧
      (e.withQuery text next).2.IsSound codecs := by
  obtain ⟨hkept, he⟩ := h.parse text
  rw [Engine.withQuery, ← hkept]
  generalize e.parse text = parsed at he
  obtain ⟨kept, e'⟩ := parsed
  cases kept with
  | error fault => exact ⟨rfl, he⟩
  | ok kept => exact hnext kept.query e' he

theorem IsSound.respond (h : e.IsSound codecs) (r : Request) :
    (e.respond r).1 = r.answer codecs ∧ (e.respond r).2.IsSound codecs := by
  cases r with
  | parse text =>
    obtain ⟨hkept, he⟩ := h.parse text
    exact ⟨congrArg Answer.query hkept, he⟩
  | evaluate text current root =>
    let next (query : Query) (e : Engine) := ((query.eval e.codecs current root).mapError
      QueryError.evaluation, e)
    have hnext : ∀ query e', IsSound codecs e' →
        (next query e').1 = (query.eval codecs current root).mapError QueryError.evaluation ∧
          (next query e').2.IsSound codecs := by
      intro query e' he'
      exact ⟨by rw [← he'.codecs], he'⟩
    obtain ⟨hvalue, he⟩ := h.withQuery text next _ hnext
    exact ⟨congrArg Answer.value hvalue, he⟩
  | dependencies text =>
    let next (query : Query) (e : Engine) : Except QueryError (List Chain) × Engine :=
      (.ok query.dependencies, e)
    have hnext : ∀ query e', IsSound codecs e' →
        (next query e').1 = .ok query.dependencies ∧ (next query e').2.IsSound codecs := by
      intro query e' he'
      exact ⟨rfl, he'⟩
    obtain ⟨hchains, he⟩ := h.withQuery text next _ hnext
    exact ⟨congrArg Answer.chains hchains, he⟩
  | validate text schemaText target =>
    let next (query : Query) (e : Engine) :=
      ((((e.schema schemaText).1.bind (·.ground target)).map query.validate).mapError
        QueryError.schema, (e.schema schemaText).2)
    have hnext : ∀ query e', IsSound codecs e' →
        (next query e').1 = query.validateFor schemaText target ∧
          (next query e').2.IsSound codecs := by
      intro query e' he'
      obtain ⟨hschema, hkept⟩ := he'.schema schemaText
      refine ⟨?_, hkept⟩
      rw [Query.validateFor_eq, ← hschema]
    obtain ⟨hvalidation, he⟩ := h.withQuery text next _ hnext
    exact ⟨congrArg Answer.validation hvalidation, he⟩

theorem IsSound.responses (h : e.IsSound codecs) (requests : List Request) :
    e.responses requests = requests.map (Request.answer codecs) := by
  induction requests generalizing e with
  | nil => rfl
  | cons r requests ih =>
    obtain ⟨hanswer, hnext⟩ := h.respond r
    rw [Engine.responses, List.map_cons, hanswer, ih hnext]

theorem responses_ofSettings (s : Settings) (codecs : Codecs) (requests : List Request) :
    (ofSettings s codecs).responses requests = requests.map (Request.answer codecs) :=
  (ofSettings_isSound s codecs).responses requests

end Engine
end PathQuery
