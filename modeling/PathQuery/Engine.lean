import PathQuery.Cache
import PathQuery.Codec.Basic
import PathQuery.Dependency
import PathQuery.Evaluation.Basic
import PathQuery.Query.Partial
import PathQuery.QueryError
import PathQuery.Settings
import PathQuery.Validation

namespace PathQuery

structure KeptQuery where
  query : Query
  serial : Nat

structure Engine where
  queries : Cache KeptQuery
  schemas : Cache Schema
  codecs : Codecs
  requests : Nat

def Schema.ground (s : Schema) (target : String) : Except SchemaError Ground :=
  (s.blockedFor target).map fun blocked => ⟨s.root, blocked⟩

namespace Engine

variable {α : Type}

def ofSettings (s : Settings) (codecs : Codecs) : Engine :=
  ⟨.ofCapacity s.queryCapacity, .ofCapacity s.schemaCapacity, codecs, 0⟩

def parse (e : Engine) (text : String) : Except SyntaxError KeptQuery × Engine :=
  let (kept, queries) := e.queries.getOrBuild text fun _ =>
    (Query.read text).map fun query => ⟨query, e.requests⟩
  (kept, { e with queries := queries, requests := e.requests + 1 })

def schema (e : Engine) (text : String) : Except SchemaError Schema × Engine :=
  let (schema, schemas) := e.schemas.getOrBuild text fun _ => Schema.read text
  (schema, { e with schemas := schemas })

def withQuery (e : Engine) (text : String)
    (next : Query → Engine → Except QueryError α × Engine) : Except QueryError α × Engine :=
  match e.parse text with
  | (.ok kept, e) => next kept.query e
  | (.error fault, e) => (.error (.parse fault), e)

def evaluate (e : Engine) (text : String) (current root : Value) :
    Except QueryError Value × Engine :=
  e.withQuery text fun query e =>
    ((query.eval e.codecs current root).mapError .evaluation, e)

def dependencies (e : Engine) (text : String) : Except QueryError (List Chain) × Engine :=
  e.withQuery text fun query e => (.ok query.dependencies, e)

def validate (e : Engine) (text schemaText target : String) :
    Except QueryError Validation × Engine :=
  e.withQuery text fun query e =>
    let (schema, e) := e.schema schemaText
    let ground := schema.bind (·.ground target)
    ((ground.map query.validate).mapError .schema, e)

end Engine

namespace Query

def readThen {α : Type} (text : String) (next : Query → Except QueryError α) :
    Except QueryError α :=
  match read text with
  | .ok query => next query
  | .error e => .error (.parse e)

def evaluateText (codecs : Codecs) (text : String) (current root : Value) :
    Except QueryError Value :=
  readThen text fun query => (query.eval codecs current root).mapError .evaluation

def dependenciesText (text : String) : Except QueryError (List Chain) :=
  readThen text fun query => .ok query.dependencies

def validateText (text schemaText target : String) : Except QueryError Validation :=
  readThen text fun query =>
    (((Schema.read schemaText).bind (·.ground target)).map query.validate).mapError .schema

end Query
end PathQuery
