import PathQuery.Evaluation.Failure
import PathQuery.Query.SyntaxError
import PathQuery.Schema.Document

namespace PathQuery

inductive QueryError where
  | parse (e : SyntaxError)
  | evaluation (e : Failure)
  | schema (e : SchemaError)
  | number (e : NumberOutOfRange)
deriving DecidableEq, Repr

def QueryError.message : QueryError → String
  | .parse e => "parse error: " ++ e.message
  | .evaluation e => "evaluation error: " ++ e.message
  | .schema e => "schema error: " ++ e.message
  | .number e => "value error: " ++ e.message

end PathQuery
