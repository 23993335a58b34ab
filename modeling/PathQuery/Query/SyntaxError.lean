import PathQuery.Query.Token

namespace PathQuery

inductive SyntaxError where
  | unexpected (found expected : String) (position : Position)
  | malformed (reason : String) (position : Position)
  | invalidNumber (text : String) (position : Position)
  | rootInFilter (position : Position)
  | trailing (found : String) (position : Position)
deriving DecidableEq, Repr

namespace SyntaxError

def position : SyntaxError → Position
  | .unexpected _ _ p | .malformed _ p | .invalidNumber _ p | .rootInFilter p | .trailing _ p => p

def message : SyntaxError → String
  | .unexpected found expected p =>
    "unexpected " ++ found ++ " at " ++ p.text ++ ": expected " ++ expected
  | .malformed reason p => "malformed token at " ++ p.text ++ ": " ++ reason
  | .invalidNumber text p => "invalid number '" ++ text ++ "' at " ++ p.text
  | .rootInFilter p =>
    "cannot use '$' (root) inside filter: invalid next character '$': must be '@' at " ++ p.text
  | .trailing found p =>
    "unexpected " ++ found ++ " at " ++ p.text ++ ": a query is a single path or group"

end SyntaxError
end PathQuery
