import PathQuery.Query.Basic
import PathQuery.Text.Quoted
import PathQuery.Value.Basic

namespace PathQuery

def Origin.text : Origin → String
  | .root => "$"
  | .current => "@"

def Callee.text : Callee → String
  | .known f => f.name
  | .unknown name => name

def Operator.text : Operator → String
  | .and => "AND"
  | .or => "OR"
  | .invalid word => word

mutual

def Path.text : Path → String
  | ⟨origin, _, _, segments⟩ => origin.text ++ Path.segmentsText segments

def Path.segmentsText : List Segment → String
  | [] => ""
  | s :: segments => s.stepText ++ Path.segmentsText segments

def Segment.stepText : Segment → String
  | .field name => "." ++ name
  | .filter g => "[" ++ g.text ++ "]"
  | .call callee arguments => "." ++ callee.text ++ "(" ++ Argument.listText arguments ++ ")"

def Argument.listText : List Argument → String
  | [] => ""
  | a :: arguments => a.text ++ Argument.tailText arguments

def Argument.tailText : List Argument → String
  | [] => ""
  | a :: arguments => "," ++ a.text ++ Argument.tailText arguments

def Argument.text : Argument → String
  | .number _ text => text
  | .string s => Text.quote s
  | .bool b => Key.boolText b
  | .path p => p.text

-- A group of one operand that has no braces is written as the operand; any other group without
-- braces gets braces and its operator.
def Group.text : Group → String
  | ⟨_, _, false, [q]⟩ => q.text
  | ⟨operator, isExplicit, isBraced, operands⟩ =>
    if isExplicit || !isBraced then
      "\x7b" ++ operator.text ++ Query.tailText operands ++ "\x7d"
    else "\x7b" ++ Query.listText operands ++ "\x7d"

def Query.listText : List Query → String
  | [] => ""
  | q :: operands => q.text ++ Query.tailText operands

def Query.tailText : List Query → String
  | [] => ""
  | q :: operands => "," ++ q.text ++ Query.tailText operands

def Query.text : Query → String
  | .path p => p.text
  | .group g => g.text

end

def Segment.text : Segment → String
  | .field name => name
  | .filter g => "[" ++ g.text ++ "]"
  | .call callee arguments => callee.text ++ "(" ++ Argument.listText arguments ++ ")"

end PathQuery
