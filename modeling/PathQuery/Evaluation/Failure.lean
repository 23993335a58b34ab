import PathQuery.Catalog.Signature
import PathQuery.Codec.Basic

namespace PathQuery

inductive Mismatch where
  | field (name : String) (k : Kind)
  | filter (k : Kind)
  | parameter (position : Nat) (expected : ParameterType) (k : Kind)
  | number (k : Kind)
  | string (k : Kind)
  | list (k : Kind)
  | count (k : Kind)
  | any (k : Kind)
deriving DecidableEq, Repr

def Mismatch.message : Mismatch → String
  | .field name k => "cannot read field '" ++ name ++ "' of a " ++ k.name
  | .filter k => "cannot filter a " ++ k.name
  | .parameter i expected k =>
    "parameter " ++ Nat.repr i ++ " must be " ++ expected.text ++ ", got " ++ k.name
  | .number k => "expected a number, got " ++ k.name
  | .string k => "expected a string, got " ++ k.name
  | .list k => "expected a list, got " ++ k.name
  | .count k => "cannot count a " ++ k.name
  | .any k => "Any() needs a list or record, got " ++ k.name

inductive CallFailure where
  | mismatch (m : Mismatch)
  | arity (expected : Arity) (found : Nat)
  | indexOutOfRange (index : Decimal) (length : Nat)
  | emptyList
  | divisionByZero
  | overflow
  | pattern
  | codec (fault : CodecFault)
deriving DecidableEq, Repr

def CallFailure.message : CallFailure → String
  | .mismatch m => "type error: " ++ m.message
  | .arity expected found =>
    "expected " ++ expected.text ++ " parameters, got " ++ Nat.repr found
  | .indexOutOfRange index length =>
    "index " ++ index.text ++ " out of range for list of length " ++ Nat.repr length
  | .emptyList => "list is empty"
  | .divisionByZero => "division by zero"
  | .overflow => "numeric overflow"
  | .pattern => "invalid regular expression: *"
  | .codec fault => fault.message

inductive Failure where
  | keyNotFound (name : String)
  | mismatch (m : Mismatch)
  | rootInFilter
  | unknownFunction (name : String)
  | invalidOperator (word : String)
  | call (f : Builtin) (cause : CallFailure)
deriving DecidableEq, Repr

def Failure.message : Failure → String
  | .keyNotFound name => "key not found: '" ++ name ++ "'"
  | .mismatch m => "type error: " ++ m.message
  | .rootInFilter => "cannot use '$' (root) inside filter"
  | .unknownFunction name => "unrecognised function '" ++ name ++ "'"
  | .invalidOperator word => "unrecognised logical operator '" ++ word ++ "'"
  | .call f cause => f.name ++ ": " ++ cause.message

end PathQuery
