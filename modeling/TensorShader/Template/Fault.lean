import TensorShader.Template.Value

/-! Why a template cannot be rendered. A fault has a cause and the line at which it was found, and
one function words it. -/

namespace TensorShader.Template

/-- What is wrong with the text of a template. -/
inductive Malformation where
  /-- A comment has no end. -/
  | openComment
  /-- A quoted string has no end. -/
  | openString
  /-- A character starts no token. -/
  | character
  /-- An integer is not written as one, or has more than 128 bits. -/
  | integer
  /-- A floating-point number is not written as one. -/
  | float
  /-- A number ends with an underscore. -/
  | underscore
  /-- A token stands where an operand should. -/
  | operand (found : String)
  /-- Something else was expected. -/
  | unexpected (found expected : String)
  /-- A tag does not start with the name of a statement. -/
  | notStatement (found : String)
  /-- No statement has this name, or none here. -/
  | unknownStatement (name : String)
  /-- Statements and operands are nested too deeply. -/
  | depth
deriving DecidableEq, Repr

def Malformation.message : Malformation → String
  | .openComment => "unexpected end of comment"
  | .openString => "unexpected end of string"
  | .character => "unexpected character"
  | .integer => "invalid integer (too large)"
  | .float => "invalid float"
  | .underscore => "'_' may not occur at end of number"
  | .operand found => "unexpected " ++ found
  | .unexpected found expected => "unexpected " ++ found ++ ", expected " ++ expected
  | .notStatement found => "unknown " ++ found ++ ", expected statement"
  | .unknownStatement name => "unknown statement " ++ name
  | .depth => "template exceeds maximum recursion limits"

/-- What is wrong with an operation on values. -/
inductive Misuse where
  /-- An operator does not apply to operands of these kinds. -/
  | operands (operator : String) (left right : Kind)
  /-- An operation on integers, whose texts these are, has no result of 128 bits. -/
  | result (operator left right : String)
  /-- A string, or items, are repeated a number of times that is no count. -/
  | repetition (of : Kind)
  /-- A string is repeated too often. -/
  | repeatedSize
  /-- A value has no opposite, for it is not a number that operators take. -/
  | opposite
  /-- The opposite of a number does not have 128 bits. -/
  | overflow
  /-- A value of this kind contains nothing. -/
  | containment
  /-- A value of this kind is no floating-point number. -/
  | conversion (kind : Kind)
deriving DecidableEq, Repr

/-- The wording of a misuse, after the words that all of them share. -/
def Misuse.detail : Misuse → String
  | .operands op l r =>
    ": tried to use " ++ op ++ " operator on unsupported types " ++ l.name ++ " and " ++ r.name
  | .result op l r => ": unable to calculate " ++ l ++ " " ++ op ++ " " ++ r
  | .repetition .string => ": strings can only be multiplied with integers"
  | .repetition _ => ": sequences and iterables can only be multiplied with integers"
  | .repeatedSize => ": repeated string is too large"
  | .opposite => ""
  | .overflow => ": overflow"
  | .containment => ": cannot perform a containment check on this value"
  | .conversion k => ": cannot convert " ++ k.name ++ " to f64"

/-- The cause of a fault. -/
inductive Cause where
  | malformed (what : Malformation)
  /-- An escape in a string is not known. -/
  | stringEscape
  /-- An undefined value is written, tested or compared, or a part of it is asked for. -/
  | undefinedValue
  | misuse (what : Misuse)
  | unknownFilter (name : String)
deriving DecidableEq, Repr

def Cause.message : Cause → String
  | .malformed what => "syntax error: " ++ what.message
  | .stringEscape => "bad string escape"
  | .undefinedValue => "undefined value"
  | .misuse what => "invalid operation" ++ what.detail
  | .unknownFilter name => "unknown filter: filter " ++ name ++ " is unknown"

/-- A cause and the line at which it was found. Lines count from 1. -/
structure Fault where
  cause : Cause
  line : Nat
deriving DecidableEq, Repr

def Fault.message (f : Fault) : String :=
  f.cause.message ++ " (in <string>:" ++ toString f.line ++ ")"

end TensorShader.Template
