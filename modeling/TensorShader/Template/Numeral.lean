import TensorShader.Template.Token
import TensorShader.Text.Digits

/-! How numbers are written in templates: integers in four bases, and decimals with a point, an
exponent, or both. Underscores may stand among the digits. -/

namespace TensorShader.Template

def isNameStart (c : Char) : Bool := c.isAlpha || c == '_'

def isNameChar (c : Char) : Bool := c.isAlphanum || c == '_'

/-- The part of a number that is being read. -/
inductive NumberPart where
  | whole
  | fraction
  /-- Just after the exponent mark, where a sign may stand. -/
  | exponentStart
  | exponent
  /-- Digits in a base that the first two characters name. -/
  | radix (base : Nat)
deriving DecidableEq, Repr

def baseOfLetter? (c : Char) : Option Nat :=
  if c == 'x' || c == 'X' then some 16
  else if c == 'o' || c == 'O' then some 8
  else if c == 'b' || c == 'B' then some 2
  else none

def isExponentMark (c : Char) : Bool := c == 'e' || c == 'E'

def isSign (c : Char) : Bool := c == '+' || c == '-'

/-- Whether a point after whole digits belongs to the number, by what follows it: a name does not
follow the point of a number, but an exponent does. -/
def startsFraction : List Char → Bool
  | [] => true
  | [c] => !isNameStart c
  | c :: d :: _ => !isNameStart c || (isExponentMark c && (d.isDigit || isSign d))

namespace NumberPart

/-- What a further character of a number belongs to, if it is one. `chars` are the characters so
far, the latest first, and `rest` those after the further one. -/
def next? (part : NumberPart) (chars : List Char) (c : Char) (rest : List Char) :
    Option NumberPart :=
  if c == '_' then some part
  else if c.isDigit then some (if part = .exponentStart then .exponent else part)
  else
    match part with
    | .whole =>
      if c == '.' then if startsFraction rest then some .fraction else none
      else if isExponentMark c then some .exponentStart
      else if chars = ['0'] then (baseOfLetter? c).map .radix
      else none
    | .fraction => if isExponentMark c then some .exponentStart else none
    | .exponentStart => if isSign c then some .exponent else none
    | .radix base => if isDigitIn base c then some (.radix base) else none
    | .exponent => none

end NumberPart

/-- The integer that an exponent's sign and digits write, if they do. -/
def exponentValue? : List Char → Option Int
  | '-' :: ds => if isDigits ds then some (-(digitsValue 10 ds : Int)) else none
  | '+' :: ds => if isDigits ds then some (digitsValue 10 ds) else none
  | ds => if isDigits ds then some (digitsValue 10 ds) else none

/-- The number nearest to the decimal with the given digits before and after its point and the given
exponent. An exponent so large that no digits matter is cut off. -/
def decimalValue (whole fraction : List Char) (exponent : Int) : Binary64 :=
  let ds := whole ++ fraction
  let e := exponent - fraction.length
  .ofScientific false (digitsValue 10 ds) (max (-(ds.length + 400)) (min e 400))

def floatToken (cs : List Char) : Token :=
  let mantissa := cs.takeWhile fun c => !isExponentMark c
  let exponent := (cs.dropWhile fun c => !isExponentMark c).drop 1
  let whole := mantissa.takeWhile (· != '.')
  let fraction := (mantissa.dropWhile (· != '.')).drop 1
  if exponent.isEmpty && mantissa.length == cs.length then .float (decimalValue whole fraction 0)
  else
    match exponentValue? exponent with
    | some e => .float (decimalValue whole fraction e)
    | none => .fault (.malformed .float)

def intToken (base : Nat) (ds : List Char) : Token :=
  if !ds.isEmpty && ds.all (isDigitIn base) then
    match Integer.ofInt? IntFormat.written (digitsValue base ds) with
    | some i => .int i
    | none => .fault (.malformed .integer)
  else .fault (.malformed .integer)

def numberToken (part : NumberPart) (cs : List Char) : Token :=
  if cs.getLast? = some '_' then .fault (.malformed .underscore)
  else
    let cs := cs.filter (· != '_')
    match part with
    | .whole => intToken 10 cs
    | .radix base => intToken base (cs.drop 2)
    | _ => floatToken cs

end TensorShader.Template
