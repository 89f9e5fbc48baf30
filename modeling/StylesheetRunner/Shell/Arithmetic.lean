import StylesheetRunner.Shell.Script
import StylesheetRunner.Text.Numeral

/-!
Numbers in scripts and the arithmetic on them, in words of 64 bits.
-/

namespace StylesheetRunner.Shell

/-- The number that a text writes; nothing counts as zero. -/
def numberOf (text : List Char) : Int :=
  match Text.readInteger Text.signedLimit (text.filter fun character => character ≠ ' ') with
  | .ok value => value
  | .error _ => 0

def digitValue (digit : Char) : Nat :=
  if digit.isDigit then digit.toNat - '0'.toNat else digit.toLower.toNat - 'a'.toNat + 10

def valueIn (base : Nat) (digits : List Char) : Nat :=
  digits.foldl (fun value digit => value * base + digitValue digit) 0

def isHexDigit (character : Char) : Bool :=
  character.isDigit || (character.toLower.isAlpha && character.toLower ≤ 'f')

/-- The natural number at the front of a text, in base sixteen behind `0x` and in base eight behind
a zero, and the rest. -/
def naturalInFront (text : List Char) : Option (Nat × List Char) :=
  let plain (base : Nat) (isDigit : Char → Bool) (text : List Char) : Option (Nat × List Char) :=
    let digits := text.takeWhile isDigit
    if digits = [] then none else some (valueIn base digits, text.drop digits.length)
  match text with
  | '0' :: 'x' :: rest => plain 16 isHexDigit rest
  | '0' :: 'X' :: rest => plain 16 isHexDigit rest
  | '0' :: _ => plain 8 (fun digit => '0' ≤ digit && digit ≤ '7') text
  | _ => plain 10 Char.isDigit text

def numberInFront (text : List Char) : Option (Int × List Char) :=
  match text with
  | '-' :: rest => (naturalInFront rest).map fun read => (-(read.1 : Int), read.2)
  | '+' :: rest => (naturalInFront rest).map fun read => ((read.1 : Int), read.2)
  | _ => (naturalInFront text).map fun read => ((read.1 : Int), read.2)

namespace Arithmetic

inductive ArithmeticFault where
  | noPrimary
  | noEnd
  | divisionByZero
deriving DecidableEq, Repr

def ArithmeticFault.message (fault : ArithmeticFault) (expression : String) : String :=
  let reason :=
    match fault with
    | .noPrimary => "expecting primary"
    | .noEnd => "expecting EOF"
    | .divisionByZero => "division by zero"
  s!"arithmetic expression: {reason}: \"{expression}\""

def operators : List (Nat × List String) :=
  [(0, ["||"]), (1, ["&&"]), (2, ["|"]), (3, ["^"]), (4, ["&"]), (5, ["==", "!="]),
    (6, ["<=", ">=", "<", ">"]), (7, ["<<", ">>"]), (8, ["+", "-"]), (9, ["*", "/", "%"])]

def strongest : Nat := 9

def wrap (value : Int) : Int :=
  Int.bmod value (Text.wordLimit + 1)

def bits (value : Int) : Nat :=
  (value % ((Text.wordLimit : Int) + 1)).toNat

def apply (operator : String) (left right : Int) : Except ArithmeticFault Int :=
  let truth (flag : Bool) : Except ArithmeticFault Int := .ok (if flag then 1 else 0)
  match operator with
  | "||" => truth (left ≠ 0 || right ≠ 0)
  | "&&" => truth (left ≠ 0 && right ≠ 0)
  | "|" => .ok (wrap (Nat.lor (bits left) (bits right)))
  | "^" => .ok (wrap (Nat.xor (bits left) (bits right)))
  | "&" => .ok (wrap (Nat.land (bits left) (bits right)))
  | "==" => truth (left = right)
  | "!=" => truth (left ≠ right)
  | "<=" => truth (left ≤ right)
  | ">=" => truth (right ≤ left)
  | "<" => truth (left < right)
  | ">" => truth (right < left)
  | "<<" => .ok (wrap (left * (Nat.pow 2 (bits right % 64) : Nat)))
  | ">>" => .ok (Int.fdiv left (Nat.pow 2 (bits right % 64) : Nat))
  | "+" => .ok (wrap (left + right))
  | "-" => .ok (wrap (left - right))
  | "*" => .ok (wrap (left * right))
  | "/" => if right = 0 then .error .divisionByZero else .ok (wrap (Int.tdiv left right))
  | _ => if right = 0 then .error .divisionByZero else .ok (Int.tmod left right)

/-- The operator that opens a text: of several the longest. -/
def operatorInFront? (text : List Char) : Option String :=
  let all := operators.flatMap Prod.snd
  let found := all.filter fun operator => operator.toList.isPrefixOf text
  found.find? fun operator => found.all fun other => other.length ≤ operator.length

def operatorAt? (strength : Nat) (text : List Char) : Option String :=
  (operatorInFront? text).filter fun operator =>
    operator ∈ (operators.lookup strength).getD []

def skip (text : List Char) : List Char :=
  text.dropWhile fun character => character = ' ' || character = '\t' || character = '\n'

mutual

/-- The value of an expression whose operators bind at least as strongly as the given strength. -/
def evaluate (look : List Char → Int) :
    (bound strength : Nat) → List Char → Except ArithmeticFault (Int × List Char)
  | 0, _, _ => .error .noPrimary
  | bound + 1, strength, text =>
    if strongest < strength then operand look bound (skip text)
    else
      match evaluate look bound (strength + 1) text with
      | .error fault => .error fault
      | .ok (first, rest) => continueWith look bound strength first rest

def continueWith (look : List Char → Int) :
    (bound strength : Nat) → Int → List Char → Except ArithmeticFault (Int × List Char)
  | 0, _, _, _ => .error .noPrimary
  | bound + 1, strength, value, text =>
    match operatorAt? strength (skip text) with
    | none => .ok (value, text)
    | some operator =>
      match evaluate look bound (strength + 1) ((skip text).drop operator.length) with
      | .error fault => .error fault
      | .ok (second, rest) =>
        match apply operator value second with
        | .error fault => .error fault
        | .ok value => continueWith look bound strength value rest

/-- The value of a number, a name, a sign before an operand, or an expression in parentheses. -/
def operand (look : List Char → Int) :
    (bound : Nat) → List Char → Except ArithmeticFault (Int × List Char)
  | 0, _ => .error .noPrimary
  | bound + 1, text =>
    let after (change : Int → Int) (rest : List Char) : Except ArithmeticFault (Int × List Char) :=
      (operand look bound (skip rest)).map fun read => (change read.1, read.2)
    match text with
    | '(' :: rest =>
      (evaluate look bound 0 rest).map fun read => (read.1, (skip read.2).drop 1)
    | '-' :: rest => after (fun value => wrap (-value)) rest
    | '+' :: rest => after id rest
    | '!' :: rest => after (fun value => if value = 0 then 1 else 0) rest
    | '~' :: rest => after (fun value => -value - 1) rest
    | _ =>
      match naturalInFront text with
      | some (number, rest) => .ok (number, rest)
      | none =>
        let name := text.takeWhile continuesName
        if name = [] then .error .noPrimary else .ok (look name, text.drop name.length)

end

def value (look : List Char → Int) (text : List Char) : Except ArithmeticFault Int :=
  if skip text = [] then .error .noPrimary
  else
    match evaluate look (40 * text.length + 40) 0 text with
    | .error fault => .error fault
    | .ok (value, rest) => if skip rest = [] then .ok value else .error .noEnd

end Arithmetic

end StylesheetRunner.Shell
