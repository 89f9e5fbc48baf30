import StylesheetRunner.Shell.Programs.Printing

/-!
Programs that tell by their status whether something holds.
-/

namespace StylesheetRunner.Shell.Programs

open Session (inMessage byteText)

inductive TestFault where
  | missingBracket
  | illegalNumber (word : List Char)
  | argumentExpected (operator : List Char)
  | unexpectedOperator (word : List Char)
deriving DecidableEq, Repr

def TestFault.message : TestFault → String
  | .missingBracket => "missing ]"
  | .illegalNumber word => s!"Illegal number: {inMessage word}"
  | .argumentExpected operator => s!"{inMessage operator}: argument expected"
  | .unexpectedOperator word => s!"{inMessage word}: unexpected operator"

def holdsUnary (operator operand : List Char) (session : Session) : Bool :=
  let path := session.resolve operand
  match String.ofList operator with
  | "-n" => operand ≠ []
  | "-z" => operand = []
  | "-f" => session.files.isFile path
  | "-d" => session.files.isDirectory path
  | "-x" => session.files.isDirectory path
  | "-s" =>
    match session.files.read path with
    | .ok bytes => bytes ≠ []
    | .error _ => session.files.isDirectory path
  | "-e" => session.files.holds path
  | "-r" => session.files.holds path
  | "-w" => session.files.holds path
  | _ => false

def operandNumber (word : List Char) : Except TestFault Int :=
  let bare := word.dropWhile fun character => character = ' '
  let digits := if bare.head? = some '-' || bare.head? = some '+' then bare.drop 1 else bare
  if digits.isEmpty || digits.any fun digit => !digit.isDigit then .error (.illegalNumber word)
  else .ok (numberOf bare)

def compareNumbers (left right : List Char) (holds : Int → Int → Bool) : Except TestFault Bool := do
  pure (holds (← operandNumber left) (← operandNumber right))

def holdsBinary (left operator right : List Char) : Except TestFault Bool :=
  match String.ofList operator with
  | "=" => .ok (left = right)
  | "==" => .ok (left = right)
  | "!=" => .ok (left ≠ right)
  | "<" => .ok (left < right)
  | ">" => .ok (right < left)
  | "-eq" => compareNumbers left right fun first second => first = second
  | "-ne" => compareNumbers left right fun first second => first ≠ second
  | "-lt" => compareNumbers left right fun first second => first < second
  | "-le" => compareNumbers left right fun first second => first ≤ second
  | "-gt" => compareNumbers left right fun first second => second < first
  | "-ge" => compareNumbers left right fun first second => second ≤ first
  | _ => .ok false

def isBinary (word : List Char) : Bool :=
  String.ofList word ∈ ["=", "==", "!=", "<", ">", "-eq", "-ne", "-lt", "-le", "-gt", "-ge"]

def isUnary (word : List Char) : Bool :=
  String.ofList word ∈
    ["-n", "-z", "-e", "-f", "-d", "-r", "-w", "-x", "-s", "-t", "-h", "-L", "-p", "-S", "-b", "-c",
      "-u", "-g", "-k"]

/-- The value of a single test at the front of arguments, and the arguments behind it. -/
def simpleTest (session : Session) :
    List (List Char) → Except TestFault (Bool × List (List Char))
  | [] => .ok (false, [])
  | ['!'] :: rest =>
    if rest = [] then .ok (true, [])
    else (simpleTest session rest).map fun value => (!value.1, value.2)
  | first :: second :: third :: rest =>
    if isBinary second then (holdsBinary first second third).map fun holds => (holds, rest)
    else if isUnary first then .ok (holdsUnary first second session, third :: rest)
    else .ok (first ≠ [], second :: third :: rest)
  | [first, second] =>
    if isBinary second then .error (.argumentExpected second)
    else if isUnary first then .ok (holdsUnary first second session, [])
    else .ok (first ≠ [], [second])
  | [only] => .ok (only ≠ [], [])

/-- Goes on behind a test: a conjunction binds more strongly than a disjunction. The sum is what
stands before the last disjunction. -/
def testsWithin (session : Session) :
    (bound : Nat) → (sum product : Bool) → List (List Char) →
      Except TestFault (Bool × List (List Char))
  | 0, sum, product, arguments => .ok (sum || product, arguments)
  | bound + 1, sum, product, arguments =>
    match arguments with
    | ['-', 'a'] :: rest => do
      let (holds, rest) ← simpleTest session rest
      testsWithin session bound sum (product && holds) rest
    | ['-', 'o'] :: rest => do
      let (holds, rest) ← simpleTest session rest
      testsWithin session bound (sum || product) holds rest
    | _ => .ok (sum || product, arguments)

/-- Whether a test holds. No argument may be left over. -/
def holdsTest (session : Session) (arguments : List (List Char)) : Except TestFault Bool := do
  let (holds, rest) ← simpleTest session arguments
  let (holds, rest) ← testsWithin session (arguments.length + 1) false holds rest
  if rest = [] then pure holds
  else throw (.unexpectedOperator (arguments.getD (arguments.length - rest.length - 1) []))

/-- Tests its arguments; the bracket form ends with a bracket. -/
def test (isBracket : Bool) (arguments : List (List Char)) (session : Session) : Session :=
  let answer :=
    if !isBracket then holdsTest session arguments
    else if arguments.getLast? = some [']'] then holdsTest session arguments.dropLast
    else .error .missingBracket
  match answer with
  | .ok holds => session.finish (if holds then 0 else 1)
  | .error fault =>
    let name := if isBracket then "[" else "test"
    (session.fault s!"{name}: {fault.message}").finish 2

def expr (arguments : List (List Char)) (session : Session) : Session :=
  let give (value : List Char) : Session :=
    (session.print (value ++ ['\n'])).finish (if value = [] ∨ value = ['0'] then 1 else 0)
  match arguments with
  | [only] => give only
  | [left, ['='], right] => give (if left = right then ['1'] else ['0'])
  | [left, operator, right] =>
    match String.ofList operator with
    | "+" => give (Text.integerText (numberOf left + numberOf right))
    | "-" => give (Text.integerText (numberOf left - numberOf right))
    | "*" => give (Text.integerText (numberOf left * numberOf right))
    | "/" => give (Text.integerText (Int.tdiv (numberOf left) (numberOf right)))
    | "%" => give (Text.integerText (Int.tmod (numberOf left) (numberOf right)))
    | "!=" => give (if left = right then ['0'] else ['1'])
    | _ => (session.complain "expr: syntax error").finish 2
  | _ => (session.complain "expr: syntax error").finish 2

end StylesheetRunner.Shell.Programs
