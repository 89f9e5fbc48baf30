import StylesheetRunner.Shell.Arithmetic
import StylesheetRunner.Shell.Session
import StylesheetRunner.Text.Lines
import StylesheetRunner.Text.Numeral

/-!
Programs that print what their arguments say, and the escapes and formats they understand.
-/

namespace StylesheetRunner.Shell.Programs

open Session (inMessage byteText)

def octal (digits : List Char) : Char :=
  Char.ofNat (digits.foldl (fun value digit => value * 8 + (digit.toNat - '0'.toNat)) 0 % 256)

def isOctal (character : Char) : Bool :=
  '0' ≤ character && character ≤ '7'

/-- A text with its escapes replaced, within a number of steps. The flag tells whether it was cut
short. An octal number has up to three digits, and where a zero opens it, one more. -/
def unescapeWithin (zeroOpens : Bool) : (bound : Nat) → List Char → List Char × Bool
  | 0, text => (text, false)
  | bound + 1, text =>
    let put (character : Char) (rest : List Char) : List Char × Bool :=
      let (after, isCut) := unescapeWithin zeroOpens bound rest
      (character :: after, isCut)
    match text with
    | [] => ([], false)
    | '\\' :: 'n' :: rest => put '\n' rest
    | '\\' :: 't' :: rest => put '\t' rest
    | '\\' :: 'r' :: rest => put '\r' rest
    | '\\' :: 'a' :: rest => put '\x07' rest
    | '\\' :: 'b' :: rest => put '\x08' rest
    | '\\' :: 'f' :: rest => put '\x0c' rest
    | '\\' :: 'v' :: rest => put '\x0b' rest
    | '\\' :: '\\' :: rest => put '\\' rest
    | '\\' :: 'c' :: _ => ([], true)
    | '\\' :: character :: rest =>
      if isOctal character ∧ (!zeroOpens ∨ character = '0') then
        let digits := (if zeroOpens then rest else character :: rest).takeWhile isOctal |>.take 3
        put (octal digits) ((if zeroOpens then rest else character :: rest).drop digits.length)
      else
        let (after, isCut) := put character rest
        ('\\' :: after, isCut)
    | character :: rest => put character rest

def unescape (zeroOpens : Bool) (text : List Char) : List Char × Bool :=
  unescapeWithin zeroOpens (text.length + 1) text

def linesOf (text : List Char) : List (List Char) × Bool :=
  let pieces := (text.foldr (fun character pieces =>
    if character = '\n' then [] :: pieces
    else
      match pieces with
      | first :: others => (character :: first) :: others
      | [] => [[character]]) [[]])
  if text = [] then ([], true)
  else if pieces.getLast? = some [] then (pieces.dropLast, true) else (pieces, false)

def ofLines (lines : List (List Char)) (hasEnd : Bool) : List Char :=
  if lines = [] then [] else Text.joinLines lines ++ if hasEnd then ['\n'] else []

def echo (arguments : List (List Char)) (session : Session) : Session :=
  let (withEnd, words) :=
    match arguments with
    | ['-', 'n'] :: rest => (false, rest)
    | _ => (true, arguments)
  let (text, isCut) := unescape true (Text.join [' '] words)
  (session.print (text ++ if withEnd && !isCut then ['\n'] else [])).finish 0

def padded (width : Nat) (atLeft : Bool) (text : List Char) : List Char :=
  let blanks := List.replicate (width - text.length) ' '
  if atLeft then text ++ blanks else blanks ++ text

/-- What a format has made so far: its text, the arguments left, whether it was cut short, and what
was wrong with arguments. -/
structure Formatted where
  text : List Char
  left : List (List Char)
  isCut : Bool
  complaints : List String

def numberComplaint (argument : List Char) : List String :=
  let isQuote (character : Char) : Bool := character = '"' || character = '\''
  if argument = [] ∨ argument.head?.any isQuote then []
  else
    match numberInFront argument with
    | none => [s!"{inMessage argument}: expected numeric value"]
    | some (_, []) => []
    | some (_, _) => [s!"{inMessage argument}: not completely converted"]

/-- The number that an argument is taken for; a character behind a quote stands for its code. -/
def argumentNumber (argument : List Char) : Int :=
  match argument with
  | '"' :: character :: _ => character.toNat
  | '\'' :: character :: _ => character.toNat
  | _ => ((numberInFront argument).map Prod.fst).getD 0

def formatWithin : (bound : Nat) → (format : List Char) → List (List Char) → Formatted
  | 0, _, arguments => ⟨[], arguments, false, []⟩
  | bound + 1, format, arguments =>
    let put (text : List Char) (rest : List Char) (arguments : List (List Char)) : Formatted :=
      let after := formatWithin bound rest arguments
      { after with text := text ++ after.text }
    match format with
    | [] => ⟨[], arguments, false, []⟩
    | '%' :: '%' :: rest => put ['%'] rest arguments
    | '%' :: rest =>
      let flags := rest.takeWhile fun character => character = '-' || character = '0'
      let rest := rest.drop flags.length
      let digits := rest.takeWhile Char.isDigit
      let width := (numberOf digits).toNat
      let atLeft := '-' ∈ flags
      let behind := rest.drop digits.length
      let (precision, rest) :=
        match behind with
        | '.' :: behind =>
          let digits := behind.takeWhile Char.isDigit
          (some (numberOf digits).toNat, behind.drop digits.length)
        | _ => (none, behind)
      let isZeroed := '0' ∈ flags && !atLeft
      let argument := arguments.head?.getD []
      let left := arguments.drop 1
      let field (text : List Char) : List Char :=
        if isZeroed then List.replicate (width - text.length) '0' ++ text
        else padded width atLeft text
      let number (write : Int → List Char) (rest : List Char) : Formatted :=
        let after := put (field (write (argumentNumber argument))) rest left
        { after with complaints := numberComplaint argument ++ after.complaints }
      let shortened (text : List Char) : List Char :=
        match precision with
        | some count => text.take count
        | none => text
      match rest with
      | 's' :: rest => put (padded width atLeft (shortened argument)) rest left
      | 'b' :: rest =>
        let (text, isCut) := unescape true argument
        if isCut then ⟨text, left, true, []⟩ else put (padded width atLeft text) rest left
      | 'c' :: rest => put (padded width atLeft (argument.take 1)) rest left
      | 'd' :: rest => number Text.integerText rest
      | 'i' :: rest => number Text.integerText rest
      | 'u' :: rest => number Text.integerText rest
      | 'x' :: rest => number (fun value => Nat.toDigits 16 value.toNat) rest
      | 'X' :: rest =>
        number (fun value => (Nat.toDigits 16 value.toNat).map Char.toUpper) rest
      | 'o' :: rest => number (fun value => Nat.toDigits 8 value.toNat) rest
      | rest => put ['%'] rest arguments
    | '\\' :: rest =>
      match rest with
      | character :: _ =>
        let taken :=
          if isOctal character then 1 + (rest.takeWhile isOctal |>.take 3).length else 2
        let (text, isCut) := unescape false (format.take taken)
        if isCut then ⟨text, arguments, true, []⟩ else put text (format.drop taken) arguments
      | [] => put ['\\'] [] arguments
    | character :: rest => put [character] rest arguments

/-- The text of a format, used again as long as arguments are left, within a number of steps, and
what was wrong with arguments. -/
def formatAll (format : List Char) : (bound : Nat) → List (List Char) → List Char × List String
  | 0, _ => ([], [])
  | bound + 1, arguments =>
    let made := formatWithin (format.length + 1) format arguments
    if made.isCut ∨ made.left = [] ∨ made.left.length = arguments.length then
      (made.text, made.complaints)
    else
      let (text, complaints) := formatAll format bound made.left
      (made.text ++ text, made.complaints ++ complaints)

def printf (arguments : List (List Char)) (session : Session) : Session :=
  let arguments := if arguments.head? = some ['-', '-'] then arguments.drop 1 else arguments
  match arguments with
  | [] => (session.fault "printf: usage: printf format [arg ...]").finish 2
  | format :: rest =>
    let (text, complaints) := formatAll format (rest.length + 1) rest
    let session := complaints.foldl (fun session complaint =>
      session.fault s!"printf: {complaint}") session
    (session.print text).finish (if complaints = [] then 0 else 1)

def seq (arguments : List (List Char)) (session : Session) : Session :=
  let print (first last : Int) : Session :=
    let numbers := (List.range (last + 1 - first).toNat).map fun (step : Nat) =>
      Text.integerText (first + (step : Int))
    (session.print (ofLines numbers true)).finish 0
  match arguments with
  | [last] => print 1 (numberOf last)
  | [first, last] => print (numberOf first) (numberOf last)
  | _ => session.finish 1

/-- Prints a word again and again. Where the output is captured, it stops when nobody can want more;
elsewhere it never ends. -/
def yes (arguments : List (List Char)) (session : Session) : Session :=
  let word := if arguments = [] then ['y'] else Text.join [' '] arguments
  match session.stream 1 with
  | .capture _ => (session.print (ofLines (List.replicate 65536 word) true)).finish 0
  | _ => session.leaveBy .endless

end StylesheetRunner.Shell.Programs
