import StylesheetRunner.Shell.Script
import StylesheetRunner.Text.Lines

/-!
Reading scripts. Every reader takes a number of steps that bounds its work, and the characters to be
read; what does not belong to the language is refused as a whole.
-/

namespace StylesheetRunner.Shell

inductive WordMode where
  | word
  | quotes
  | braces
  | document
deriving DecidableEq, Repr

def endsWord (character : Char) : Bool :=
  character = ' ' || character = '\t' || character = '\n' || character = ';' || character = '&' ||
    character = '|' || character = '<' || character = '>' || character = '(' || character = ')'

def skipBlanks : List Char → List Char
  | ' ' :: rest => skipBlanks rest
  | '\t' :: rest => skipBlanks rest
  | '\\' :: '\n' :: rest => skipBlanks rest
  | '#' :: rest => rest.dropWhile (· ≠ '\n')
  | characters => characters

def skipLinesWithin : (bound : Nat) → List Char → List Char
  | 0, characters => characters
  | bound + 1, characters =>
    match skipBlanks characters with
    | '\n' :: rest => skipLinesWithin bound rest
    | rest => rest

def skipLines (characters : List Char) : List Char :=
  skipLinesWithin (characters.length + 1) characters

def skipSeparatorsWithin : (bound : Nat) → List Char → List Char
  | 0, characters => characters
  | bound + 1, characters =>
    match skipBlanks characters with
    | '\n' :: rest => skipSeparatorsWithin bound rest
    | ';' :: ';' :: rest => ';' :: ';' :: rest
    | ';' :: rest => skipSeparatorsWithin bound rest
    | rest => rest

/-- The part of a text up to a closing character, whose escapes are kept, and the part behind. -/
def upToUnescaped? (closing : Char) : List Char → Option (List Char × List Char)
  | [] => none
  | ['\\'] => none
  | '\\' :: escaped :: rest =>
    (upToUnescaped? closing rest).map fun parts => ('\\' :: escaped :: parts.1, parts.2)
  | character :: rest =>
    if character = closing then some ([], rest)
    else (upToUnescaped? closing rest).map fun parts => (character :: parts.1, parts.2)

/-- A text without the backslashes before the characters that a reversed quote escapes. -/
def unescapeBackquoted : List Char → List Char
  | '\\' :: '`' :: rest => '`' :: unescapeBackquoted rest
  | '\\' :: '\\' :: rest => '\\' :: unescapeBackquoted rest
  | '\\' :: '$' :: rest => '$' :: unescapeBackquoted rest
  | character :: rest => character :: unescapeBackquoted rest
  | [] => []

/-- The part of a text up to the two parentheses that close an arithmetic expression. -/
def upToArithmeticEnd? : (depth : Nat) → List Char → Option (List Char × List Char)
  | _, [] => none
  | 0, ')' :: ')' :: rest => some ([], rest)
  | depth, '(' :: rest =>
    (upToArithmeticEnd? (depth + 1) rest).map fun parts => ('(' :: parts.1, parts.2)
  | depth, ')' :: rest =>
    (upToArithmeticEnd? (depth - 1) rest).map fun parts => (')' :: parts.1, parts.2)
  | depth, character :: rest =>
    (upToArithmeticEnd? depth rest).map fun parts => (character :: parts.1, parts.2)

/-- The document that starts on the next line and ends before the given line: the characters
without it, and its text. A stripped document loses the tabs at the front of its lines. -/
def takeDocument (strips : Bool) (ending : List Char) (characters : List Char) :
    List Char × List Char :=
  let line := characters.takeWhile (· ≠ '\n')
  let body := (characters.dropWhile (· ≠ '\n')).drop 1
  let clean (text : List Char) := if strips then text.dropWhile (· = '\t') else text
  let lines := (Text.lines body).map clean
  let held := lines.takeWhile (· ≠ ending)
  let rest := Text.joinLines ((Text.lines body).drop (held.length + 1))
  let finalEnd : List Char := if rest ≠ [] ∧ body.getLast? = some '\n' then ['\n'] else []
  let text := held.flatMap fun text => text ++ ['\n']
  let isCut : Bool := held.length = lines.length && body.getLast? ≠ some '\n'
  (line ++ '\n' :: rest ++ finalEnd, if isCut then text.dropLast else text)

/-- The text of a word that only quotes and plain characters make, and whether it has quotes. -/
def delimiterText (word : Word) : List Char × Bool :=
  word.foldl (fun (text, quoted) part =>
    match part with
    | .literal isQuoted more => (text ++ more, quoted || isQuoted)
    | _ => (text, quoted)) ([], false)

/-- The word at the front that might be reserved: small letters, braces or an exclamation mark. -/
def leadingWord (characters : List Char) : String :=
  let word := characters.takeWhile fun character => !endsWord character
  String.ofList word

def closingWords : List String := ["then", "elif", "else", "fi", "do", "done", "esac", "\x7d"]

def lineOf (source rest : List Char) : Nat :=
  ((source.take (source.length - rest.length)).filter (· = '\n')).length + 1

mutual

def readParts (source : List Char) :
    (bound : Nat) → WordMode → List Char → Option (Word × List Char)
  | 0, _, _ => none
  | bound + 1, mode, characters =>
    let quoted := mode = .quotes || mode = .document
    let continueWith (part : Part) (rest : List Char) : Option (Word × List Char) :=
      (readParts source bound mode rest).map fun read => (part :: read.1, read.2)
    match characters with
    | [] => if mode = .quotes ∨ mode = .braces then none else some ([], [])
    | '\\' :: '\n' :: rest => readParts source bound mode rest
    | '\\' :: escaped :: rest =>
      if quoted then
        if escaped = '$' ∨ escaped = '`' ∨ escaped = '\\' ∨ (escaped = '"' ∧ mode = .quotes) then
          continueWith (.literal true [escaped]) rest
        else continueWith (.literal true ['\\', escaped]) rest
      else continueWith (.literal true [escaped]) rest
    | '$' :: rest =>
      match readDollar source bound quoted rest with
      | some (part, rest) => continueWith part rest
      | none => none
    | '`' :: rest =>
      match upToUnescaped? '`' rest with
      | none => none
      | some (inner, rest) =>
        let text := unescapeBackquoted inner
        match readScript text bound text with
        | some (script, []) => continueWith (.output quoted script) rest
        | _ => none
    | '\'' :: rest =>
      if quoted then continueWith (.literal true ['\'']) rest
      else
        match Text.splitAtFirst? '\'' rest with
        | some (text, rest) => continueWith (.literal true text) rest
        | none => none
    | '"' :: rest =>
      match mode with
      | .quotes => some ([], rest)
      | .document => continueWith (.literal true ['"']) rest
      | _ =>
        match readParts source bound .quotes rest with
        | some (inner, rest) =>
          (readParts source bound mode rest).map fun read =>
            (.literal true [] :: inner ++ read.1, read.2)
        | none => none
    | character :: rest =>
      if mode = .braces ∧ character = '}' then some ([], rest)
      else if mode = .word ∧ endsWord character then some ([], character :: rest)
      else continueWith (.literal quoted [character]) rest

def readDollar (source : List Char) :
    (bound : Nat) → (isQuoted : Bool) → List Char → Option (Part × List Char)
  | 0, _, _ => none
  | bound + 1, isQuoted, characters =>
    match characters with
    | '(' :: '(' :: rest =>
      match upToArithmeticEnd? 0 rest with
      | some (inner, rest) =>
        match readParts source bound .document inner with
        | some (expression, _) => some (.arithmetic isQuoted expression, rest)
        | none => none
      | none => none
    | '(' :: rest =>
      match readScript source bound rest with
      | some (script, ')' :: rest) => some (.output isQuoted script, rest)
      | _ => none
    | '{' :: '#' :: '}' :: rest => some (.parameter isQuoted ['#'] .plain [], rest)
    | '{' :: '#' :: rest =>
      let name := rest.takeWhile continuesName
      match rest.drop name.length with
      | '}' :: rest => some (.parameter isQuoted name .length [], rest)
      | _ => none
    | '{' :: rest => readBraces source bound isQuoted rest
    | character :: rest =>
      if opensName character then
        let name := characters.takeWhile continuesName
        some (.parameter isQuoted name .plain [], characters.drop name.length)
      else if character.isDigit ∨ character ∈ ['@', '*', '#', '?', '$', '!', '-'] then
        some (.parameter isQuoted [character] .plain [], rest)
      else some (.literal isQuoted ['$'], characters)
    | [] => some (.literal isQuoted ['$'], [])

def readBraces (source : List Char) :
    (bound : Nat) → (isQuoted : Bool) → List Char → Option (Part × List Char)
  | 0, _, _ => none
  | bound + 1, isQuoted, characters =>
    let plainName := characters.takeWhile continuesName
    let name := if plainName = [] then characters.take 1 else plainName
    let finish (expansion : Expansion) (rest : List Char) : Option (Part × List Char) :=
      (readParts source bound .braces rest).map fun read =>
        (.parameter isQuoted name expansion read.1, read.2)
    match characters.drop name.length with
    | '}' :: rest => some (.parameter isQuoted name .plain [], rest)
    | ':' :: '-' :: rest => finish (.default true) rest
    | '-' :: rest => finish (.default false) rest
    | ':' :: '=' :: rest => finish (.assign true) rest
    | '=' :: rest => finish (.assign false) rest
    | ':' :: '+' :: rest => finish (.alternative true) rest
    | '+' :: rest => finish (.alternative false) rest
    | ':' :: '?' :: rest => finish (.demand true) rest
    | '?' :: rest => finish (.demand false) rest
    | '#' :: '#' :: rest => finish (.remove false true) rest
    | '#' :: rest => finish (.remove false false) rest
    | '%' :: '%' :: rest => finish (.remove true true) rest
    | '%' :: rest => finish (.remove true false) rest
    | _ => none

def readRedirection (source : List Char) :
    (bound : Nat) → List Char → Option (Option (Redirection × List Char))
  | 0, _ => none
  | bound + 1, characters =>
    let digits := characters.takeWhile Char.isDigit
    let number? := (String.ofList digits).toNat?
    let target (build : Word → Redirection) (rest : List Char) :
        Option (Option (Redirection × List Char)) :=
      match readParts source bound .word (skipBlanks rest) with
      | some ([], _) => none
      | some (word, rest) => some (some (build word, rest))
      | none => none
    let document (strips : Bool) (rest : List Char) :
        Option (Option (Redirection × List Char)) :=
      match readParts source bound .word (skipBlanks rest) with
      | some (word, rest) =>
        let (ending, isQuoted) := delimiterText word
        let (rest, text) := takeDocument strips ending rest
        if isQuoted then some (some (.here (number?.getD 0) [.literal true text], rest))
        else
          match readParts source bound .document text with
          | some (parts, _) => some (some (.here (number?.getD 0) parts, rest))
          | none => none
      | none => none
    match characters.drop digits.length with
    | '<' :: '<' :: '-' :: rest => document true rest
    | '<' :: '<' :: rest => document false rest
    | '<' :: '&' :: rest => target (.duplicate (number?.getD 0)) rest
    | '<' :: rest => target (.input (number?.getD 0)) rest
    | '>' :: '>' :: rest => target (.output (number?.getD 1) true) rest
    | '>' :: '&' :: rest => target (.duplicate (number?.getD 1)) rest
    | '>' :: '|' :: rest => target (.output (number?.getD 1) false) rest
    | '>' :: rest => target (.output (number?.getD 1) false) rest
    | _ => some none

def readRedirections (source : List Char) :
    (bound : Nat) → List Char → Option (List Redirection × List Char)
  | 0, _ => none
  | bound + 1, characters =>
    match readRedirection source bound (skipBlanks characters) with
    | none => none
    | some none => some ([], characters)
    | some (some (redirection, rest)) =>
      (readRedirections source bound rest).map fun read => (redirection :: read.1, read.2)

/-- Reads the assignments, words and redirections of a simple command, which has at least one. -/
def readSimple (source : List Char) (line : Nat) :
    (bound : Nat) → List (List Char × Word) → List Word → List Redirection → List Char →
      Option (Command × List Char)
  | 0, _, _, _, _ => none
  | bound + 1, assignments, words, redirections, characters =>
    let start := skipBlanks characters
    match readRedirection source bound start with
    | none => none
    | some (some (redirection, rest)) =>
      readSimple source line bound assignments words (redirections ++ [redirection]) rest
    | some none =>
      let name := start.takeWhile continuesName
      let isAssignment := words.isEmpty && (name.head?.map opensName).getD false &&
        (start.drop name.length).head? = some '='
      if isAssignment then
        match readParts source bound .word (start.drop (name.length + 1)) with
        | some (word, rest) =>
          readSimple source line bound (assignments ++ [(name, word)]) words redirections rest
        | none => none
      else if (start.head?.map endsWord).getD true then
        if assignments.isEmpty && words.isEmpty && redirections.isEmpty then none
        else some (.simple line assignments words redirections, start)
      else
        match readParts source bound .word start with
        | some (word, rest) =>
          readSimple source line bound assignments (words ++ [word]) redirections rest
        | none => none

def readChoice (source : List Char) :
    (bound : Nat) → List Char → Option ((Script × Script × Script) × List Char)
  | 0, _ => none
  | bound + 1, characters => do
    let (condition, rest) ← readScript source bound characters
    if leadingWord rest ≠ "then" then none
    else
      let (consequence, rest) ← readScript source bound (rest.drop 4)
      match leadingWord rest with
      | "fi" => some ((condition, consequence, []), rest.drop 2)
      | "else" =>
        let (alternative, rest) ← readScript source bound (rest.drop 4)
        if leadingWord rest = "fi" then some ((condition, consequence, alternative), rest.drop 2)
        else none
      | "elif" =>
        let ((inner, second, third), rest) ← readChoice source bound (rest.drop 4)
        some ((condition, consequence, [.choice inner second third []]), rest)
      | _ => none

def readPatterns (source : List Char) :
    (bound : Nat) → List Char → Option (List Word × List Char)
  | 0, _ => none
  | bound + 1, characters => do
    let (word, rest) ← readParts source bound .word (skipBlanks characters)
    match skipBlanks rest with
    | '|' :: rest =>
      let (words, rest) ← readPatterns source bound rest
      some (word :: words, rest)
    | ')' :: rest => some ([word], rest)
    | _ => none

def readArms (source : List Char) :
    (bound : Nat) → List Char → Option (List (List Word × Script) × List Char)
  | 0, _ => none
  | bound + 1, characters => do
    let start := skipLines characters
    if leadingWord start = "esac" then some ([], start.drop 4)
    else
      let start := match start with
        | '(' :: rest => rest
        | _ => start
      let (patterns, rest) ← readPatterns source bound start
      let (body, rest) ← readScript source bound rest
      match rest with
      | ';' :: ';' :: rest =>
        let (arms, rest) ← readArms source bound rest
        some ((patterns, body) :: arms, rest)
      | _ =>
        if leadingWord rest = "esac" then some ([(patterns, body)], rest.drop 4) else none

def readWords (source : List Char) : (bound : Nat) → List Char → Option (List Word × List Char)
  | 0, _ => none
  | bound + 1, characters =>
    match skipBlanks characters with
    | [] => some ([], [])
    | character :: rest =>
      if endsWord character then some ([], character :: rest)
      else do
        let (word, rest) ← readParts source bound .word (character :: rest)
        let (words, rest) ← readWords source bound rest
        some (word :: words, rest)

def readBody (source : List Char) : (bound : Nat) → List Char → Option (Script × List Char)
  | 0, _ => none
  | bound + 1, characters => do
    let start := skipSeparatorsWithin (characters.length + 1) characters
    if leadingWord start ≠ "do" then none
    else
      let (body, rest) ← readScript source bound (start.drop 2)
      if leadingWord rest = "done" then some (body, rest.drop 4) else none

def readCommand (source : List Char) : (bound : Nat) → List Char → Option (Command × List Char)
  | 0, _ => none
  | bound + 1, characters => do
    let start := skipLines characters
    let finish (build : List Redirection → Command) (rest : List Char) :
        Option (Command × List Char) :=
      (readRedirections source bound rest).map fun read => (build read.1, read.2)
    match start with
    | '(' :: rest =>
      let (body, rest) ← readScript source bound rest
      match rest with
      | ')' :: rest => finish (.subshell body) rest
      | _ => none
    | _ =>
      match leadingWord start with
      | "\x7b" =>
        let (body, rest) ← readScript source bound (start.drop 1)
        match rest with
        | '}' :: rest => finish (.group body) rest
        | _ => none
      | "if" =>
        let ((condition, consequence, alternative), rest) ← readChoice source bound (start.drop 2)
        finish (.choice condition consequence alternative) rest
      | "while" =>
        let (condition, rest) ← readScript source bound (start.drop 5)
        let (body, rest) ← readBody source bound rest
        finish (.loop false condition body) rest
      | "until" =>
        let (condition, rest) ← readScript source bound (start.drop 5)
        let (body, rest) ← readBody source bound rest
        finish (.loop true condition body) rest
      | "for" =>
        let start := skipBlanks (start.drop 3)
        let name := start.takeWhile continuesName
        let rest := skipLines (start.drop name.length)
        if leadingWord rest = "in" then
          let (words, rest) ← readWords source bound (rest.drop 2)
          let (body, rest) ← readBody source bound rest
          finish (.each name (some words) body) rest
        else
          let (body, rest) ← readBody source bound rest
          finish (.each name none body) rest
      | "case" =>
        let (word, rest) ← readParts source bound .word (skipBlanks (start.drop 4))
        let rest := skipLines rest
        if leadingWord rest ≠ "in" then none
        else
          let (arms, rest) ← readArms source bound (rest.drop 2)
          finish (.select word arms) rest
      | _ =>
        let name := start.takeWhile continuesName
        match skipBlanks (start.drop name.length) with
        | '(' :: after =>
          match skipBlanks after with
          | ')' :: rest =>
            if name = [] then none
            else
              let (body, rest) ← readCommand source bound rest
              some (.define name body, rest)
          | _ => none
        | _ => readSimple source (lineOf source start) bound [] [] [] start

def readPipeline (source : List Char) :
    (bound : Nat) → List Char → Option (List Command × List Char)
  | 0, _ => none
  | bound + 1, characters => do
    let (command, rest) ← readCommand source bound characters
    match skipBlanks rest with
    | '|' :: '|' :: rest => some ([command], '|' :: '|' :: rest)
    | '|' :: rest =>
      let (commands, rest) ← readPipeline source bound rest
      some (command :: commands, rest)
    | rest => some ([command], rest)

def readNegatable (source : List Char) : (bound : Nat) → List Char → Option (Command × List Char)
  | 0, _ => none
  | bound + 1, characters => do
    let start := skipLines characters
    if leadingWord start = "!" then
      let (commands, rest) ← readPipeline source bound (start.drop 1)
      some (.pipeline true commands, rest)
    else
      let (commands, rest) ← readPipeline source bound start
      match commands with
      | [only] => some (only, rest)
      | _ => some (.pipeline false commands, rest)

def readDependents (source : List Char) :
    (bound : Nat) → Command → List Char → Option (Command × List Char)
  | 0, _, _ => none
  | bound + 1, first, characters =>
    match skipBlanks characters with
    | '&' :: '&' :: rest => do
      let (second, rest) ← readNegatable source bound rest
      readDependents source bound (.both first second) rest
    | '|' :: '|' :: rest => do
      let (second, rest) ← readNegatable source bound rest
      readDependents source bound (.either first second) rest
    | rest => some (first, rest)

def readScript (source : List Char) : (bound : Nat) → List Char → Option (Script × List Char)
  | 0, _ => none
  | bound + 1, characters =>
    let start := skipSeparatorsWithin (characters.length + 1) characters
    match start with
    | [] => some ([], [])
    | ')' :: _ => some ([], start)
    | ';' :: ';' :: _ => some ([], start)
    | _ =>
      if leadingWord start ∈ closingWords then some ([], start)
      else do
        let (first, rest) ← readNegatable source bound start
        let (command, rest) ← readDependents source bound first rest
        match rest with
        | '&' :: rest =>
          let (commands, rest) ← readScript source bound rest
          some (.background command :: commands, rest)
        | _ =>
          let (commands, rest) ← readScript source bound rest
          some (command :: commands, rest)

end

inductive SyntaxFault where
  | unexpected (word : List Char) (line : Nat)
  | unterminated (line : Nat)
  | unexpectedEnd (line : Nat)
deriving DecidableEq, Repr

def SyntaxFault.line : SyntaxFault → Nat
  | .unexpected _ line => line
  | .unterminated line => line
  | .unexpectedEnd line => line

def SyntaxFault.message : SyntaxFault → String
  | .unexpected word _ => s!"Syntax error: \"{String.ofList word}\" unexpected"
  | .unterminated _ => "Syntax error: Unterminated quoted string"
  | .unexpectedEnd _ => "Syntax error: end of file unexpected"

def frontWord (text : List Char) : List Char :=
  let word := text.takeWhile fun character => !endsWord character
  if word ≠ [] then word
  else if [';', ';'].isPrefixOf text then [';', ';'] else text.take 1

/-- Whether quotes are open at the end of a text; the mark is the quote that is open. -/
def leavesQuotes : (quote : Option Char) → List Char → Bool
  | quote, [] => quote.isSome
  | some '\'', character :: rest =>
    leavesQuotes (if character = '\'' then none else some '\'') rest
  | quote, '\\' :: rest =>
    match rest with
    | [] => quote.isSome
    | _ :: rest => leavesQuotes quote rest
  | some mark, character :: rest =>
    leavesQuotes (if character = mark then none else some mark) rest
  | none, character :: rest =>
    leavesQuotes (if character = '"' ∨ character = '\'' then some character else none) rest

def read (text : List Char) : Except SyntaxFault Script :=
  let last := lineOf text []
  match readScript text (20 * text.length + 20) text with
  | some (script, []) => .ok script
  | some (_, rest) => .error (.unexpected (frontWord rest) (lineOf text rest))
  | none => .error (if leavesQuotes none text then .unterminated last else .unexpectedEnd last)

end StylesheetRunner.Shell
