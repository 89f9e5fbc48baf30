import StylesheetRunner.Shell.LinePattern
import StylesheetRunner.Shell.Programs.Printing
import StylesheetRunner.Text.Blank

/-!
Programs that read files or their input and print some of it.
-/

namespace StylesheetRunner.Shell.Programs

open Session (inMessage byteText)

/-- The options among arguments and the plain words, an option being a dash and letters. -/
def splitOptions (arguments : List (List Char)) : List Char × List (List Char) :=
  let options := arguments.takeWhile fun word =>
    word.head? = some '-' && 1 < word.length && word ≠ ['-', '-']
  let rest := arguments.drop options.length
  let rest := if rest.head? = some ['-', '-'] then rest.drop 1 else rest
  (options.flatMap fun option => option.drop 1, rest)

def cannotRead (program word reason : String) : String :=
  if program ∈ ["head", "tail"] then
    s!"{program}: cannot open '{word}' for reading: {reason}"
  else if program ∈ ["cp", "mv"] then s!"{program}: cannot stat '{word}': {reason}"
  else if program = "sort" then s!"sort: cannot read: {word}: {reason}"
  else if program = "sed" then s!"sed: can't read {word}: {reason}"
  else s!"{program}: {word}: {reason}"

def cannotReadStatus (program : String) : Nat :=
  if program ∈ ["sort", "sed", "grep"] then 2 else 1

/-- The contents of a file that a program was told to read; a dash means the standard input. -/
def contents (program : String) (word : List Char) (session : Session) :
    Option (List Char) × Session :=
  if word = ['-'] then
    let (text, session) := session.readAll 0
    (some text, session)
  else
    let path := session.resolve word
    if path = Session.nullPath then (some [], session)
    else if path = ["dev", "zero"] then (none, session.leaveBy .endless)
    else
      match session.files.read path with
      | .ok bytes => (some (Session.ofBytes bytes), session)
      | .error cause =>
        let complaint := cannotRead program (inMessage word) (Session.refusal cause)
        (none, (session.complain complaint).finish (cannotReadStatus program))

/-- Applies a program to the contents of files, or of the standard input where none is named. -/
def onContents (program : String) (words : List (List Char)) (session : Session)
    (use : List Char → Session → Session) : Session :=
  let words := if words = [] then [['-']] else words
  words.foldl (fun session word =>
    match contents program word session with
    | (some text, session) => use text session
    | (none, session) => session) (session.finish 0)

def cat (arguments : List (List Char)) (session : Session) : Session :=
  onContents "cat" (splitOptions arguments).2 session fun text session => session.print text

def countOption (letter : Char) (preset : Nat) (arguments : List (List Char)) :
    Nat × List (List Char) :=
  match arguments with
  | ('-' :: first :: digits) :: rest =>
    if first = letter then
      if digits = [] then ((numberOf (rest.head?.getD [])).toNat, rest.drop 1)
      else ((numberOf digits).toNat, rest)
    else if first.isDigit then ((numberOf (first :: digits)).toNat, rest)
    else (preset, arguments)
  | _ => (preset, arguments)

def head (arguments : List (List Char)) (session : Session) : Session :=
  match arguments with
  | ('-' :: 'c' :: _) :: _ =>
    let (count, words) := countOption 'c' 0 arguments
    if words = ["/dev/zero".toList] then
      (session.print (List.replicate count '\x00')).finish 0
    else onContents "head" words session fun text session => session.print (text.take count)
  | _ =>
    let (count, words) := countOption 'n' 10 arguments
    onContents "head" words session fun text session =>
      let (lines, hasEnd) := linesOf text
      session.print (ofLines (lines.take count) (hasEnd || count < lines.length))

def tail (arguments : List (List Char)) (session : Session) : Session :=
  match arguments with
  | ('-' :: 'c' :: _) :: _ =>
    let (count, words) := countOption 'c' 0 arguments
    onContents "tail" words session fun text session =>
      session.print (text.drop (text.length - count))
  | _ =>
    let (count, words) := countOption 'n' 10 arguments
    onContents "tail" words session fun text session =>
      let (lines, hasEnd) := linesOf text
      session.print (ofLines (lines.drop (lines.length - count)) hasEnd)

def wc (arguments : List (List Char)) (session : Session) : Session :=
  let (options, words) := splitOptions arguments
  let count (text : List Char) : List Nat :=
    let lines := (text.filter (· = '\n')).length
    let bytes := text.length
    let words := (text.foldl (fun (count, inside) character =>
      if Text.isBlank character then (count, false)
      else (if inside then count else count + 1, true)) (0, false)).1
    if options = ['l'] then [lines]
    else if options = ['c'] ∨ options = ['m'] then [bytes]
    else if options = ['w'] then [words]
    else [lines, words, bytes]
  let show' (word text : List Char) (session : Session) : Session :=
    let name := if word = ['-'] then [] else [word]
    session.print (Text.join [' '] ((count text).map Text.naturalText ++ name) ++ ['\n'])
  (if words = [] then [['-']] else words).foldl (fun session word =>
    match contents "wc" word session with
    | (some text, session) => show' word text session
    | (none, session) => session) (session.finish 0)

inductive Address where
  | every
  | number (line : Nat)
  | last
  | matching (pattern : Edit.LinePattern)
deriving Repr

inductive EditAction where
  | substitute (pattern : Edit.LinePattern) (text : List Char) (all prints : Bool)
  | delete
  | print
  | quit
deriving Repr

structure EditCommand where
  address : Address
  action : EditAction
deriving Repr

def Address.holds (address : Address) (number : Nat) (isLast : Bool) (line : List Char) : Bool :=
  match address with
  | .every => true
  | .number expected => number = expected
  | .last => isLast
  | .matching pattern => Edit.finds pattern line

def splitEscaped (separator : Char) : (held : List Char) → List Char → List (List Char)
  | held, [] => [held.reverse]
  | held, ['\\'] => [('\\' :: held).reverse]
  | held, '\\' :: character :: rest =>
    if character = separator then splitEscaped separator (character :: held) rest
    else splitEscaped separator (character :: '\\' :: held) rest
  | held, character :: rest =>
    if character = separator then held.reverse :: splitEscaped separator [] rest
    else splitEscaped separator (character :: held) rest

def EditAction.read? (text : List Char) : Option EditAction :=
  match text with
  | ['d'] => some .delete
  | ['p'] => some .print
  | ['q'] => some .quit
  | 's' :: separator :: rest =>
    match splitEscaped separator [] rest with
    | [pattern, replacement, flags] =>
      some (.substitute (.read pattern) replacement ('g' ∈ flags) ('p' ∈ flags))
    | _ => none
  | _ => none

def EditCommand.read? (text : List Char) : Option EditCommand :=
  let digits := text.takeWhile Char.isDigit
  if digits ≠ [] then
    let address := Address.number (numberOf digits).toNat
    (EditAction.read? (text.drop digits.length)).map (EditCommand.mk address)
  else
    match text with
    | '$' :: rest => (EditAction.read? rest).map (EditCommand.mk .last)
    | '/' :: rest =>
      match splitEscaped '/' [] rest with
      | pattern :: first :: others =>
        let action := Text.join ['/'] (first :: others)
        (EditAction.read? action).map (EditCommand.mk (.matching (.read pattern)))
      | _ => none
    | _ => (EditAction.read? text).map (EditCommand.mk .every)

/-- A line under the hands of editing commands: what is printed already, the line if it is kept, and
whether no more lines follow. -/
structure EditedLine where
  printed : List (List Char)
  kept : Option (List Char)
  isFinal : Bool

def EditCommand.apply (command : EditCommand) (number : Nat) (isLast : Bool) (held : EditedLine) :
    EditedLine :=
  match held.kept with
  | none => held
  | some line =>
    if held.isFinal ∨ !command.address.holds number isLast line then held
    else
      match command.action with
      | .delete => { held with kept := none }
      | .print => { held with printed := held.printed ++ [line] }
      | .quit => { held with isFinal := true }
      | .substitute pattern text all prints =>
        let edited := Edit.substitute pattern text all line
        let more := if prints ∧ Edit.finds pattern line then [edited] else []
        { held with printed := held.printed ++ more, kept := some edited }

/-- The lines that editing commands make of lines, the first of which has the given number, and
whether each comes from the last line. -/
def editLines (isQuiet : Bool) (commands : List EditCommand) :
    (number : Nat) → List (List Char) → List (List Char × Bool)
  | _, [] => []
  | number, line :: rest =>
    let start : EditedLine := ⟨[], some line, false⟩
    let edited := commands.foldl (fun held command =>
      command.apply number rest.isEmpty held) start
    let made := edited.printed ++ if isQuiet then [] else edited.kept.toList
    (made.map fun line => (line, rest.isEmpty)) ++
      if edited.isFinal then [] else editLines isQuiet commands (number + 1) rest

/-- The editing commands among arguments, whether lines are kept back, and the words left. -/
def editArguments : (isQuiet : Bool) → (held : List (List Char)) → List (List Char) →
    Bool × List (List Char) × List (List Char)
  | isQuiet, held, ['-', 'n'] :: rest =>
    let _ := isQuiet
    editArguments true held rest
  | isQuiet, held, ['-', 'e'] :: script :: rest => editArguments isQuiet (held ++ [script]) rest
  | isQuiet, held, rest =>
    if held = [] then (isQuiet, rest.take 1, rest.drop 1) else (isQuiet, held, rest)

def sed (arguments : List (List Char)) (session : Session) : Session :=
  let (isQuiet, scripts, words) := editArguments false [] arguments
  match scripts.mapM EditCommand.read? with
  | none => (session.complain "sed: -e expression #1, char 1: unknown command").finish 1
  | some commands =>
    onContents "sed" words session fun text session =>
      let (lines, hasEnd) := linesOf text
      let edited := editLines isQuiet commands 1 lines
      let endsAtLast := (edited.getLast?.map Prod.snd).getD false
      session.print (ofLines (edited.map Prod.fst) (hasEnd || !endsAtLast))

def grep (arguments : List (List Char)) (session : Session) : Session :=
  let (options, words) := splitOptions arguments
  match words with
  | [] => session.finish 2
  | pattern :: words =>
    let pattern := Edit.LinePattern.read pattern
    let chosen (text : List Char) :=
      (linesOf text).1.filter fun line => Edit.finds pattern line != ('v' ∈ options)
    let words := if words = [] then [['-']] else words
    let (found, session) := words.foldl (fun (found, session) word =>
      match contents "grep" word session with
      | (some text, session) => (found ++ chosen text, session)
      | (none, session) => (found, session)) (([] : List (List Char)), session.finish 0)
    let session :=
      if 'q' ∈ options then session
      else if 'c' ∈ options then session.print (Text.naturalText found.length ++ ['\n'])
      else session.print (ofLines found true)
    session.finish (if session.status = 2 then 2 else if found = [] then 1 else 0)

def tr (arguments : List (List Char)) (session : Session) : Session :=
  let (text, session) := session.readAll 0
  match arguments with
  | [['-', 'd'], unwanted] =>
    let unwanted := spread (unescape false unwanted).1
    (session.print (text.filter fun character => character ∉ unwanted)).finish 0
  | [source, target] =>
    let source := spread (unescape false source).1
    let target := spread (unescape false target).1
    let replace (character : Char) : Char :=
      match source.idxOf? character with
      | some place => ((target[place]?).orElse fun _ => target.getLast?).getD character
      | none => character
    (session.print (text.map replace)).finish 0
  | _ => session.finish 1
where
  spread : List Char → List Char
    | low :: '-' :: high :: rest =>
      (List.range (high.toNat + 1 - low.toNat)).map (fun step => Char.ofNat (low.toNat + step)) ++
        spread rest
    | character :: rest => character :: spread rest
    | [] => []

def sort (arguments : List (List Char)) (session : Session) : Session :=
  let (options, words) := splitOptions arguments
  let words := if words = [] then [['-']] else words
  let (lines, session) := words.foldl (fun (lines, session) word =>
    match contents "sort" word session with
    | (some text, session) => (lines ++ (linesOf text).1, session)
    | (none, session) => (lines, session)) (([] : List (List Char)), session.finish 0)
  let sorted := lines.mergeSort fun left right => !decide (right < left)
  let sorted := if 'r' ∈ options then sorted.reverse else sorted
  let sorted := if 'u' ∈ options then sorted.eraseDups else sorted
  session.print (ofLines sorted true)

def cut (arguments : List (List Char)) (session : Session) : Session :=
  let valueOf (letter : Char) : Option (List Char) :=
    arguments.findSome? fun word =>
      match word with
      | '-' :: first :: value => if first = letter then some value else none
      | _ => none
  let words := arguments.filter fun word => word.head? ≠ some '-' || word = ['-']
  let separator := ((valueOf 'd').bind List.head?).getD '\t'
  let range (text : List Char) : Nat × Option Nat :=
    match Text.splitAtFirst? '-' text with
    | some (low, high) =>
      (max 1 (numberOf low).toNat, if high = [] then none else some (numberOf high).toNat)
    | none => ((numberOf text).toNat, some (numberOf text).toNat)
  let choose {α : Type} (bounds : Nat × Option Nat) (items : List α) : List α :=
    (match bounds.2 with
    | some high => items.take high
    | none => items).drop (bounds.1 - 1)
  let edit (line : List Char) : List Char :=
    match valueOf 'f', (valueOf 'c').orElse fun _ => valueOf 'b' with
    | some fields, _ =>
      if separator ∈ line then
        Text.join [separator] (choose (range fields) (splitEscaped separator [] line))
      else line
    | none, some places => choose (range places) line
    | none, none => line
  onContents "cut" words session fun text session =>
    session.print (ofLines ((linesOf text).1.map edit) true)

def tee (arguments : List (List Char)) (session : Session) : Session :=
  let (options, words) := splitOptions arguments
  let (text, session) := session.readAll 0
  words.foldl (fun session word =>
    let path := session.resolve word
    let held := if 'a' ∈ options then (session.files.read path).toOption.getD [] else []
    match session.files.write path (held ++ Session.toBytes text) with
    | .ok files => { session with files := files }
    | .error cause =>
      (session.complain s!"tee: {inMessage word}: {Session.refusal cause}").finish 1)
    ((session.print text).finish 0)

end StylesheetRunner.Shell.Programs
