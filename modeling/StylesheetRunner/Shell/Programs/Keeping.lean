import StylesheetRunner.Shell.Programs.Filters

/-!
Programs that list, make, copy and remove files, and programs that take paths apart.
-/

namespace StylesheetRunner.Shell.Programs

open Session (inMessage byteText)

/-- Lists files, and the names in directories: first what is missing, then the files, then the
directories. -/
def ls (arguments : List (List Char)) (session : Session) : Session :=
  let (options, words) := splitOptions arguments
  let words := if words = [] then [['.']] else words
  let words := words.mergeSort fun left right => !decide (right < left)
  let node (word : List Char) : Option Node := session.files.find? (session.resolve word)
  let missing := words.filter fun word => (node word).isNone
  let directories := words.filter fun word => node word = some .directory
  let files := words.filter fun word => (node word).isSome && node word ≠ some .directory
  let complained := missing.foldl (fun session word =>
    let reason := Session.refusal (session.files.absence (session.resolve word))
    (session.complain s!"ls: cannot access '{inMessage word}': {reason}").finish 2)
    (session.finish 0)
  let listed := complained.print (ofLines files true)
  let listing (word : List Char) : List Char :=
    let names := (session.files.children (session.resolve word)).map byteText
    let names := if 'a' ∈ options then names else names.filter fun name => name.head? ≠ some '.'
    (if 1 < words.length then word ++ [':', '\n'] else []) ++ ofLines names true
  let border : List Char := if files = [] ∨ directories = [] then [] else ['\n']
  listed.print (border ++ Text.join ['\n'] (directories.map listing))

def rm (arguments : List (List Char)) (session : Session) : Session :=
  let (options, words) := splitOptions arguments
  let isForced := 'f' ∈ options
  words.foldl (fun session word =>
    let path := session.resolve word
    let refuse (reason : String) : Session :=
      (session.complain s!"rm: cannot remove '{inMessage word}': {reason}").finish 1
    match session.files.find? path with
    | some (.file _) => { session with files := session.files.remove path }
    | some .sealed => refuse "Device or resource busy"
    | some .directory =>
      if 'r' ∈ options ∨ 'R' ∈ options then { session with files := session.files.remove path }
      else refuse "Is a directory"
    | none => if isForced then session else refuse "No such file or directory") (session.finish 0)

def rmdir (arguments : List (List Char)) (session : Session) : Session :=
  arguments.foldl (fun session word =>
    let path := session.resolve word
    let refuse (reason : String) : Session :=
      (session.complain s!"rmdir: failed to remove '{inMessage word}': {reason}").finish 1
    if !session.files.holds path then refuse "No such file or directory"
    else if !session.files.isDirectory path then refuse "Not a directory"
    else if session.files.children path ≠ [] then refuse "Directory not empty"
    else { session with files := session.files.remove path }) (session.finish 0)

def touch (arguments : List (List Char)) (session : Session) : Session :=
  let (_, words) := splitOptions arguments
  words.foldl (fun session word =>
    let path := session.resolve word
    if session.files.holds path then session
    else
      match session.files.write path [] with
      | .ok files => { session with files := files }
      | .error cause =>
        let reason := Session.refusal cause
      (session.complain s!"touch: cannot touch '{inMessage word}': {reason}").finish 1)
    (session.finish 0)

def mkdir (arguments : List (List Char)) (session : Session) : Session :=
  let (options, words) := splitOptions arguments
  words.foldl (fun session word =>
    let path := session.resolve word
    let made :=
      if 'p' ∈ options then session.files.makeDirectories path
      else session.files.makeDirectory path
    match made with
    | .ok files => { session with files := files }
    | .error cause =>
      (session.complain
        s!"mkdir: cannot create directory '{inMessage word}': {Session.refusal cause}").finish 1)
    (session.finish 0)

/-- The place where a copy goes: inside a directory under the last name, or at the place itself. -/
def copyPlace (session : Session) (source target : List Char) : Path :=
  let place := session.resolve target
  if session.files.isDirectory place then place ++ (session.resolve source).getLast?.toList
  else place

def copy (program : String) (isMove : Bool) (arguments : List (List Char)) (session : Session) :
    Session :=
  let (_, words) := splitOptions arguments
  match words.getLast? with
  | none => session.finish 1
  | some target =>
    words.dropLast.foldl (fun session source =>
      match contents program source session with
      | (none, session) => session
      | (some text, session) =>
        match session.files.write (copyPlace session source target) (Session.toBytes text) with
        | .ok files =>
          let files := if isMove then files.remove (session.resolve source) else files
          { session with files := files }
        | .error cause =>
          let reason := s!"'{inMessage target}': {Session.refusal cause}"
          (session.complain s!"{program}: cannot create regular file {reason}").finish 1)
      (session.finish 0)

def byteCount (word : List Char) : Nat :=
  let digits := word.takeWhile Char.isDigit
  let unit :=
    match word.drop digits.length with
    | 'k' :: _ => 1024
    | 'K' :: _ => 1024
    | 'M' :: _ => 1048576
    | _ => 1
  (numberOf digits).toNat * unit

def dd (arguments : List (List Char)) (session : Session) : Session :=
  let operand? (name : String) : Option (List Char) :=
    arguments.findSome? fun word => Text.withoutOpening? (name ++ "=").toList word
  let size := max 1 (((operand? "bs").map byteCount).getD 512)
  let limit? := (operand? "count").map fun count => byteCount count * size
  let source := (operand? "if").getD ['-']
  let isZero : Bool := session.resolve source = ["dev", "zero"]
  let (text?, session) :=
    match limit?, isZero with
    | some limit, true => (some (List.replicate limit '\x00'), session.finish 0)
    | _, _ => contents "dd" source (session.finish 0)
  match text? with
  | none => session
  | some text =>
    let text := text.take (limit?.getD text.length)
    let written :=
      match operand? "of" with
      | none => session.print text
      | some target =>
        match session.files.write (session.resolve target) (Session.toBytes text) with
        | .ok files => { session with files := files }
        | .error cause =>
          (session.complain
            s!"dd: failed to open '{inMessage target}': {Session.refusal cause}").finish 1
    if operand? "status" = some "none".toList ∨ written.status ≠ 0 then written
    else
      let full : Nat := text.length / size
      let partly : Nat := if text.length % size = 0 then 0 else 1
      let records := s!"{full}+{partly} records"
      let told := (written.complain s!"{records} in").complain s!"{records} out"
      told.complain s!"{text.length} bytes copied, 0 s, 0 B/s"

def dirname (arguments : List (List Char)) (session : Session) : Session :=
  let directory (word : List Char) : List Char :=
    let body := Path.withoutFinalSlashes word
    if body = [] then (if word = [] then ['.'] else ['/'])
    else if '/' ∉ body then ['.']
    else
      let above := (body.reverse.dropWhile (· ≠ '/')).reverse
      let parent := Path.withoutFinalSlashes above
      if parent = [] then ['/'] else parent
  (arguments.foldl (fun session word => session.print (directory word ++ ['\n'])) session).finish 0

def basename (arguments : List (List Char)) (session : Session) : Session :=
  match arguments with
  | [] => session.finish 1
  | word :: ending =>
    let body := Path.withoutFinalSlashes word
    let name := if body = [] then word.take 1 else (body.reverse.takeWhile (· ≠ '/')).reverse
    let ending := ending.head?.getD []
    let name :=
      if ending ≠ name ∧ ending.isSuffixOf name then name.take (name.length - ending.length)
      else name
    (session.print (name ++ ['\n'])).finish 0

end StylesheetRunner.Shell.Programs
