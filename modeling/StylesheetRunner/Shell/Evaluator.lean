import StylesheetRunner.Shell.Builtins
import StylesheetRunner.Shell.Reader

/-!
Running scripts. Every function takes a number of steps that bounds its work; a script that uses
them up counts as one that runs without an end.
-/

namespace StylesheetRunner.Shell

open Session (inMessage byteText)

def isAllArguments : Word → Bool
  | [.literal true [], .parameter true ['@'] .plain []] => true
  | _ => false

def withHome (session : Session) (word : Word) : Word :=
  match word with
  | .literal false ['~'] :: rest =>
    let isAlone :=
      match rest with
      | [] => true
      | .literal false ['/'] :: _ => true
      | _ => false
    match isAlone, session.held? ['H', 'O', 'M', 'E'] with
    | true, some home => .literal true home :: rest
    | _, _ => word
  | _ => word

def numberIn (session : Session) (name : List Char) : Int :=
  ((numberInFront ((session.parameter? name).getD [])).map Prod.fst).getD 0

def withoutFinalLineEnds (text : List Char) : List Char :=
  (text.reverse.dropWhile (· = '\n')).reverse

def capturing (session : Session) : Nat × Session :=
  let index := session.captures.length
  (index, { session with captures := session.captures ++ [[]] }.setStream 1 (.capture index))

def captured (session : Session) (index : Nat) : List Char :=
  ((session.captures[index]?).getD []).reverse.flatten

def checked (isTested : Bool) (session : Session) : Session :=
  if session.proceeds ∧ session.status ≠ 0 ∧ !isTested ∧ session.hasOption 'e' then
    session.leaveBy .exit
  else session

inductive LoopStep where
  | again
  | over (control : Control)

def loopStep (control : Control) : LoopStep :=
  match control with
  | .proceed => .again
  | .repeatLoop count => if count ≤ 1 then .again else .over (.repeatLoop (count - 1))
  | .leaveLoops count => .over (if count ≤ 1 then .proceed else .leaveLoops (count - 1))
  | other => .over other

def openOutput (stream : Nat) (appends : Bool) (text : List Char) (session : Session) :
    Bool × Session :=
  let path := session.resolve text
  match String.ofList text with
  | "/dev/null" => (true, session.setStream stream .nothing)
  | "/dev/stdout" => (true, session.setStream stream (session.stream 1))
  | "/dev/stderr" => (true, session.setStream stream (session.stream 2))
  | _ =>
    match if appends then session.files.touch path else session.files.write path [] with
    | .ok files => (true, { session with files := files }.setStream stream (.file path))
    | .error cause =>
      let reason := Session.redirectionRefusal true cause
      (false, session.fault s!"cannot create {inMessage text}: {reason}")

def openInput (stream : Nat) (text : List Char) (session : Session) : Bool × Session :=
  match String.ofList text with
  | "/dev/null" => (true, session.setStream stream .nothing)
  | "/dev/stdin" => (true, session.setStream stream (session.stream 0))
  | _ =>
    match session.files.find? (session.resolve text) with
    | some (.file bytes) =>
      let (index, session) := session.addInput (Session.ofBytes bytes)
      (true, session.setStream stream (.input index))
    | some _ =>
      let (index, session) := session.addInput []
      (true, session.setStream stream (.input index))
    | none =>
      let reason :=
        Session.redirectionRefusal false (session.files.absence (session.resolve text))
      (false, session.fault s!"cannot open {inMessage text}: {reason}")

def duplicateStream (stream : Nat) (source : List Char) (session : Session) : Bool × Session :=
  if source = ['-'] then (true, session.setStream stream .closed)
  else
    match Builtins.count? source with
    | none => (false, session.fault "Bad fd number")
    | some number =>
      match session.stream number with
      | .closed => (false, session.fault s!"{inMessage source}: Bad file descriptor")
      | target => (true, session.setStream stream target)

def childSession (name : List Char) (arguments : List (List Char)) (session : Session) : Session :=
  { session with
    name := name
    arguments := arguments
    functions := []
    traps := session.traps.filter fun entry => entry.2 = []
    values := session.values.filter fun entry => session.exported.contains entry.1
    loopDepth := 0 }

inductive ScriptSource where
  | text (script name : List Char) (arguments : List (List Char))
  | file (path : List Char) (arguments : List (List Char))
  | standardInput (arguments : List (List Char))
  | missingText

def scriptSource (program : List Char) : (takesText : Bool) → (options : List Char) →
    List (List Char) → ScriptSource × List Char
  | takesText, options, ('-' :: letter :: letters) :: rest =>
    if letter = '-' then sourceOf takesText options rest
    else
      let given := letter :: letters
      scriptSource program (takesText || 'c' ∈ given)
        (options ++ given.filter fun option => option ∈ ['e', 'u', 'f', 'x']) rest
  | takesText, options, rest => sourceOf takesText options rest
where
  sourceOf (takesText : Bool) (options : List Char) (words : List (List Char)) :
      ScriptSource × List Char :=
    match takesText, words with
    | true, [] => (.missingText, options)
    | true, [script] => (.text script program [], options)
    | true, script :: name :: arguments => (.text script name arguments, options)
    | false, [] => (.standardInput [], options)
    | false, path :: arguments => (.file path arguments, options)

mutual

def expandPart : (bound : Nat) → Part → Session → List Piece × Session
  | 0, _, session => ([], session.leaveBy .endless)
  | bound + 1, part, session =>
    match part with
    | .literal isQuoted text =>
      ([.whole (text.map fun character => ⟨character, isQuoted⟩)], session)
    | .output isQuoted script =>
      let (text, session) := substitute bound script session
      ([Piece.ofValue isQuoted text], session)
    | .arithmetic isQuoted expression =>
      let (text, session) := expandText bound expression session
      match Arithmetic.value (numberIn session) text with
      | .ok value => ([Piece.ofValue isQuoted (Text.integerText value)], session)
      | .error fault => ([], session.abort (fault.message (inMessage text)))
    | .parameter isQuoted name expansion word =>
      match name, expansion with
      | ['@'], .plain =>
        let pieces := session.arguments.map fun text => [Piece.ofValue isQuoted text]
        ((pieces.intersperse [.border]).flatten, session)
      | ['*'], .plain =>
        if isQuoted then
          let separator := session.separators.take 1
          ([Piece.ofValue true (Text.join separator session.arguments)], session)
        else
          let pieces := session.arguments.map fun text => [Piece.ofValue false text]
          ((pieces.intersperse [.border]).flatten, session)
      | _, _ => expandParameter bound isQuoted name expansion word session

def expandParameter :
    (bound : Nat) → (isQuoted : Bool) → (name : List Char) → Expansion → Word → Session →
      List Piece × Session
  | 0, _, _, _, _, session => ([], session.leaveBy .endless)
  | bound + 1, isQuoted, name, expansion, word, session =>
    let value? := session.parameter? name
    let text := value?.getD []
    let has (orEmpty : Bool) : Bool := value?.isSome && !(orEmpty && text.isEmpty)
    let give (text : List Char) (session : Session) : List Piece × Session :=
      ([Piece.ofValue isQuoted text], session)
    let replace (session : Session) : List Piece × Session :=
      let (pieces, session) := expandParts bound word session
      (pieces.map fun piece => if isQuoted then piece.quote else piece.loosen, session)
    let refuseUnset : List Piece × Session :=
      if value?.isNone && session.hasOption 'u' then
        ([], session.abort s!"{inMessage name}: parameter not set")
      else give text session
    match expansion with
    | .plain => refuseUnset
    | .length => give (Text.naturalText text.length) session
    | .default orEmpty => if has orEmpty then give text session else replace session
    | .alternative orEmpty => if has orEmpty then replace session else ([], session)
    | .assign orEmpty =>
      if has orEmpty then give text session
      else
        let (value, session) := expandText bound word session
        give value (session.assign name value)
    | .demand orEmpty =>
      if has orEmpty then give text session
      else
        let (reason, session) := expandText bound word session
        let unset := if orEmpty then "parameter not set or null" else "parameter not set"
        let reason := if reason = [] then byteText unset else reason
        ([], session.abort s!"{inMessage name}: {inMessage reason}")
    | .remove atEnd longest =>
      let (pieces, session) := expandParts bound word session
      let pattern := pieces.flatMap Piece.glyphs
      let kept :=
        if atEnd then Pattern.removeBack longest pattern text
        else Pattern.removeFront longest pattern text
      give kept session

def expandParts : (bound : Nat) → Word → Session → List Piece × Session
  | 0, _, session => ([], session.leaveBy .endless)
  | _ + 1, [], session => ([], session)
  | bound + 1, part :: rest, session =>
    let (first, session) := expandPart bound part session
    let (others, session) := expandParts bound rest session
    (first ++ others, session)

def expandText : (bound : Nat) → Word → Session → List Char × Session
  | 0, _, session => ([], session.leaveBy .endless)
  | bound + 1, word, session =>
    let (pieces, session) := expandParts bound (withHome session word) session
    (Glyph.text (pieces.flatMap Piece.glyphs), session)

def expandWords : (bound : Nat) → List Word → Session → List (List Char) × Session
  | 0, _, session => ([], session.leaveBy .endless)
  | _ + 1, [], session => ([], session)
  | bound + 1, word :: rest, session =>
    let (pieces, session) := expandParts bound (withHome session word) session
    let fields :=
      if isAllArguments word ∧ session.arguments = [] then []
      else (fieldsOf session.separators pieces).flatMap (Pattern.fields session)
    let (others, session) := expandWords bound rest session
    (fields ++ others, session)

def substitute : (bound : Nat) → Script → Session → List Char × Session
  | 0, _, session => ([], session.leaveBy .endless)
  | bound + 1, script, session =>
    let (index, inner) := capturing session
    let inner := runApart bound script inner
    (withoutFinalLineEnds ((captured inner index).filter (· ≠ '\x00')), session.resume inner)

def runApart : (bound : Nat) → Script → Session → Session
  | 0, _, session => session.leaveBy .endless
  | bound + 1, script, session =>
    let inner := { session with traps := session.traps.filter fun entry => entry.2 = [] }
    session.resume (atEnd bound (runScript bound false script inner))

def atEnd : (bound : Nat) → Session → Session
  | 0, session => session.leaveBy .endless
  | bound + 1, session =>
    let isOver : Bool := session.control = .killed || session.control = .endless
    match session.traps.lookup "EXIT".toList, isOver with
    | some action, false =>
      let status := session.status
      let session := { session with traps := [] }.leaveBy .proceed
      let after := runText bound action session
      if after.control = .exit then after else after.finish status
    | _, _ => session

def runText : (bound : Nat) → List Char → Session → Session
  | 0, _, session => session.leaveBy .endless
  | bound + 1, text, session =>
    match read text with
    | .ok script => runScript bound false script (session.finish 0)
    | .error fault => { session with line := fault.line }.abort fault.message

def redirect : (bound : Nat) → List Redirection → Session → Bool × Session
  | 0, _, session => (false, session.leaveBy .endless)
  | _ + 1, [], session => (true, session)
  | bound + 1, redirection :: rest, session =>
    let (isOpen, session) :=
      match redirection with
      | .input stream file =>
        let (text, session) := expandText bound file session
        openInput stream text session
      | .output stream appends file =>
        let (text, session) := expandText bound file session
        openOutput stream appends text session
      | .duplicate stream source =>
        let (text, session) := expandText bound source session
        duplicateStream stream text session
      | .here stream text =>
        let (text, session) := expandText bound text session
        let (index, session) := session.addInput text
        (true, session.setStream stream (.input index))
    if isOpen then redirect bound rest session else (false, session)

def runRedirected :
    (bound : Nat) → List Redirection → (isTested : Bool) → Command → Session → Session
  | 0, _, _, _, session => session.leaveBy .endless
  | bound + 1, redirections, isTested, body, session =>
    let streams := session.streams
    let (isOpen, session) := redirect bound redirections session
    let session := if isOpen then runCommand bound isTested body session else session.finish 2
    { session with streams := streams }

def assignAll : (bound : Nat) → List (List Char × Word) → Session → Session
  | 0, _, session => session.leaveBy .endless
  | _ + 1, [], session => session
  | bound + 1, (name, word) :: rest, session =>
    let (value, session) := expandText bound word session
    assignAll bound rest (session.assign name value)

def runScript : (bound : Nat) → (isTested : Bool) → Script → Session → Session
  | 0, _, _, session => session.leaveBy .endless
  | _ + 1, _, [], session => session
  | bound + 1, isTested, command :: rest, session =>
    let session := runCommand bound isTested command session
    if session.proceeds then runScript bound isTested rest session else session

def runCommand : (bound : Nat) → (isTested : Bool) → Command → Session → Session
  | 0, _, _, session => session.leaveBy .endless
  | bound + 1, isTested, command, session =>
    match command with
    | .simple line assignments words redirections =>
      let session := { session with line := line }
      checked isTested (runSimple bound assignments words redirections session).watched
    | .group body [] => runScript bound isTested body session
    | .group body redirections =>
      runRedirected bound redirections isTested (.group body []) session
    | .subshell body [] => checked isTested (runApart bound body session)
    | .subshell body redirections =>
      runRedirected bound redirections isTested (.subshell body []) session
    | .loop untilTrue condition body [] =>
      let inner := { session with loopDepth := session.loopDepth + 1 }
      { runLoop bound untilTrue condition body 0 inner with loopDepth := session.loopDepth }
    | .loop untilTrue condition body redirections =>
      runRedirected bound redirections isTested (.loop untilTrue condition body []) session
    | .each name words body [] =>
      let (values, session) :=
        match words with
        | some words => expandWords bound words session
        | none => (session.arguments, session)
      let inner := { session with loopDepth := session.loopDepth + 1, status := 0 }
      { runEach bound name values body inner with loopDepth := session.loopDepth }
    | .each name words body redirections =>
      runRedirected bound redirections isTested (.each name words body []) session
    | .choice condition consequence alternative [] =>
      let session := runScript bound true condition session
      if !session.proceeds then session
      else if session.status = 0 then runScript bound isTested consequence session
      else runScript bound isTested alternative (session.finish 0)
    | .choice condition consequence alternative redirections =>
      runRedirected bound redirections isTested (.choice condition consequence alternative [])
        session
    | .select word arms [] =>
      let (text, session) := expandText bound word session
      runArms bound isTested text arms (session.finish 0)
    | .select word arms redirections =>
      runRedirected bound redirections isTested (.select word arms []) session
    | .pipeline isNegated commands =>
      match commands with
      | [only] =>
        let session := runCommand bound (isTested || isNegated) only session
        if isNegated ∧ session.proceeds then session.finish (if session.status = 0 then 1 else 0)
        else session
      | _ =>
        let started := session.milliseconds
        let session := (runPipeline bound started commands (session.stream 0) session).watched
        if isNegated then session.finish (if session.status = 0 then 1 else 0)
        else checked isTested session
    | .both first second =>
      let session := runCommand bound true first session
      if session.proceeds ∧ session.status = 0 then runCommand bound isTested second session
      else session
    | .either first second =>
      let session := runCommand bound true first session
      if session.proceeds ∧ session.status ≠ 0 then runCommand bound isTested second session
      else session
    | .background command => runBehind bound command session
    | .define name body =>
      let others := session.functions.filter fun entry => entry.1 ≠ name
      { session with functions := (name, body) :: others }.finish 0

def runLoop :
    (bound : Nat) → (untilTrue : Bool) → (condition body : Script) → (status : Nat) →
      Session → Session
  | 0, _, _, _, _, session => session.leaveBy .endless
  | bound + 1, untilTrue, condition, body, status, session =>
    let session := runScript bound true condition session
    match loopStep session.control with
    | .over control => session.leaveBy control
    | .again =>
      if session.control = .proceed ∧ (session.status = 0) = untilTrue then session.finish status
      else
        let session := runScript bound false body (session.leaveBy .proceed)
        match loopStep session.control with
        | .over control => session.leaveBy control
        | .again =>
          runLoop bound untilTrue condition body session.status (session.leaveBy .proceed)

def runEach : (bound : Nat) → (name : List Char) → List (List Char) → Script → Session → Session
  | 0, _, _, _, session => session.leaveBy .endless
  | _ + 1, _, [], _, session => session
  | bound + 1, name, value :: values, body, session =>
    let session := runScript bound false body (session.assign name value)
    match loopStep session.control with
    | .over control => session.leaveBy control
    | .again => runEach bound name values body (session.leaveBy .proceed)

def runArms :
    (bound : Nat) → (isTested : Bool) → (text : List Char) → List (List Word × Script) → Session →
      Session
  | 0, _, _, _, session => session.leaveBy .endless
  | _ + 1, _, _, [], session => session
  | bound + 1, isTested, text, (patterns, body) :: arms, session =>
    let (isChosen, session) := matchesAny bound text patterns session
    if isChosen then runScript bound isTested body session
    else runArms bound isTested text arms session

def matchesAny : (bound : Nat) → (text : List Char) → List Word → Session → Bool × Session
  | 0, _, _, session => (false, session.leaveBy .endless)
  | _ + 1, _, [], session => (false, session)
  | bound + 1, text, word :: words, session =>
    let (pieces, session) := expandParts bound word session
    if Pattern.holds (pieces.flatMap Piece.glyphs) text then (true, session)
    else matchesAny bound text words session

def runPipeline :
    (bound : Nat) → (started : Nat) → List Command → (source : Stream) → Session → Session
  | 0, _, _, _, session => session.leaveBy .endless
  | _ + 1, _, [], _, session => session
  | bound + 1, started, command :: rest, source, session =>
    let ended := session.milliseconds
    let inner := { session with milliseconds := started }.setStream 0 source
    let isLast := rest.isEmpty
    let (index, inner) := if isLast then (0, inner) else capturing inner
    let inner := runApart bound [command] inner
    let after := { session.resume inner with milliseconds := max ended inner.milliseconds }
    if isLast ∨ !after.proceeds then after
    else
      let (number, after) := after.addInput (captured inner index)
      runPipeline bound started rest (.input number) after

def runBehind : (bound : Nat) → Command → Session → Session
  | 0, _, session => session.leaveBy .endless
  | bound + 1, command, session =>
    let inner := session.setStream 0 .nothing
    let redirections :=
      match command with
      | .simple _ _ _ redirections => redirections
      | .subshell _ redirections => redirections
      | .group _ redirections => redirections
      | _ => []
    let (_, opened) := redirect bound redirections inner
    let holds := opened.streams.any fun entry => entry.2 = .diagnostics
    let after := runApart bound [command] inner
    let least := if after.control = Control.endless then session.horizon + 1 else 0
    let ended := max least (max after.milliseconds after.busyUntil)
    let back := session.resume after
    let back :=
      { back with
        milliseconds := session.milliseconds
        busyUntil := max session.busyUntil ended
        backgroundStatus := after.status
        heldUntil := max back.heldUntil (if holds then ended else 0)
        control := if after.control = Control.killed then Control.killed else Control.proceed }
    (back.assign ['!'] Session.parameter?.ownNumber.reverse).finish 0

def runSimple :
    (bound : Nat) → List (List Char × Word) → List Word → List Redirection → Session → Session
  | 0, _, _, _, session => session.leaveBy .endless
  | bound + 1, assignments, words, redirections, session =>
    let streams := session.streams
    let (fields, session) := expandWords bound words session
    let session :=
      if session.hasOption 'x' ∧ fields ≠ [] then
        session.write 2 (['+', ' '] ++ Text.join [' '] fields ++ ['\n'])
      else session
    if !session.proceeds then session
    else
      match fields with
      | [] =>
        let (isOpen, session) := redirect bound redirections (session.finish 0)
        let session := if isOpen then assignAll bound assignments session else session.finish 2
        { session with streams := streams }
      | name :: arguments =>
        let (isOpen, session) := redirect bound redirections session
        let isSpecial := String.ofList name ∈ Builtins.special
        if !session.proceeds then { session with streams := streams }
        else if !isOpen then
          let session := { session with streams := streams }.finish 2
          if isSpecial then session.leaveBy .exit else session
        else
          let earlier := session
          let names := if isSpecial then [] else assignments.map Prod.fst
          let session := assignAll bound assignments session
          let session := { session with exported := names ++ session.exported }
          let session := call bound false name arguments session
          let session := { session with exported := session.exported.drop names.length }
          let session := names.foldl (fun session name => session.restore earlier name) session
          if name = "exec".toList then session else { session with streams := streams }

def call : (bound : Nat) → (skipsFunctions : Bool) → (name : List Char) → List (List Char) →
    Session → Session
  | 0, _, _, _, session => session.leaveBy .endless
  | bound + 1, skipsFunctions, name, arguments, session =>
    let function? := if skipsFunctions then none else session.functions.lookup name
    match function?, Builtins.run? name arguments with
    | some body, _ =>
      let outer := session
      let inner := { session with arguments := arguments, owned := [] }
      let session := runCommand bound false body inner
      let restored := session.owned.foldl (fun session name => session.restore outer name) session
      let session : Session := { restored with arguments := outer.arguments, owned := outer.owned }
      if session.control = .leaveFunction then session.leaveBy .proceed else session
    | none, some change => change session
    | none, none =>
      match String.ofList name, arguments with
      | "exec", [] => session.finish 0
      | "exec", program :: arguments =>
        if Programs.isKnown program ∨ '/' ∈ program then
          let session := call bound true program arguments session
          if session.proceeds then { session with traps := [] }.leaveBy .exit else session
        else
          let session := session.fault s!"exec: {inMessage program}: not found"
          (session.finish 127).leaveBy .exit
      | "command", ['-', 'v'] :: words => Builtins.describe words session
      | "command", program :: arguments => call bound true program arguments session
      | "command", [] => session.finish 0
      | "eval", words => runText bound (Text.join [' '] words) session
      | ".", path :: _ =>
        match session.files.read (session.resolve path) with
        | .ok bytes => runText bound (Session.ofBytes bytes) session
        | .error _ => session.abort s!".: cannot open {inMessage path}: No such file"
      | "kill", words => signal bound words session
      | _, _ => runProgram bound name arguments session

def signal : (bound : Nat) → List (List Char) → Session → Session
  | 0, _, session => session.leaveBy .endless
  | bound + 1, words, session =>
    let (name, targets) :=
      match words with
      | ['-', 's'] :: name :: targets => (Builtins.signalName name, targets)
      | ('-' :: letter :: letters) :: targets => (Builtins.signalName (letter :: letters), targets)
      | _ => (Builtins.signalName ['T', 'E', 'R', 'M'], words)
    let isOwn := targets.any fun target => target = Session.parameter?.ownNumber
    let isOther := targets.any fun target => some target = session.held? ['!']
    if name = "EXIT".toList then session.finish 0
    else if isOwn then
      match if name = "KILL".toList then none else session.traps.lookup name with
      | some [] => session.finish 0
      | some action =>
        let status := session.status
        let after := runText bound action session
        if after.control = .exit then after else after.finish status
      | none => session.leaveBy .killed
    else if isOther then
      { session with
        busyUntil := session.milliseconds, heldUntil := session.milliseconds, status := 0 }
    else (session.fault "kill: No such process").finish 1

def runProgram : (bound : Nat) → (name : List Char) → List (List Char) → Session → Session
  | 0, _, _, session => session.leaveBy .endless
  | bound + 1, name, arguments, session =>
    let program := Programs.nameOf name
    match Programs.table.lookup program with
    | some run => run arguments session
    | none =>
      if program ∈ Programs.interpreters then
        session.resume (interpret bound name arguments session)
      else if program ∈ Programs.callers then
        let (settings, words) := Programs.calledBy arguments
        let inner := settings.foldl (fun session (name, value) => session.assign name value) session
        let inner := { inner with exported := settings.map Prod.fst ++ inner.exported }
        match words with
        | [] => session.resume (Programs.printenv [] inner)
        | called :: arguments =>
          if Programs.isKnown called then session.resume (runProgram bound called arguments inner)
          else
            let reason := s!"'{inMessage called}': No such file or directory"
            (session.complain s!"{program}: {reason}").finish 127
      else
        let path := session.resolve name
        if '/' ∈ name ∧ session.files.holds path then
          (session.fault s!"{inMessage name}: Permission denied").finish 126
        else (session.fault s!"{inMessage name}: not found").finish 127

def interpret : (bound : Nat) → (name : List Char) → List (List Char) → Session → Session
  | 0, _, _, session => session.leaveBy .endless
  | bound + 1, name, arguments, session =>
    let (source, options) := scriptSource name false [] arguments
    let start (name : List Char) (arguments : List (List Char)) : Session :=
      Builtins.withOptions true options (childSession name arguments { session with line := 1 })
    match source with
    | .text script name arguments => atEnd bound (runText bound script (start name arguments))
    | .missingText =>
      { (start name []) with line := 0 }.abort "-c requires an argument"
    | .standardInput arguments =>
      let (script, session) := (start name arguments).readAll 0
      atEnd bound (runText bound script session)
    | .file path arguments =>
      match session.files.read (session.resolve path) with
      | .ok bytes => atEnd bound (runText bound (Session.ofBytes bytes) (start path arguments))
      | .error cause =>
        let reason := Session.redirectionRefusal false cause
        { (start name []) with line := 0 }.abort s!"cannot open {inMessage path}: {reason}"

end

end StylesheetRunner.Shell
