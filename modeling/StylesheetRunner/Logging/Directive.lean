import StylesheetRunner.Text.Alphanumeric
import StylesheetRunner.Text.Blank
import StylesheetRunner.Text.Numeral

/-!
Filter directives for log lines: a level or a target, a target with a level, or a span with fields
before either. Only whether a text is a directive matters here.
-/

namespace StylesheetRunner.Logging.Directive

/-- Whether a text is a level: a name in any letters, or a number from zero to five. -/
def isLevel (text : List Char) : Bool :=
  let numeric :=
    match Text.readNatural Text.wordLimit text with
    | .ok value => value ≤ 5
    | .error _ => false
  numeric || text = [] ||
    ["error", "warn", "info", "debug", "trace", "off"].contains
      (String.ofList (text.map Char.toLower))

/-- Whether a pattern is well-formed as far as its brackets, escapes and repetitions go. The depth
counts open parentheses; a repetition needs something before it. -/
def isPattern : (depth : Nat) → (repeatable inClass : Bool) → List Char → Bool
  | depth, _, inClass, [] => depth == 0 && !inClass
  | _, _, _, ['\\'] => false
  | depth, _, inClass, '\\' :: _ :: rest => isPattern depth true inClass rest
  | depth, repeatable, true, character :: rest =>
    if character = ']' then isPattern depth true false rest
    else isPattern depth repeatable true rest
  | depth, _, false, '[' :: ']' :: rest => isPattern depth true true rest
  | depth, _, false, '[' :: '^' :: ']' :: rest => isPattern depth true true rest
  | depth, _, false, '[' :: rest => isPattern depth true true rest
  | depth, repeatable, false, character :: rest =>
    if character = '(' then isPattern (depth + 1) false false rest
    else if character = ')' then depth != 0 && isPattern (depth - 1) true false rest
    else if character = '*' ∨ character = '+' ∨ character = '?' then
      repeatable && isPattern depth true false rest
    else if character = '|' then isPattern depth false false rest
    else isPattern depth true false rest

/-- Whether a text is a field: a name, with an optional pattern for its value. -/
def isField (text : List Char) : Bool :=
  text ≠ [] &&
    match (text.dropWhile (· ≠ '=')) with
    | [] => true
    | _ :: rest => isPattern 0 false false (rest.takeWhile (· ≠ '='))

/-- Where a reader stands. Places are counted in characters from the start of the text. -/
inductive Stage where
  | start
  | levelOrTarget
  | span
  | field (place : Nat)
  | fields
  | target
  | level (place : Nat)
  | complete
deriving DecidableEq, Repr

def slice (text : List Char) (first last : Nat) : List Char :=
  (text.take last).drop first

def step (text : List Char) (place : Nat) (stage : Stage) (character : Char) : Option Stage :=
  match stage with
  | .start =>
    if character = '[' then some .span
    else if character = '-' ∨ character = ':' ∨ character = '_' ∨ Text.isAlphanumeric character then
      some .levelOrTarget
    else none
  | .levelOrTarget =>
    if character = '=' then some (.level (place + 1))
    else if character = '[' then some .span
    else if character = ',' then some .complete
    else some .levelOrTarget
  | .span =>
    if character = ']' then some .target
    else if character = '{' then some (.field (place + 1))
    else some .span
  | .field first =>
    if character = '}' then if isField (slice text first place) then some .fields else none
    else if character = ',' then
      if isField (slice text first place) then some (.field (place + 1)) else none
    else some (.field first)
  | .fields => if character = ']' then some .target else none
  | .target => if character = '=' then some (.level (place + 1)) else none
  | .level first =>
    if character = ',' then if isLevel (slice text first place) then some .complete else none
    else some (.level first)
  | .complete => none

def stageAfter (text : List Char) : (place : Nat) → Stage → List Char → Option Stage
  | _, stage, [] => some stage
  | place, stage, character :: rest =>
    match step text place stage character with
    | none => none
    | some stage => stageAfter text (place + 1) stage rest

/-- Whether a text is a directive. Places found in the trimmed text are looked up in the whole. -/
def isValid (text : String) : Bool :=
  let characters := text.toList
  match stageAfter characters 0 .start (Text.trim characters) with
  | some .levelOrTarget => true
  | some .target => true
  | some .complete => true
  | some (.level first) => isLevel (characters.drop first)
  | _ => false

end StylesheetRunner.Logging.Directive
