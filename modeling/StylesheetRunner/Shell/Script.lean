/-!
Scripts of a small command language, in which a processor can be written down. Texts hold bytes, one
to a character.
-/

namespace StylesheetRunner.Shell

inductive Expansion where
  | plain
  | length
  /-- Takes another text where the value is unset, or empty if that counts too. -/
  | default (orEmpty : Bool)
  | assign (orEmpty : Bool)
  | alternative (orEmpty : Bool)
  | demand (orEmpty : Bool)
  /-- Removes what a pattern matches at the front or at the end. -/
  | remove (atEnd longest : Bool)
deriving DecidableEq, Repr

mutual

inductive Part where
  | literal (isQuoted : Bool) (text : List Char)
  | parameter (isQuoted : Bool) (name : List Char) (expansion : Expansion) (word : List Part)
  | output (isQuoted : Bool) (script : List Command)
  | arithmetic (isQuoted : Bool) (expression : List Part)

inductive Redirection where
  | input (stream : Nat) (file : List Part)
  | output (stream : Nat) (appends : Bool) (file : List Part)
  | duplicate (stream : Nat) (source : List Part)
  | here (stream : Nat) (text : List Part)

inductive Command where
  | simple (line : Nat) (assignments : List (List Char × List Part)) (words : List (List Part))
      (redirections : List Redirection)
  | group (body : List Command) (redirections : List Redirection)
  | subshell (body : List Command) (redirections : List Redirection)
  | loop (untilTrue : Bool) (condition body : List Command) (redirections : List Redirection)
  | each (name : List Char) (words : Option (List (List Part))) (body : List Command)
      (redirections : List Redirection)
  | choice (condition consequence alternative : List Command) (redirections : List Redirection)
  | select (word : List Part) (arms : List (List (List Part) × List Command))
      (redirections : List Redirection)
  | pipeline (isNegated : Bool) (commands : List Command)
  | both (first second : Command)
  | either (first second : Command)
  | background (command : Command)
  | define (name : List Char) (body : Command)

end

instance : Inhabited Command := ⟨.group [] []⟩

abbrev Word := List Part

/-- A script: commands one after another. -/
abbrev Script := List Command

def opensName (character : Char) : Bool :=
  character.isAlpha || character = '_'

def continuesName (character : Char) : Bool :=
  character.isAlphanum || character = '_'

end StylesheetRunner.Shell
