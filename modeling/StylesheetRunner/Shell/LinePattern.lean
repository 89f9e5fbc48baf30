/-!
Patterns that are looked for in lines, and lines in which what they match is replaced.
-/

namespace StylesheetRunner.Shell

namespace Edit

inductive Atom where
  | literal (character : Char)
  | any
  | members (isNegated : Bool) (text : List Char)
deriving DecidableEq, Repr

def holdsMember (character : Char) : List Char → Bool
  | low :: '-' :: high :: rest =>
    (low ≤ character && character ≤ high) || holdsMember character rest
  | only :: rest => only = character || holdsMember character rest
  | [] => false

def Atom.matches (atom : Atom) (character : Char) : Bool :=
  match atom with
  | .literal expected => character = expected
  | .any => true
  | .members isNegated text => holdsMember character text != isNegated

/-- A line pattern: atoms that may repeat, between borders that may be fixed. -/
structure LinePattern where
  atStart : Bool
  atoms : List (Atom × Bool)
  atEnd : Bool
deriving DecidableEq, Repr

def atomsWithin : (bound : Nat) → List Char → List (Atom × Bool)
  | 0, _ => []
  | bound + 1, text =>
    let repeated (atom : Atom) (rest : List Char) : List (Atom × Bool) :=
      match rest with
      | '*' :: rest => (atom, true) :: atomsWithin bound rest
      | _ => (atom, false) :: atomsWithin bound rest
    match text with
    | [] => []
    | '\\' :: character :: rest => repeated (.literal character) rest
    | '.' :: rest => repeated .any rest
    | '[' :: rest =>
      let (isNegated, body) :=
        match rest with
        | '^' :: rest => (true, rest)
        | _ => (false, rest)
      let first := body.take 1
      let inner := (body.drop 1).takeWhile (· ≠ ']')
      repeated (.members isNegated (first ++ inner)) (body.drop (inner.length + 2))
    | character :: rest => repeated (.literal character) rest

def LinePattern.read (text : List Char) : LinePattern :=
  let (atStart, body) :=
    match text with
    | '^' :: rest => (true, rest)
    | _ => (false, text)
  let atEnd := body.getLast? = some '$' && body.dropLast.getLast? ≠ some '\\'
  let body := if atEnd then body.dropLast else body
  ⟨atStart, atomsWithin (body.length + 1) body, atEnd⟩

/-- How many characters atoms match at the front of a text, repeating as often as they can. -/
def matchAtoms (atEnd : Bool) : List (Atom × Bool) → List Char → Option Nat
  | [], text => if atEnd ∧ text ≠ [] then none else some 0
  | (atom, false) :: atoms, text =>
    match text with
    | [] => none
    | character :: rest =>
      if atom.matches character then (matchAtoms atEnd atoms rest).map (· + 1) else none
  | (atom, true) :: atoms, text =>
    let most := (text.takeWhile atom.matches).length
    (List.range (most + 1)).reverse.findSome? fun count =>
      (matchAtoms atEnd atoms (text.drop count)).map (· + count)

/-- The replacement for a matched text; an ampersand stands for that text. -/
def replacement (found : List Char) : List Char → List Char
  | '\\' :: 'n' :: rest => '\n' :: replacement found rest
  | '\\' :: character :: rest => character :: replacement found rest
  | '&' :: rest => found ++ replacement found rest
  | character :: rest => character :: replacement found rest
  | [] => []

/-- A line in which matches are replaced, the first or all, within a number of steps. -/
def substituteWithin (pattern : LinePattern) (text : List Char) (all : Bool) :
    (bound : Nat) → (isFront : Bool) → List Char → List Char
  | 0, _, line => line
  | bound + 1, isFront, line =>
    let found? :=
      if pattern.atStart ∧ !isFront then none else matchAtoms pattern.atEnd pattern.atoms line
    match found?, line with
    | some 0, [] => replacement [] text
    | some 0, character :: rest =>
      let after := if all then substituteWithin pattern text all bound false rest else rest
      replacement [] text ++ character :: after
    | some count, line =>
      let rest := line.drop count
      let after :=
        if all ∧ rest ≠ [] then substituteWithin pattern text all bound false rest else rest
      replacement (line.take count) text ++ after
    | none, [] => []
    | none, character :: rest => character :: substituteWithin pattern text all bound false rest

def substitute (pattern : LinePattern) (text : List Char) (all : Bool) (line : List Char) :
    List Char :=
  substituteWithin pattern text all (line.length + 1) true line

def findsWithin (pattern : LinePattern) : (bound : Nat) → (isFront : Bool) → List Char → Bool
  | 0, _, _ => false
  | bound + 1, isFront, line =>
    if pattern.atStart ∧ !isFront then false
    else
      (matchAtoms pattern.atEnd pattern.atoms line).isSome ||
        match line with
        | [] => false
        | _ :: rest => findsWithin pattern bound false rest

def finds (pattern : LinePattern) (line : List Char) : Bool :=
  findsWithin pattern (line.length + 1) true line

end Edit

end StylesheetRunner.Shell
