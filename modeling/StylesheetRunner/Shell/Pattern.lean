/-!
Patterns of names: a star for any text, a question mark for any character, a class in brackets. A
quoted character stands for itself.
-/

namespace StylesheetRunner.Shell

structure Glyph where
  character : Char
  isQuoted : Bool
deriving DecidableEq, Repr

namespace Glyph

def quote (text : List Char) : List Glyph :=
  text.map fun character => ⟨character, true⟩

def text (glyphs : List Glyph) : List Char :=
  glyphs.map Glyph.character

def isSpecial (glyph : Glyph) (character : Char) : Bool :=
  glyph.character = character && !glyph.isQuoted

end Glyph

namespace Pattern

def classHolds (character : Char) : List Glyph → Bool
  | low :: dash :: high :: rest =>
    if dash.isSpecial '-' then
      (low.character ≤ character && character ≤ high.character) || classHolds character rest
    else low.character = character || classHolds character (dash :: high :: rest)
  | only :: rest => only.character = character || classHolds character rest
  | [] => false

/-- The class that a bracket opens, whether it is negated, and the rest of the pattern. -/
def readClass? (pattern : List Glyph) : Option (Bool × List Glyph × List Glyph) :=
  let (isNegated, body) :=
    match pattern with
    | first :: rest =>
      if first.isSpecial '!' || first.isSpecial '^' then (true, rest) else (false, pattern)
    | [] => (false, [])
  let first := body.take 1
  let (inner, rest) := (body.drop 1).span fun glyph => !glyph.isSpecial ']'
  match rest with
  | _ :: rest => some (isNegated, first ++ inner, rest)
  | [] => none

def holdsWithin : (bound : Nat) → List Glyph → List Char → Bool
  | 0, _, _ => false
  | _ + 1, [], text => text.isEmpty
  | bound + 1, first :: rest, text =>
    if first.isSpecial '*' then
      holdsWithin bound rest text ||
        match text with
        | [] => false
        | _ :: text => holdsWithin bound (first :: rest) text
    else
      match text with
      | [] => false
      | character :: text =>
        if first.isSpecial '?' then holdsWithin bound rest text
        else if first.isSpecial '[' then
          match readClass? rest with
          | some (isNegated, inner, rest) =>
            classHolds character inner != isNegated && holdsWithin bound rest text
          | none => character = '[' && holdsWithin bound rest text
        else first.character = character && holdsWithin bound rest text

def holds (pattern : List Glyph) (text : List Char) : Bool :=
  holdsWithin (pattern.length + text.length + 1) pattern text

def isProper (glyphs : List Glyph) : Bool :=
  glyphs.any fun glyph => glyph.isSpecial '*' || glyph.isSpecial '?' || glyph.isSpecial '['

def removeFront (longest : Bool) (pattern : List Glyph) (text : List Char) : List Char :=
  let counts := List.range (text.length + 1)
  let counts := if longest then counts.reverse else counts
  match counts.find? fun count => holds pattern (text.take count) with
  | some count => text.drop count
  | none => text

def removeBack (longest : Bool) (pattern : List Glyph) (text : List Char) : List Char :=
  let counts := List.range (text.length + 1)
  let counts := if longest then counts else counts.reverse
  match counts.find? fun count => holds pattern (text.drop count) with
  | some count => text.take count
  | none => text

end Pattern

end StylesheetRunner.Shell
