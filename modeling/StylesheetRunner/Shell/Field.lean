import StylesheetRunner.Files.Tree
import StylesheetRunner.Shell.Pattern
import StylesheetRunner.Shell.Session

/-!
From expanded words to fields: unquoted text falls apart at separators, and fields that are patterns
stand for the files they match.
-/

namespace StylesheetRunner.Shell

inductive Piece where
  | whole (glyphs : List Glyph)
  | loose (text : List Char)
  | border
deriving DecidableEq, Repr

namespace Piece

def ofValue (isQuoted : Bool) (text : List Char) : Piece :=
  if isQuoted then .whole (Glyph.quote text) else .loose text

def quote : Piece → Piece
  | .whole glyphs => .whole (Glyph.quote (Glyph.text glyphs))
  | .loose text => .whole (Glyph.quote text)
  | .border => .border

def loosen : Piece → Piece
  | .whole glyphs =>
    if glyphs ≠ [] ∧ glyphs.all fun glyph => !glyph.isQuoted then .loose (Glyph.text glyphs)
    else .whole glyphs
  | piece => piece

def glyphs : Piece → List Glyph
  | .whole glyphs => glyphs
  | .loose text => text.map fun character => ⟨character, false⟩
  | .border => [⟨' ', true⟩]

end Piece

def isBlankSeparator (character : Char) : Bool :=
  character = ' ' || character = '\t' || character = '\n'

structure FieldBuilder where
  done : List (List Glyph)
  current : Option (List Glyph)
  /-- A blank has ended the last field, and a separator after it ends nothing more. -/
  endedByBlank : Bool

namespace FieldBuilder

def close (builder : FieldBuilder) : FieldBuilder :=
  match builder.current with
  | some glyphs => ⟨builder.done ++ [glyphs], none, false⟩
  | none => builder

def add (builder : FieldBuilder) (glyphs : List Glyph) : FieldBuilder :=
  { builder with current := some (builder.current.getD [] ++ glyphs), endedByBlank := false }

def addLoose (separators : List Char) (builder : FieldBuilder) (character : Char) : FieldBuilder :=
  if character ∉ separators then builder.add [⟨character, false⟩]
  else if isBlankSeparator character then
    match builder.current with
    | some _ => { builder.close with endedByBlank := true }
    | none => builder
  else
    match builder.current with
    | some _ => builder.close
    | none =>
      if builder.endedByBlank then { builder with endedByBlank := false }
      else (builder.add []).close

def addPiece (separators : List Char) (builder : FieldBuilder) : Piece → FieldBuilder
  | .whole glyphs => builder.add glyphs
  | .loose text => text.foldl (addLoose separators) builder
  | .border => builder.close

end FieldBuilder

def fieldsOf (separators : List Char) (pieces : List Piece) : List (List Glyph) :=
  (pieces.foldl (FieldBuilder.addPiece separators) ⟨[], none, false⟩).close.done

def Pattern.segments (glyphs : List Glyph) : List (List Glyph) :=
  glyphs.foldr (fun glyph parts =>
    if glyph.character = '/' then [] :: parts
    else
      match parts with
      | first :: others => (glyph :: first) :: others
      | [] => [[glyph]]) [[]]

/-- The written paths that the segments of a pattern match below what has been matched. -/
def Pattern.matchesBelow (session : Session) : (written : List Char) → List (List Glyph) →
    List (List Char)
  | written, [] => [written]
  | written, segment :: rest =>
    let more (name : List Char) : List (List Char) :=
      if rest = [] then [written ++ name]
      else Pattern.matchesBelow session (written ++ name ++ ['/']) rest
    if Pattern.isProper segment then
      let directory := session.resolve (if written = [] then ['.'] else written)
      let names := (session.files.children directory).map Session.byteText
      let isDotted := segment.head?.any fun glyph => glyph.character = '.'
      let names := names.filter fun name =>
        (isDotted || name.head? ≠ some '.') && Pattern.holds segment name
      names.flatMap more
    else more (Glyph.text segment)

/-- The fields that a field stands for: the files it matches, or itself. -/
def Pattern.fields (session : Session) (glyphs : List Glyph) : List (List Char) :=
  if Pattern.isProper glyphs ∧ !session.hasOption 'f' then
    let found := (Pattern.matchesBelow session [] (Pattern.segments glyphs)).filter fun path =>
      session.files.holds (session.resolve path)
    if found = [] then [Glyph.text glyphs] else found
  else [Glyph.text glyphs]

/-- The values of the variables that read a line; the last one takes what is left. -/
def readFields (separators : List Char) : (names : List (List Char)) → List Char →
    List (List Char × List Char)
  | [], _ => []
  | [name], line =>
    let isEnd (character : Char) : Bool := isBlankSeparator character && character ∈ separators
    let kept := ((line.dropWhile isEnd).reverse.dropWhile isEnd).reverse
    [(name, kept)]
  | name :: names, line =>
    let isEnd (character : Char) : Bool := isBlankSeparator character && character ∈ separators
    let (value, rest) := (line.dropWhile isEnd).span fun character => character ∉ separators
    let rest := rest.dropWhile isEnd
    let rest :=
      match rest with
      | character :: behind =>
        if character ∈ separators then behind.dropWhile isEnd else rest
      | [] => rest
    (name, value) :: readFields separators names rest

end StylesheetRunner.Shell
