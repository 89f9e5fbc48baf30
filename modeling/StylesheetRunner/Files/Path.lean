import StylesheetRunner.Text.Lines
import StylesheetRunner.Text.Utf8

/-!
Paths: the names that lead from the root to a file, and the texts in which they are written.
-/

namespace StylesheetRunner

abbrev Path := List String

namespace Path

def pieces : List Char → List (List Char)
  | [] => [[]]
  | character :: rest =>
    if character = '/' then [] :: pieces rest
    else
      match pieces rest with
      | [] => [[character]]
      | first :: others => (character :: first) :: others

/-- One more piece of a written path: a blank piece or a dot stays, two dots go up. -/
def enter (path : Path) (piece : List Char) : Path :=
  if piece = [] ∨ piece = ['.'] then path
  else if piece = ['.', '.'] then path.dropLast
  else path ++ [String.ofList piece]

def resolve (directory : Path) (text : List Char) : Path :=
  let start := if text.head? = some '/' then [] else directory
  (pieces text).foldl enter start

def ofText (text : String) : Path :=
  resolve [] text.toList

def text (path : Path) : String :=
  match path with
  | [] => "/"
  | _ => String.join (path.map fun name => "/" ++ name)

/-- Sets a written path behind a written directory; an absolute one stands alone. -/
def append (directory file : List Char) : List Char :=
  if file.head? = some '/' ∨ directory = [] then file
  else if directory.getLast? = some '/' then directory ++ file
  else directory ++ '/' :: file

def isWithin (directory path : Path) : Bool :=
  directory.isPrefixOf path

def isTooLong (piece : List Char) : Bool :=
  255 < (Text.Utf8.encode piece).length

def withoutFinalSlashes (text : List Char) : List Char :=
  (text.reverse.dropWhile (· = '/')).reverse

/-- A reversed text without the slashes, and the dots between slashes, at its front. -/
def dropBlankPieces : List Char → List Char
  | '/' :: rest => dropBlankPieces rest
  | '.' :: '/' :: rest => dropBlankPieces rest
  | text => text

def parent? (text : List Char) : Option (List Char) :=
  let body := dropBlankPieces text.reverse
  if body = [] then none
  else
    let above := body.dropWhile (· ≠ '/')
    let directory := (dropBlankPieces above).reverse
    some (if directory = [] ∧ above ≠ [] then ['/'] else directory)

def lastName? (text : List Char) : Option (List Char) :=
  match ((pieces text).filter fun piece => piece ≠ [] ∧ piece ≠ ['.']).getLast? with
  | some name => if name = ['.', '.'] then none else some name
  | none => none

/-- The part of a name after its last dot, when the dot is not the name's first character. -/
def extension? (text : List Char) : Option (List Char) :=
  match lastName? text with
  | none => none
  | some name =>
    match Text.splitAtFirst? '.' name.reverse with
    | none => none
    | some (extension, stem) => if stem = [] then none else some extension.reverse

end Path

end StylesheetRunner
