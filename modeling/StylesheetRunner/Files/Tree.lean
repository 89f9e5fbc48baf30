import StylesheetRunner.Files.IoError
import StylesheetRunner.Files.Path

/-!
A file tree: which path holds which file or directory. The root is always a directory. Every
operation is described through the one view `find?`.
-/

namespace StylesheetRunner

inductive Node where
  | file (bytes : List UInt8)
  | directory
  | sealed
deriving DecidableEq, Repr

structure FileTree where
  entries : List (Path × Node)
deriving DecidableEq, Repr

theorem lookup_filter {key value : Type} [BEq key] [LawfulBEq key] (keeps : key → Bool)
    (entries : List (key × value)) (wanted : key) :
    (entries.filter fun entry => keeps entry.1).lookup wanted =
      if keeps wanted then entries.lookup wanted else none := by
  induction entries with
  | nil => simp
  | cons entry entries ih =>
    obtain ⟨name, held⟩ := entry
    by_cases here : wanted = name
    · subst here
      by_cases kept : keeps wanted
      · simp [kept]
      · simp [kept, ih]
    · have unequal : (wanted == name) = false := by simpa using here
      by_cases kept : keeps name
      · simp [kept, List.lookup_cons, unequal, ih]
      · simp [kept, List.lookup_cons, unequal, ih]

namespace FileTree

def empty : FileTree := ⟨[]⟩

def find? (tree : FileTree) (path : Path) : Option Node :=
  if path = [] then some .directory else tree.entries.lookup path

def insert (tree : FileTree) (path : Path) (node : Node) : FileTree :=
  ⟨(tree.entries.filter fun entry => entry.1 ≠ path) ++ [(path, node)]⟩

/-- A tree without the given path and all below it. -/
def remove (tree : FileTree) (path : Path) : FileTree :=
  ⟨tree.entries.filter fun entry => !Path.isWithin path entry.1⟩

def holds (tree : FileTree) (path : Path) : Bool :=
  (tree.find? path).isSome

def isDirectory (tree : FileTree) (path : Path) : Bool :=
  match tree.find? path with
  | some .directory => true
  | some .sealed => true
  | _ => false

/-- Whether something new can be made at a path: it needs a directory that is not sealed. -/
def hasRoom (tree : FileTree) (path : Path) : Bool :=
  tree.find? path.dropLast = some .directory

def isFile (tree : FileTree) (path : Path) : Bool :=
  match tree.find? path with
  | some (.file _) => true
  | _ => false

/-- Why a path that holds nothing cannot be opened: a file stands where a directory is needed, or
nothing is there. -/
def absence (tree : FileTree) (path : Path) : IoError :=
  if (List.range path.length).any fun count => tree.isFile (path.take count) then .notADirectory
  else .notFound

def read (tree : FileTree) (path : Path) : Except IoError (List UInt8) :=
  match tree.find? path with
  | some (.file bytes) => .ok bytes
  | some _ => .error .isADirectory
  | none => .error (tree.absence path)

def write (tree : FileTree) (path : Path) (bytes : List UInt8) : Except IoError FileTree :=
  match tree.find? path with
  | some (.file _) => .ok (tree.insert path (.file bytes))
  | some _ => .error .isADirectory
  | none =>
    if tree.hasRoom path then .ok (tree.insert path (.file bytes))
    else .error (tree.absence path)

/-- Opens a file for writing at its end; a missing one is made empty. -/
def touch (tree : FileTree) (path : Path) : Except IoError FileTree :=
  match tree.find? path with
  | some (.file _) => .ok tree
  | _ => tree.write path []

def makeDirectory (tree : FileTree) (path : Path) : Except IoError FileTree :=
  if tree.holds path then .error .alreadyExists
  else if tree.hasRoom path then .ok (tree.insert path .directory)
  else .error (tree.absence path)

def makeDirectories (tree : FileTree) (path : Path) : Except IoError FileTree :=
  (List.range (path.length + 1)).foldlM (fun tree count =>
    if tree.isDirectory (path.take count) then .ok tree
    else if tree.isFile (path.take count) ∧ count < path.length then .error .notADirectory
    else tree.makeDirectory (path.take count)) tree

/-- Makes a directory that is passed on the way to another, or the last one, where it is missing. -/
def ensureDirectory (tree : FileTree) (path : Path) (isLast : Bool) : Except IoError FileTree :=
  match tree.find? path with
  | some (.file _) => .error (if isLast then .alreadyExists else .notADirectory)
  | some _ => .ok tree
  | none => tree.makeDirectory path

def refusalOfWritten? (written : List Char) : Option IoError :=
  if '\x00' ∈ written then some .nulInName
  else if (Path.pieces written).any Path.isTooLong then some .nameTooLong
  else none

/-- The path that a written path names, seen from a directory. What it passes on the way must be
directories. -/
def locate (tree : FileTree) (directory : Path) (written : List Char) : Except IoError Path :=
  match refusalOfWritten? written with
  | some cause => .error cause
  | none =>
    let start := if written.head? = some '/' then [] else directory
    (Path.pieces written).foldlM (fun path piece =>
      match tree.find? path with
      | some (.file _) => .error .notADirectory
      | some _ => .ok (Path.enter path piece)
      | none => .error (tree.absence path)) start

def holdsAt (tree : FileTree) (directory : Path) (written : List Char) : Bool :=
  match tree.locate directory written with
  | .ok path => tree.holds path
  | .error _ => false

def readAt (tree : FileTree) (directory : Path) (written : List Char) :
    Except IoError (List UInt8) := do
  tree.read (← tree.locate directory written)

/-- Opens the file that a written path names for writing at its end; a missing one is made empty.
Behind a final slash no file can be made. -/
def touchAt (tree : FileTree) (directory : Path) (written : List Char) :
    Except IoError FileTree :=
  if written.getLast? = some '/' then .error .isADirectory
  else do tree.touch (← tree.locate directory written)

/-- Makes the directory that a written path names and those it passes on the way, as far as they are
missing. -/
def makeDirectoriesAt (tree : FileTree) (directory : Path) (written : List Char) :
    Except IoError FileTree :=
  match refusalOfWritten? written with
  | some cause => .error cause
  | none => do
    let start := if written.head? = some '/' then [] else directory
    let (tree, path) ← (Path.pieces written).foldlM (fun (reached : FileTree × Path) piece => do
      pure (← reached.1.ensureDirectory reached.2 false, Path.enter reached.2 piece)) (tree, start)
    tree.ensureDirectory path true

def children (tree : FileTree) (directory : Path) : List String :=
  let names := tree.entries.filterMap fun entry =>
    if entry.1.dropLast = directory ∧ entry.1 ≠ [] then entry.1.getLast? else none
  names.mergeSort fun left right => left ≤ right

/-- All below a directory, by the path from there, in ascending order of the written paths. -/
def below (tree : FileTree) (directory : Path) : List (String × Node) :=
  let found := tree.entries.filterMap fun entry =>
    if Path.isWithin directory entry.1 ∧ entry.1 ≠ directory then
      some ("/".intercalate (entry.1.drop directory.length), entry.2)
    else none
  found.mergeSort fun left right => left.1 ≤ right.1

theorem find?_root (tree : FileTree) : tree.find? [] = some .directory := by
  simp [find?]

theorem find?_insert (tree : FileTree) (path other : Path) (node : Node) (below : path ≠ []) :
    (tree.insert path node).find? other = if other = path then some node else tree.find? other := by
  by_cases root : other = []
  · subst root
    simp [find?, Ne.symm below]
  · have kept := lookup_filter (fun key => key ≠ path) tree.entries other
    simp only [find?, root, if_false, insert, List.lookup_append, kept]
    by_cases same : other = path
    · simp [same]
    · have unequal : (other == path) = false := by simpa using same
      simp [same, List.lookup_cons, unequal]

end FileTree

end StylesheetRunner
