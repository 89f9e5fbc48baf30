import StylesheetRunner.Toml.Scalar

/-!
Table files: keys with values, grouped under headers. A key is defined once, and a table that is
closed is not opened again.
-/

namespace StylesheetRunner.Toml

def skipLineOrFileEnd? : List Char → Option (List Char)
  | [] => some []
  | characters => skipLineEnd? characters

/-- The characters after blanks and a comment at the end of a line, and after the line end. -/
def skipRestOfLine? (characters : List Char) : Option (List Char) :=
  match skipLineBlanks characters with
  | '#' :: rest => skipLineOrFileEnd? (skipComment rest)
  | rest => skipLineOrFileEnd? rest

def skipSpaceWithin : (bound : Nat) → List Char → Option (List Char)
  | 0, characters => some characters
  | bound + 1, characters =>
    match skipLineBlanks characters with
    | '#' :: rest =>
      match skipLineEnd? (skipComment rest) with
      | some rest => skipSpaceWithin bound rest
      | none => none
    | rest =>
      match skipLineEnd? rest with
      | some rest => skipSpaceWithin bound rest
      | none => some rest

def skipSpace (characters : List Char) : Option (List Char) :=
  skipSpaceWithin (characters.length + 1) characters

/-- Adds a value under a dotted key to the members of a table in braces. Only tables that dotted
keys opened in the same braces may be entered. -/
def addInlined (members : Members) (value : Value) : (key : List String) → Option Members
  | [] => none
  | [name] =>
    if (members.get? name).isSome then none else some (members.put name value)
  | name :: rest => enter members name rest
where
  enter (members : Members) (name : String) : (key : List String) → Option Members
    | [] => none
    | [last] => do
      let inner ← innerOf members name
      if (inner.get? last).isSome then none
      else pure (members.put name (.inlined true (inner.put last value)))
    | next :: rest => do
      let inner ← innerOf members name
      let grown ← enter inner next rest
      pure (members.put name (.inlined true grown))
  innerOf (members : Members) (name : String) : Option Members :=
    match members.get? name with
    | none => some []
    | some (.inlined true inner) => some inner
    | some _ => none

mutual

/-- Reads a value nested no deeper than the given number of levels, within a number of steps. -/
def readValueWithin : (depth bound : Nat) → List Char → Option (Value × List Char)
  | _, 0, _ => none
  | depth, bound + 1, characters =>
    match characters with
    | '"' :: _ => (readText characters).map fun read => (.text read.1, read.2)
    | '\'' :: _ => (readText characters).map fun read => (.text read.1, read.2)
    | '[' :: rest =>
      match depth with
      | 0 => none
      | depth + 1 =>
        (readItemsWithin depth bound true [] rest).map fun read => (.list read.1, read.2)
    | '{' :: rest =>
      match depth with
      | 0 => none
      | depth + 1 =>
        (readMembersWithin depth bound true [] rest).map fun read => (.inlined false read.1, read.2)
    | 't' :: 'r' :: 'u' :: 'e' :: rest => some (.boolean true, rest)
    | 'f' :: 'a' :: 'l' :: 's' :: 'e' :: rest => some (.boolean false, rest)
    | _ => readNumberOrMoment characters
termination_by structural _ bound => bound

def readItemsWithin :
    (depth bound : Nat) → (first : Bool) → (held : List Value) → List Char →
      Option (List Value × List Char)
  | _, 0, _, _, _ => none
  | depth, bound + 1, first, held, characters =>
    match skipSpace characters with
    | none => none
    | some (']' :: rest) => some (held.reverse, rest)
    | some (',' :: rest) =>
      if first then none
      else
        match skipSpace rest with
        | none => none
        | some (']' :: rest) => some (held.reverse, rest)
        | some rest =>
          match readValueWithin depth bound rest with
          | some (value, rest) => readItemsWithin depth bound false (value :: held) rest
          | none => none
    | some rest =>
      if first then
        match readValueWithin depth bound rest with
        | some (value, rest) => readItemsWithin depth bound false (value :: held) rest
        | none => none
      else none

def readMembersWithin :
    (depth bound : Nat) → (first : Bool) → (held : Members) → List Char →
      Option (Members × List Char)
  | _, 0, _, _, _ => none
  | depth, bound + 1, first, held, characters =>
    match skipLineBlanks characters with
    | '}' :: rest => some (held, rest)
    | ',' :: rest => if first then none else readMember depth bound held rest
    | rest => if first then readMember depth bound held rest else none

def readMember : (depth bound : Nat) → (held : Members) → List Char →
    Option (Members × List Char)
  | _, 0, _, _ => none
  | depth, bound + 1, held, characters =>
    match readKey characters with
    | some (key, '=' :: rest) =>
      match readValueWithin depth bound (skipLineBlanks rest) with
      | some (value, rest) =>
        match addInlined held value key with
        | some held => readMembersWithin depth bound false held rest
        | none => none
      | none => none
    | _ => none

end

def readValue (characters : List Char) : Option (Value × List Char) :=
  readValueWithin (depthLimit - 1) (3 * characters.length + 3) characters

/-- Changes the table that a key leads to from a table of the file, making missing tables on the
way. A dotted key may enter only tables that no header opened. -/
def changeAt (byDottedKey : Bool) (change : (isDotted : Bool) → Members → Option Members)
    (isDotted : Bool) (members : Members) : (key : List String) → Option Members
  | [] => change isDotted members
  | name :: rest =>
    match members.get? name with
    | none => do
      let inner ← changeAt byDottedKey change byDottedKey [] rest
      pure (members.put name (.table true byDottedKey inner))
    | some (.table isImplied isDotted inner) =>
      if byDottedKey && !isImplied then none
      else do
        let inner ← changeAt byDottedKey change isDotted inner rest
        pure (members.put name (.table isImplied isDotted inner))
    | some (.tables elements) =>
      match elements.getLast? with
      | none => none
      | some last => do
        let last ← changeAt byDottedKey change false last rest
        pure (members.put name (.tables (elements.dropLast ++ [last])))
    | some _ => none

/-- A file between two lines: the tables that are closed and the one that lines add to. -/
structure Draft where
  closed : Members
  current : Members
  header : List String
  isElement : Bool

namespace Draft

def start : Draft := ⟨[], [], [], false⟩

def close (draft : Draft) : Option Members :=
  match draft.header.getLast? with
  | none => some draft.current
  | some name =>
    changeAt false (fun _ members =>
      if draft.isElement then
        match members.get? name with
        | none => some (members.put name (.tables [draft.current]))
        | some (.tables elements) => some (members.put name (.tables (elements ++ [draft.current])))
        | some _ => none
      else some (members.put name (.table false false draft.current)))
      false draft.closed draft.header.dropLast

def add (draft : Draft) (key : List String) (value : Value) : Option Draft :=
  match key.getLast? with
  | none => none
  | some name => do
    let path := key.dropLast
    let current ← changeAt true (fun isDotted members =>
      if isDotted = path.isEmpty then none
      else if (members.get? name).isSome then none
      else some (members.put name value)) false draft.current path
    pure { draft with current }

def takeImplied (members : Members) (name : String) : Option Members :=
  match members.get? name with
  | none => some []
  | some (.table true false inner) => some inner
  | some _ => none

def membersAt? (members : Members) : (key : List String) → Option Members
  | [] => some members
  | name :: rest =>
    match members.get? name with
    | some (.table _ _ inner) => membersAt? inner rest
    | some (.tables elements) =>
      match elements.getLast? with
      | some last => membersAt? last rest
      | none => none
    | _ => none

def openTable (draft : Draft) (header : List String) : Option Draft :=
  match header.getLast? with
  | none => none
  | some name => do
    let closed ← draft.close
    let closed ← changeAt false (fun _ members => do
      let _ ← takeImplied members name
      pure members) false closed header.dropLast
    let parent ← membersAt? closed header.dropLast
    let current ← takeImplied parent name
    pure ⟨closed, current, header, false⟩

def openElement (draft : Draft) (header : List String) : Option Draft :=
  match header.getLast? with
  | none => none
  | some name => do
    let closed ← draft.close
    let closed ← changeAt false (fun _ members =>
      match members.get? name with
      | none => some members
      | some (.tables _) => some members
      | some _ => none) false closed header.dropLast
    pure ⟨closed, [], header, true⟩

end Draft

def readHeader (draft : Draft) (characters : List Char) : Option (Draft × List Char) :=
  match characters with
  | '[' :: '[' :: rest => do
    let (key, rest) ← readKey rest
    match rest with
    | ']' :: ']' :: rest =>
      let draft ← draft.openElement key
      let rest ← skipRestOfLine? rest
      pure (draft, rest)
    | _ => none
  | '[' :: rest => do
    let (key, rest) ← readKey rest
    match rest with
    | ']' :: rest =>
      let draft ← draft.openTable key
      let rest ← skipRestOfLine? rest
      pure (draft, rest)
    | _ => none
  | _ => none

def readAssignment (draft : Draft) (characters : List Char) : Option (Draft × List Char) := do
  let (key, rest) ← readKey characters
  match rest with
  | '=' :: rest =>
    let (value, rest) ← readValue (skipLineBlanks rest)
    let rest ← skipRestOfLine? rest
    let draft ← draft.add key value
    pure (draft, rest)
  | _ => none

def readLinesWithin : (bound : Nat) → Draft → List Char → Option Draft
  | 0, _, _ => none
  | bound + 1, draft, characters =>
    match skipLineBlanks characters with
    | [] => some draft
    | '#' :: rest =>
      match skipLineOrFileEnd? (skipComment rest) with
      | some rest => readLinesWithin bound draft rest
      | none => none
    | '[' :: rest =>
      match readHeader draft ('[' :: rest) with
      | some (draft, rest) => readLinesWithin bound draft rest
      | none => none
    | characters =>
      match skipLineEnd? characters with
      | some rest => readLinesWithin bound draft rest
      | none =>
        match readAssignment draft characters with
        | some (draft, rest) => readLinesWithin bound draft rest
        | none => none

/-- Reads a table file. A mark of the byte order at its start counts for nothing. -/
def read (text : List Char) : Option Members :=
  let body :=
    match text with
    | '\uFEFF' :: rest => rest
    | _ => text
  match readLinesWithin (body.length + 1) .start body with
  | some draft => draft.close
  | none => none

end StylesheetRunner.Toml
