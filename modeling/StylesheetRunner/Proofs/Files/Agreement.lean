import StylesheetRunner.Proofs.Files.Confinement

/-!
Trees that agree along a directory: on the way down to it and inside. An operation on a path along
the directory cannot tell them apart.
-/

namespace StylesheetRunner

namespace Path

def IsAlong (directory path : Path) : Prop :=
  path <+: directory ∨ directory <+: path

def isBelow (directory path : Path) : Bool :=
  isWithin directory path && path ≠ directory

variable {directory path : Path}

theorem IsAlong.of_prefix {upper : Path} (along : IsAlong directory path) (above : upper <+: path) :
    IsAlong directory upper := by
  obtain on_the_way | inside := along
  · exact .inl (above.trans on_the_way)
  · exact List.prefix_or_prefix_of_prefix above inside

theorem isBelow_iff : isBelow directory path ↔ directory <+: path ∧ path ≠ directory := by
  simp only [isBelow, Bool.and_eq_true, isWithin_iff, decide_eq_true_eq]

theorem not_isBelow_of_prefix (above : path <+: directory) : ¬ isBelow directory path := by
  rw [isBelow_iff]
  rintro ⟨inside, different⟩
  exact different (above.eq_of_length_le inside.length_le)

theorem IsAlong.prefix_of_not_isBelow (along : IsAlong directory path)
    (outside : ¬ isBelow directory path) : path <+: directory := by
  obtain on_the_way | inside := along
  · exact on_the_way
  · have same : path = directory :=
      Decidable.byContradiction fun different => outside (isBelow_iff.mpr ⟨inside, different⟩)
    subst same
    exact List.prefix_refl _

/-- What lies inside a directory or on the way to it is not inside a directory that is apart. -/
theorem not_isWithin_of_isAlong {other : Path} (along : IsAlong directory path)
    (outside : ¬ isWithin directory other) (apart : ¬ isWithin other directory) :
    ¬ isWithin other path := by
  rw [isWithin_iff] at *
  intro inside
  obtain on_the_way | within := along
  · exact apart (inside.trans on_the_way)
  · obtain first | second := List.prefix_or_prefix_of_prefix inside within
    · exact apart first
    · exact outside second

end Path

namespace FileTree

def SameOn (seen : Path → Prop) (first second : FileTree) : Prop :=
  ∀ path, seen path → second.find? path = first.find? path

def SameAlong (directory : Path) (first second : FileTree) : Prop :=
  ∀ path, Path.IsAlong directory path → second.find? path = first.find? path

def SameAbove (directory : Path) (first second : FileTree) : Prop :=
  ∀ path, path <+: directory → second.find? path = first.find? path

def SameInside (directory : Path) (first second : FileTree) : Prop :=
  ∀ path, directory <+: path → second.find? path = first.find? path

def SameButBelow (directory : Path) (first second : FileTree) : Prop :=
  ∀ path, ¬ Path.isBelow directory path → second.find? path = first.find? path

def IsGrounded (tree : FileTree) : Prop :=
  ∀ path names, tree.find? path = none → tree.find? (path ++ names) = none

variable {directory path : Path} {tree first second left : FileTree}

theorem isGrounded_empty : IsGrounded empty := by
  intro path names absent
  have below : path ≠ [] := by
    rintro rfl
    cases absent
  simp [find?, empty, below]

theorem IsGrounded.insert (grounded : tree.IsGrounded) (node : Node) (below : path ≠ [])
    (room : tree.find? path.dropLast ≠ none) : (tree.insert path node).IsGrounded := by
  intro upper names absent
  rw [find?_insert tree path upper node below] at absent
  rw [find?_insert tree path (upper ++ names) node below]
  split at absent
  next => cases absent
  next different =>
    have deeper : upper ++ names ≠ path := by
      rintro rfl
      have proper : names ≠ [] := by
        rintro rfl
        exact different (List.append_nil upper).symm
      rw [List.dropLast_append_of_ne_nil proper] at room
      exact room (grounded upper names.dropLast absent)
    rw [if_neg deeper]
    exact grounded upper names absent

theorem sameButBelow_insert (tree : FileTree) (node : Node)
    (inside : Path.isBelow directory path) :
    SameButBelow directory tree (tree.insert path node) := by
  intro other outside
  have below : path ≠ [] := by
    rintro rfl
    exact Path.not_isBelow_of_prefix (List.nil_prefix) inside
  have different : other ≠ path := fun same => outside (same ▸ inside)
  rw [find?_insert tree path other node below, if_neg different]

theorem SameButBelow.sameAbove (same : SameButBelow directory first second) :
    SameAbove directory first second :=
  fun path above => same path (Path.not_isBelow_of_prefix above)

theorem SameButBelow.sameOutside (same : SameButBelow directory first second) :
    SameOutside directory first second := by
  intro path outside
  refine same path fun below => outside ?_
  exact Path.isWithin_iff.mpr (Path.isBelow_iff.mp below).1

theorem SameOutside.sameAlong {other : Path} (same : SameOutside other first second)
    (outside : ¬ Path.isWithin directory other) (apart : ¬ Path.isWithin other directory) :
    SameAlong directory first second :=
  fun path along => same path (Path.not_isWithin_of_isAlong along outside apart)

theorem sameAlong_iff :
    SameAlong directory first second ↔
      SameAbove directory first second ∧ SameInside directory first second := by
  constructor
  · intro same
    exact ⟨fun path above => same path (.inl above), fun path inside => same path (.inr inside)⟩
  · rintro ⟨above, inside⟩ path (on_the_way | within)
    · exact above path on_the_way
    · exact inside path within

theorem SameOn.trans {seen : Path → Prop} {third : FileTree} (earlier : SameOn seen first second)
    (later : SameOn seen second third) : SameOn seen first third := by
  intro path shown
  exact (later path shown).trans (earlier path shown)

/-! Operations at paths along a directory, all of which are seen. -/

section Operations
variable {seen : Path → Prop} (same : SameOn seen first second)
include same

theorem SameOn.insert (node : Node) (below : path ≠ []) :
    SameOn seen (first.insert path node) (second.insert path node) := by
  intro other shown
  rw [find?_insert first path other node below, find?_insert second path other node below,
    same other shown]

variable (covers : ∀ path, Path.IsAlong directory path → seen path)
  (along : Path.IsAlong directory path)
include covers along

theorem SameOn.isFile : second.isFile path = first.isFile path := by
  unfold FileTree.isFile
  rw [same path (covers path along)]

theorem SameOn.hasRoom : second.hasRoom path = first.hasRoom path := by
  unfold FileTree.hasRoom
  rw [same _ (covers _ (along.of_prefix (List.dropLast_prefix path)))]

theorem SameOn.absence : second.absence path = first.absence path := by
  have upper : (fun count => second.isFile (path.take count)) =
      fun count => first.isFile (path.take count) := by
    funext count
    exact same.isFile covers (along.of_prefix (List.take_prefix count path))
  unfold FileTree.absence
  rw [upper]

theorem SameOn.read : second.read path = first.read path := by
  unfold FileTree.read
  rw [same path (covers path along), same.absence covers along]

theorem SameOn.write (bytes : List UInt8) :
    (∃ cause, first.write path bytes = .error cause ∧ second.write path bytes = .error cause) ∨
      ∃ written written', first.write path bytes = .ok written ∧
        second.write path bytes = .ok written' ∧ SameOn seen written written' := by
  have told : second.write path bytes =
      (first.write path bytes).map fun _ => second.insert path (.file bytes) := by
    unfold FileTree.write
    rw [same path (covers path along), same.hasRoom covers along, same.absence covers along]
    split
    · rfl
    · rfl
    · split <;> rfl
  cases outcome : first.write path bytes with
  | error cause =>
    rw [outcome] at told
    exact .inl ⟨cause, rfl, told⟩
  | ok written =>
    rw [outcome] at told
    obtain ⟨below, rfl⟩ := write_eq_ok outcome
    exact .inr ⟨_, _, rfl, told, same.insert _ below⟩

theorem SameOn.makeDirectory :
    (∃ cause, first.makeDirectory path = .error cause ∧ second.makeDirectory path = .error cause) ∨
      ∃ made made', first.makeDirectory path = .ok made ∧ second.makeDirectory path = .ok made' ∧
        SameOn seen made made' := by
  have told : second.makeDirectory path =
      (first.makeDirectory path).map fun _ => second.insert path .directory := by
    unfold FileTree.makeDirectory FileTree.holds
    rw [same path (covers path along), same.hasRoom covers along, same.absence covers along]
    split
    · rfl
    · split <;> rfl
  cases outcome : first.makeDirectory path with
  | error cause =>
    rw [outcome] at told
    exact .inl ⟨cause, rfl, told⟩
  | ok made =>
    rw [outcome] at told
    obtain ⟨below, -, rfl⟩ := makeDirectory_eq_ok outcome
    exact .inr ⟨_, _, rfl, told, same.insert _ below⟩

end Operations

theorem find?_write_of_directory {bytes : List UInt8}
    (held : tree.find? directory = some .directory)
    (written : tree.write path bytes = .ok left) : left.find? directory = some .directory := by
  have different : directory ≠ path := by
    rintro rfl
    unfold write at written
    rw [held] at written
    cases written
  obtain ⟨below, rfl⟩ := write_eq_ok written
  rw [find?_insert tree path directory _ below, if_neg different, held]

/-! What one tree holds below a directory, set into another tree. -/

def graft (directory : Path) (tree left : FileTree) : FileTree :=
  ⟨(tree.entries.filter fun entry => !Path.isBelow directory entry.1) ++
    left.entries.filter fun entry => Path.isBelow directory entry.1⟩

theorem find?_graft (directory : Path) (tree left : FileTree) (path : Path) :
    (graft directory tree left).find? path =
      if Path.isBelow directory path then left.find? path else tree.find? path := by
  by_cases root : path = []
  · subst root
    have upper : ¬ Path.isBelow directory [] := Path.not_isBelow_of_prefix (List.nil_prefix)
    rw [if_neg upper, find?_root, find?_root]
  · have kept := lookup_filter (fun path => !Path.isBelow directory path) tree.entries path
    have set_in := lookup_filter (Path.isBelow directory) left.entries path
    simp only [find?, root, if_false, graft, List.lookup_append, kept, set_in]
    cases Path.isBelow directory path <;> simp

end FileTree

end StylesheetRunner
