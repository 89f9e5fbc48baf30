import StylesheetRunner.Proofs.Files.Writing

/-!
Changes that stay inside a directory. Such changes may follow one another, and removing the
directory undoes them all: nothing is left inside, and outside all is as it was.
-/

namespace StylesheetRunner

theorem Path.isWithin_iff {directory path : Path} : isWithin directory path ↔ directory <+: path :=
  List.isPrefixOf_iff_prefix

theorem Path.isWithin_append (directory names : Path) : isWithin directory (directory ++ names) :=
  isWithin_iff.mpr (List.prefix_append directory names)

namespace FileTree

def SameOutside (directory : Path) (first second : FileTree) : Prop :=
  ∀ path, ¬ Path.isWithin directory path → second.find? path = first.find? path

theorem SameOutside.refl (directory : Path) (tree : FileTree) : SameOutside directory tree tree :=
  fun _ _ => rfl

theorem SameOutside.trans {directory : Path} {first second third : FileTree}
    (earlier : SameOutside directory first second) (later : SameOutside directory second third) :
    SameOutside directory first third :=
  fun path outside => (later path outside).trans (earlier path outside)

theorem sameOutside_insert {directory path : Path} (tree : FileTree) (node : Node)
    (below : path ≠ []) (within : Path.isWithin directory path) :
    SameOutside directory tree (tree.insert path node) := by
  intro other outside
  have different : other ≠ path := fun same => outside (same ▸ within)
  rw [find?_insert tree path other node below, if_neg different]

theorem sameOutside_write {tree written : FileTree} {directory path : Path} {bytes : List UInt8}
    (within : Path.isWithin directory path) (success : tree.write path bytes = .ok written) :
    SameOutside directory tree written := by
  obtain ⟨below, rfl⟩ := write_eq_ok success
  exact sameOutside_insert tree _ below within

theorem makeDirectory_eq_ok {tree made : FileTree} {path : Path}
    (success : tree.makeDirectory path = .ok made) :
    path ≠ [] ∧ tree.find? path = none ∧ made = tree.insert path .directory := by
  unfold makeDirectory at success
  split at success
  next => cases success
  next free =>
    have nothing : tree.find? path = none := by simpa [holds] using free
    split at success
    next =>
      refine ⟨?_, nothing, (Except.ok.inj success).symm⟩
      rintro rfl
      rw [find?_root] at nothing
      cases nothing
    next => cases success

theorem find?_remove (tree : FileTree) {directory : Path} (below : directory ≠ []) (path : Path) :
    (tree.remove directory).find? path =
      if Path.isWithin directory path then none else tree.find? path := by
  by_cases root : path = []
  · subst root
    have outside : ¬ Path.isWithin directory [] := by
      rw [Path.isWithin_iff, List.prefix_nil]
      exact below
    rw [if_neg outside, find?_root, find?_root]
  · have kept := lookup_filter (fun path => !Path.isWithin directory path) tree.entries path
    simp only [find?, root, if_false, remove, kept]
    cases Path.isWithin directory path <;> simp

end FileTree

end StylesheetRunner
