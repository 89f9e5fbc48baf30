import StylesheetRunner.Workspace

/-!
What writing does to a file tree: a write that succeeds puts its bytes at its path, one into a
directory that stands fails where a directory is in its place only, and a row of writes stops at the
first that fails and names the role of that file.
-/

namespace StylesheetRunner

namespace FileTree

/-- A write that succeeds is at a place below the root and changes nothing but that place. -/
theorem write_eq_ok {tree written : FileTree} {path : Path} {bytes : List UInt8}
    (success : tree.write path bytes = .ok written) :
    path ≠ [] ∧ written = tree.insert path (.file bytes) := by
  unfold write at success
  split at success
  next held =>
    refine ⟨?_, (Except.ok.inj success).symm⟩
    rintro rfl
    rw [find?_root] at held
    cases held
  next => cases success
  next absent =>
    refine ⟨?_, ?_⟩
    · rintro rfl
      rw [find?_root] at absent
      cases absent
    · split at success
      next => exact (Except.ok.inj success).symm
      next => cases success

theorem read_of_write {tree written : FileTree} {path : Path} {bytes : List UInt8}
    (success : tree.write path bytes = .ok written) : written.read path = .ok bytes := by
  obtain ⟨below, rfl⟩ := write_eq_ok success
  unfold read
  rw [find?_insert tree path path _ below, if_pos rfl]

theorem isDirectory_of_write {tree written : FileTree} {path : Path} {bytes : List UInt8}
    (success : tree.write path bytes = .ok written) :
    tree.isDirectory path = false := by
  unfold write at success
  unfold isDirectory
  split at success
  next held => rw [held]
  next => cases success
  next nothing => rw [nothing]

/-- A write into a directory that stands fails only where a directory stands in its place. -/
theorem isDirectory_of_write_error {tree : FileTree} {path : Path} {bytes : List UInt8}
    {cause : IoError} (stands : tree.find? path.dropLast = some .directory)
    (failed : tree.write path bytes = .error cause) : tree.isDirectory path = true := by
  unfold write at failed
  split at failed
  next => cases failed
  next node no_file held =>
    unfold isDirectory
    rw [held]
    cases node with
    | file bytes => exact absurd rfl (no_file bytes)
    | _ => rfl
  next =>
    rw [hasRoom, stands] at failed
    cases failed

theorem read_eq_ok_iff {tree : FileTree} {path : Path} {bytes : List UInt8} :
    tree.read path = .ok bytes ↔ tree.find? path = some (.file bytes) := by
  unfold read
  split
  next held => simp [held]
  next node no_file held =>
    rw [held]
    exact iff_of_false nofun fun same => no_file bytes (Option.some.inj same)
  next nothing => simp [nothing]

theorem holdsAt_of_readAt {tree : FileTree} {directory : Path} {written : List Char}
    {bytes : List UInt8} (success : tree.readAt directory written = .ok bytes) :
    tree.holdsAt directory written = true := by
  unfold readAt at success
  unfold holdsAt
  cases located : tree.locate directory written with
  | error cause =>
    rw [located] at success
    cases success
  | ok path =>
    rw [located] at success
    have held : tree.find? path = some (.file bytes) := read_eq_ok_iff.mp success
    simp only [holds, held, Option.isSome_some]

end FileTree

namespace FileWrite

theorem perform_eq_ok {write : FileWrite} {tree written : FileTree}
    (success : write.perform tree = .ok written) :
    tree.write write.path write.bytes = .ok written := by
  unfold perform at success
  split at success
  next held => rw [held, Except.ok.inj success]
  next => cases success

theorem write_of_perform_error {write : FileWrite} {tree : FileTree} {failure : Failure}
    (failed : write.perform tree = .error failure) :
    ∃ cause, tree.write write.path write.bytes = .error cause ∧
      failure = .file write.role cause := by
  unfold perform at failed
  split at failed
  next => cases failed
  next cause refused => exact ⟨cause, refused, (Except.error.inj failed).symm⟩

theorem perform_eq_error {write : FileWrite} {tree : FileTree} {failure : Failure}
    (failed : write.perform tree = .error failure) : ∃ cause, failure = .file write.role cause := by
  obtain ⟨cause, -, same⟩ := write_of_perform_error failed
  exact ⟨cause, same⟩

/-- Two rows of writes are one: the second begins where the first has succeeded. -/
theorem performAll_append (first second : List FileWrite) (tree : FileTree) :
    performAll (first ++ second) tree =
      match performAll first tree with
      | (.ok (), tree) => performAll second tree
      | (.error failure, tree) => (.error failure, tree) := by
  induction first generalizing tree with
  | nil => rfl
  | cons write rest ih =>
    simp only [List.cons_append, performAll]
    cases write.perform tree with
    | ok written => exact ih written
    | error failure => rfl

theorem performAll_eq_error {writes : List FileWrite} {tree after : FileTree} {failure : Failure}
    (failed : performAll writes tree = (.error failure, after)) :
    ∃ write ∈ writes, ∃ cause, failure = .file write.role cause := by
  induction writes generalizing tree with
  | nil => cases failed
  | cons write rest ih =>
    unfold performAll at failed
    cases outcome : write.perform tree with
    | ok written =>
      simp only [outcome] at failed
      obtain ⟨other, member, cause, equal⟩ := ih failed
      exact ⟨other, List.mem_cons_of_mem _ member, cause, equal⟩
    | error refused =>
      simp only [outcome, Prod.mk.injEq, Except.error.injEq] at failed
      obtain ⟨cause, equal⟩ := perform_eq_error outcome
      exact ⟨write, List.mem_cons_self, cause, failed.1 ▸ equal⟩

theorem read_of_performAll {writes : List FileWrite} {last : FileWrite} {tree after : FileTree}
    (success : performAll (writes ++ [last]) tree = (.ok (), after)) :
    after.read last.path = .ok last.bytes := by
  rw [performAll_append] at success
  split at success
  next between _ =>
    simp only [performAll] at success
    cases outcome : last.perform between with
    | ok written =>
      simp only [outcome, Prod.mk.injEq, true_and] at success
      exact success ▸ FileTree.read_of_write (perform_eq_ok outcome)
    | error failure =>
      simp only [outcome, Prod.mk.injEq] at success
      cases success.1
  next => cases success

end FileWrite

end StylesheetRunner
