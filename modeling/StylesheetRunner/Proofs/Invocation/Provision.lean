import Mathlib.Data.List.Nodup
import Mathlib.Data.Set.Insert
import StylesheetRunner.Proofs.Files.Agreement
import StylesheetRunner.Proofs.Invocation.ArgumentLines
import StylesheetRunner.Proofs.Text.Numeral

/-!
The files that a request needs in its workspace, each with its name, its role and its bytes, and
what becomes of a row of them where directories stand in the way of some: the files in front of the
first that is blocked are there, and nothing else has changed.
-/

namespace StylesheetRunner

structure PlannedFile where
  name : String
  role : FileRole
  bytes : List UInt8
deriving DecidableEq, Repr

def PlannedFile.write (workspace : Workspace) (file : PlannedFile) : FileWrite :=
  ⟨file.role, workspace.file file.name, file.bytes⟩

def parameterName (index : Nat) : String :=
  "param_" ++ String.ofList (Text.naturalText index)

/-- The files of a request in the order in which they are written: the stylesheet, the input, the
values of the parameters in ascending order of the names, and the arguments, one on each line. -/
def Request.plannedFiles (request : Request) (arguments : List String) : List PlannedFile :=
  [⟨"transform.xsl", .program, Workspace.bytesOf request.xslt⟩,
    ⟨"input.xml", .input, Workspace.bytesOf "<root/>"⟩] ++
  (request.parameters.entries.mapIdx fun index entry =>
    ⟨parameterName index, .parameter, Workspace.bytesOf entry.2⟩) ++
  [⟨"args", .argumentList, Text.Utf8.encode (Text.joinLines (arguments.map String.toList))⟩]

namespace Workspace

structure HoldsOnly (workspace : Workspace) (blocked : Set String) (tree : FileTree) : Prop where
  stands : tree.find? workspace.directory = some .directory
  directories : ∀ name ∈ blocked, tree.isDirectory (workspace.file name) = true
  nothing : ∀ name ∉ blocked, ∀ names, tree.find? (workspace.file name ++ names) = none

/-- One tree becomes another when files are put into a workspace, each with its bytes, and all else
stays as it was. -/
structure Gains (workspace : Workspace) (files : List PlannedFile) (before after : FileTree) :
    Prop where
  held : ∀ file ∈ files, after.find? (workspace.file file.name) = some (.file file.bytes)
  elsewhere : ∀ path, (∀ file ∈ files, path ≠ workspace.file file.name) →
    after.find? path = before.find? path

end Workspace

theorem parameterName_inj {first second : Nat} :
    parameterName first = parameterName second ↔ first = second := by
  refine ⟨fun same => ?_, fun same => same ▸ rfl⟩
  have numerals : Text.naturalText first = Text.naturalText second :=
    String.ofList_inj.mp ((String.append_right_inj _).mp same)
  have values := congrArg (fun text => Nat.ofDigitChars 10 text 0) numerals
  simpa only [Text.naturalText, Nat.ofDigitChars_toDigits (b := 10) (by decide) (by decide)]
    using values

theorem toList_parameterName (index : Nat) :
    (parameterName index).toList = "param_".toList ++ Text.naturalText index := by
  unfold parameterName
  rw [String.toList_append]
  exact congrArg _ String.toList_ofList

theorem parameterName_ne {index : Nat} {name : String} (other : name.toList.head? ≠ some 'p') :
    parameterName index ≠ name := by
  rintro rfl
  rw [toList_parameterName] at other
  exact other rfl

theorem Workspace.file_inj {workspace : Workspace} {first second : String} :
    workspace.file first = workspace.file second ↔ first = second := by
  simp only [file, List.append_cancel_left_eq, List.cons.injEq, and_true]

theorem Workspace.file_ne_nil {workspace : Workspace} {name : String} :
    workspace.file name ≠ [] := by
  simp [file]

theorem Workspace.directory_ne_file (workspace : Workspace) (name : String) :
    workspace.directory ≠ workspace.file name := by
  simp [file]

section Names
variable {request : Request} {arguments : List String}

theorem Request.mem_plannedFiles_iff {file : PlannedFile} (other : file.name ≠ "args")
    (arguments arguments' : List String) :
    file ∈ request.plannedFiles arguments ↔ file ∈ request.plannedFiles arguments' := by
  have absent (bytes : List UInt8) : file ∉ [⟨"args", .argumentList, bytes⟩] := by
    intro member
    rw [List.mem_singleton.mp member] at other
    exact other rfl
  simp only [plannedFiles, List.mem_append, absent, or_false]

theorem Request.map_name_plannedFiles :
    (request.plannedFiles arguments).map PlannedFile.name =
      ["transform.xsl", "input.xml"] ++
        (List.range request.parameters.size).map parameterName ++ ["args"] := by
  have parameters : (request.parameters.entries.mapIdx fun index entry =>
      (⟨parameterName index, .parameter, Workspace.bytesOf entry.2⟩ : PlannedFile)).map
        PlannedFile.name = (List.range request.parameters.size).map parameterName := by
    refine List.ext_getElem (by simp [TextMap.size]) fun index _ _ => ?_
    simp
  simp only [plannedFiles, List.map_append, parameters]
  rfl

theorem Request.nodup_plannedNames (request : Request) (arguments : List String) :
    ((request.plannedFiles arguments).map PlannedFile.name).Nodup := by
  have parameters : ((List.range request.parameters.size).map parameterName).Nodup :=
    List.Nodup.map (fun _ _ same => parameterName_inj.mp same) List.nodup_range
  have apart {name : String} (other : name.toList.head? ≠ some 'p') :
      name ∉ (List.range request.parameters.size).map parameterName := by
    intro member
    obtain ⟨index, -, same⟩ := List.mem_map.mp member
    exact parameterName_ne other same
  rw [map_name_plannedFiles, List.nodup_append, List.nodup_append]
  refine ⟨⟨by decide, parameters, ?_⟩, List.nodup_singleton _, ?_⟩
  · rintro first fixed _ numbered rfl
    rcases List.mem_pair.mp fixed with rfl | rfl
    · exact apart (by decide) numbered
    · exact apart (by decide) numbered
  · rintro first member _ last rfl
    obtain rfl := List.mem_singleton.mp last
    rcases List.mem_append.mp member with fixed | numbered
    · exact absurd fixed (by decide)
    · exact apart (by decide) numbered

end Names

theorem Invocation.writes_eq (processor : Processor) (workspace : Workspace) (request : Request) :
    writes processor workspace request =
      (request.plannedFiles (argumentsOf processor workspace request)).map
        (PlannedFile.write workspace) := by
  have parameters : parameterWrites workspace 0 request.parameters.entries =
      (request.parameters.entries.mapIdx fun index entry =>
        (⟨parameterName index, .parameter, Workspace.bytesOf entry.2⟩ : PlannedFile)).map
          (PlannedFile.write workspace) := by
    rw [parameterWrites_eq_mapIdx]
    refine List.ext_getElem (by simp) fun index _ _ => ?_
    simp only [List.getElem_mapIdx, List.getElem_map, Nat.zero_add]
    rfl
  rw [writes, parameters, Request.plannedFiles, List.map_append, List.map_append]
  rfl

namespace Workspace

variable {workspace : Workspace} {blocked : Set String} {tree before after : FileTree}
  {file : PlannedFile} {files : List PlannedFile}

/-- A workspace is empty when it is acquired, in a tree where nothing stands below what is not
there. -/
theorem holdsOnly_of_acquire {place : Path} (grounded : tree.IsGrounded)
    (acquired : acquire place tree = .ok (workspace, after)) : workspace.HoldsOnly ∅ after := by
  unfold acquire at acquired
  split at acquired
  next made success =>
    cases acquired
    obtain ⟨below, free, rfl⟩ := FileTree.makeDirectory_eq_ok success
    refine ⟨?_, nofun, fun name _ names => ?_⟩
    · rw [FileTree.find?_insert tree place place _ below, if_pos rfl]
    · have deeper : (⟨place⟩ : Workspace).file name ++ names ≠ place := by simp [file]
      rw [FileTree.find?_insert tree place _ _ below, if_neg deeper, file, List.append_assoc]
      exact grounded place _ free
  next => cases acquired

theorem HoldsOnly.insert_directory (fresh : workspace.HoldsOnly blocked tree) (name : String) :
    workspace.HoldsOnly (insert name blocked) (tree.insert (workspace.file name) .directory) := by
  have inserted (path : Path) := FileTree.find?_insert tree (workspace.file name) path .directory
    file_ne_nil
  refine ⟨?_, fun other member => ?_, fun other absent names => ?_⟩
  · rw [inserted, if_neg (directory_ne_file workspace name), fresh.stands]
  · unfold FileTree.isDirectory
    by_cases same : other = name
    · rw [inserted, if_pos (same ▸ rfl)]
    · rw [inserted, if_neg fun equal => same (file_inj.mp equal)]
      exact fresh.directories other (member.resolve_left same)
  · rw [Set.mem_insert_iff, not_or] at absent
    have different : workspace.file other ++ names ≠ workspace.file name := by
      intro same
      have first := (List.append_cancel_left_eq _ _ _).mp
        ((List.append_assoc _ _ _).symm.trans same)
      exact absent.1 (List.cons.inj first).1
    rw [inserted, if_neg different, fresh.nothing other absent.2 names]

theorem HoldsOnly.find?_eq_none (fresh : workspace.HoldsOnly blocked tree) {name : String}
    (absent : name ∉ blocked) : tree.find? (workspace.file name) = none := by
  have nothing := fresh.nothing name absent []
  rwa [List.append_nil] at nothing

theorem HoldsOnly.isFile_eq_false (fresh : workspace.HoldsOnly blocked tree) (name : String) :
    tree.isFile (workspace.file name) = false := by
  unfold FileTree.isFile
  by_cases here : name ∈ blocked
  · have directory := fresh.directories name here
    unfold FileTree.isDirectory at directory
    split at directory
    next held => rw [held]
    next held => rw [held]
    next => cases directory
  · rw [fresh.find?_eq_none here]

theorem Gains.refl (workspace : Workspace) (tree : FileTree) : workspace.Gains [] tree tree :=
  ⟨nofun, fun _ _ => rfl⟩

theorem Gains.cons (other : ∀ later ∈ files, later.name ≠ file.name)
    (gains : workspace.Gains files
      (before.insert (workspace.file file.name) (.file file.bytes)) after) :
    workspace.Gains (file :: files) before after := by
  have inserted (path : Path) := FileTree.find?_insert before (workspace.file file.name) path
    (.file file.bytes) file_ne_nil
  refine ⟨List.forall_mem_cons.mpr ⟨?_, gains.held⟩, fun path apart => ?_⟩
  · rw [gains.elsewhere _ fun later member same => other later member (file_inj.mp same).symm,
      inserted, if_pos rfl]
  · obtain ⟨here, later⟩ := List.forall_mem_cons.mp apart
    rw [gains.elsewhere path later, inserted, if_neg here]

theorem perform_of_free (stands : tree.find? workspace.directory = some .directory)
    (free : tree.find? (workspace.file file.name) = none) :
    (file.write workspace).perform tree =
      .ok (tree.insert (workspace.file file.name) (.file file.bytes)) := by
  have room : tree.hasRoom (workspace.file file.name) = true := by
    unfold FileTree.hasRoom Workspace.file
    rw [List.dropLast_concat, stands]
    rfl
  simp only [FileWrite.perform, FileTree.write, PlannedFile.write, free, room, if_true]

theorem perform_of_directory (directory : tree.isDirectory (workspace.file file.name) = true) :
    (file.write workspace).perform tree = .error (.file file.role .isADirectory) := by
  unfold FileTree.isDirectory at directory
  unfold FileWrite.perform FileTree.write PlannedFile.write
  dsimp only
  split at directory
  next held => rw [held]
  next held => rw [held]
  next => cases directory

/-- A row of files at names where nothing is are all put there, and the row goes on behind them. -/
theorem performAll_of_free (stands : tree.find? workspace.directory = some .directory)
    (free : ∀ file ∈ files, tree.find? (workspace.file file.name) = none)
    (distinct : (files.map PlannedFile.name).Nodup) :
    ∃ after, workspace.Gains files tree after ∧ ∀ rest,
      FileWrite.performAll (files.map (PlannedFile.write workspace) ++ rest) tree =
        FileWrite.performAll rest after := by
  induction files generalizing tree with
  | nil => exact ⟨tree, .refl workspace tree, fun _ => rfl⟩
  | cons file later ih =>
    obtain ⟨free_here, free_later⟩ := List.forall_mem_cons.mp free
    obtain ⟨absent, distinct_later⟩ := List.nodup_cons.mp distinct
    have other : ∀ next ∈ later, next.name ≠ file.name := fun next member same =>
      absent (List.mem_map.mpr ⟨next, member, same⟩)
    have inserted (path : Path) := FileTree.find?_insert tree (workspace.file file.name) path
      (.file file.bytes) file_ne_nil
    have stands_then : (tree.insert (workspace.file file.name) (.file file.bytes)).find?
        workspace.directory = some .directory := by
      rw [inserted, if_neg (directory_ne_file workspace file.name), stands]
    have free_then : ∀ next ∈ later, (tree.insert (workspace.file file.name)
        (.file file.bytes)).find? (workspace.file next.name) = none := by
      intro next member
      rw [inserted, if_neg fun same => other next member (file_inj.mp same)]
      exact free_later next member
    obtain ⟨after, gains, goes_on⟩ := ih stands_then free_then distinct_later
    refine ⟨after, .cons other gains, fun rest => ?_⟩
    rw [List.map_cons, List.cons_append, FileWrite.performAll, perform_of_free stands free_here]
    exact goes_on rest

end Workspace

end StylesheetRunner
