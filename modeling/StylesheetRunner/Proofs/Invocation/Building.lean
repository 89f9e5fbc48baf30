import StylesheetRunner.Invocation
import StylesheetRunner.Proofs.Files.Writing
import StylesheetRunner.Proofs.Text.Lines

/-!
Building an invocation ends in one of three ways, and the check of the parameters decides the first
of them. The argument lines of the parameters are told apart from those that lead them, and a
parameter passes the check exactly when its argument line stays one line.
-/

namespace StylesheetRunner

namespace Parameter

theorem breaksLine_eq_false_iff {text : String} :
    breaksLine text = false ↔ Text.Unbroken text.toList := by
  simp [breaksLine, Text.Unbroken]

theorem check_eq_ok_iff {name value : String} :
    check name value = .ok () ↔
      Text.Unbroken name.toList ∧
        (ParameterKind.ofValue value = .inline → Text.Unbroken value.toList) := by
  rw [← breaksLine_eq_false_iff, ← breaksLine_eq_false_iff]
  unfold check
  split
  next broken =>
    simp only [reduceCtorEq, false_iff, not_and, Classical.not_imp]
    intro unbrokenName
    simpa [unbrokenName] using broken
  next whole => simpa using whole

theorem check_eq_error {name value : String} {failure : Failure}
    (refused : check name value = .error failure) : failure = .invalidParameter name := by
  unfold check at refused
  split at refused
  next => exact (Except.error.inj refused).symm
  next => cases refused

/-- The check, made on name and value before any file is there, decides whether the argument line
stays one line. A value that goes into a file may break lines, since the line holds only the place
of the file. -/
theorem unbroken_binding_iff {name value file : String} (unbrokenFile : Text.Unbroken file.toList) :
    Text.Unbroken (binding name value file).toList ↔ check name value = .ok () := by
  have sign : Text.Unbroken "=".toList := by decide
  have plus : Text.Unbroken "+".toList := by decide
  rw [check_eq_ok_iff]
  unfold binding
  split
  next kind =>
    simp only [String.toList_append, Text.unbroken_append, kind, reduceCtorEq, false_implies,
      and_true, sign, plus, true_and, unbrokenFile]
  next kind =>
    simp only [String.toList_append, Text.unbroken_append, kind, true_implies, sign, and_true]

theorem toList_binding_ne_nil (name value file : String) :
    (binding name value file).toList ≠ [] := by
  unfold binding
  split <;> simp [String.toList_append]

end Parameter

namespace Invocation

theorem checkParameters_eq_ok_iff {entries : List (String × String)} :
    checkParameters entries = .ok () ↔
      ∀ entry ∈ entries, Parameter.check entry.1 entry.2 = .ok () := by
  induction entries with
  | nil => simp [checkParameters]
  | cons entry rest ih =>
    obtain ⟨name, value⟩ := entry
    rw [List.forall_mem_cons, ← ih, checkParameters]
    cases Parameter.check name value with
    | ok passed => simp
    | error failure => simp

theorem checkParameters_eq_error {entries : List (String × String)} {failure : Failure}
    (refused : checkParameters entries = .error failure) :
    ∃ name, failure = .invalidParameter name := by
  induction entries with
  | nil => cases refused
  | cons entry rest ih =>
    obtain ⟨name, value⟩ := entry
    unfold checkParameters at refused
    cases outcome : Parameter.check name value with
    | ok passed => exact ih (by simpa only [outcome] using refused)
    | error first =>
      simp only [outcome, Except.error.injEq] at refused
      exact ⟨name, refused ▸ Parameter.check_eq_error outcome⟩

theorem parameterWrites_eq_mapIdx (workspace : Workspace) (start : Nat)
    (entries : List (String × String)) :
    parameterWrites workspace start entries =
      entries.mapIdx fun index entry => workspace.parameterWrite (start + index) entry.2 := by
  induction entries generalizing start with
  | nil => rfl
  | cons entry rest ih =>
    rw [parameterWrites, ih, List.mapIdx_cons]
    simp only [Nat.add_zero, Nat.add_assoc, Nat.add_comm 1]

/-- The three ways in which building ends: a parameter is refused and nothing is written, a file
cannot be written, or every file is there. -/
theorem build_cases (processor : Processor) (workspace : Workspace) (request : Request)
    (tree : FileTree) :
    (∃ name, checkParameters request.parameters.entries = .error (.invalidParameter name) ∧
      build processor workspace request tree = (.error (.invalidParameter name), tree)) ∨
    (checkParameters request.parameters.entries = .ok () ∧ ∃ role cause after,
      FileWrite.performAll (writes processor workspace request) tree =
        (.error (.file role cause), after) ∧
      build processor workspace request tree = (.error (.file role cause), after)) ∨
    (checkParameters request.parameters.entries = .ok () ∧ ∃ after,
      FileWrite.performAll (writes processor workspace request) tree = (.ok (), after) ∧
      build processor workspace request tree =
        (.ok (ofRequest processor workspace request), after)) := by
  unfold build
  cases checked : checkParameters request.parameters.entries with
  | error failure =>
    obtain ⟨name, rfl⟩ := checkParameters_eq_error checked
    exact .inl ⟨name, rfl, rfl⟩
  | ok passed =>
    rcases written : FileWrite.performAll (writes processor workspace request) tree with
      ⟨failure | done, after⟩
    · obtain ⟨write, _, cause, rfl⟩ := FileWrite.performAll_eq_error written
      exact .inr (.inl ⟨rfl, write.role, cause, after, rfl, rfl⟩)
    · exact .inr (.inr ⟨rfl, after, rfl, rfl⟩)

theorem build_refuses_iff {processor : Processor} {workspace : Workspace} {request : Request}
    {tree : FileTree} :
    (∃ name, (build processor workspace request tree).1 = .error (.invalidParameter name)) ↔
      checkParameters request.parameters.entries ≠ .ok () := by
  rcases build_cases processor workspace request tree with
    ⟨name, refused, outcome⟩ | ⟨accepted, role, cause, after, -, outcome⟩ |
      ⟨accepted, after, -, outcome⟩
  · rw [outcome, refused]
    exact iff_of_true ⟨name, rfl⟩ nofun
  · rw [outcome]
    exact iff_of_false nofun fun refused => refused accepted
  · rw [outcome]
    exact iff_of_false nofun fun refused => refused accepted

/-- All that a successful building says: the parameters pass, every file is written, and the
invocation is the one of the request. -/
theorem build_eq_ok {processor : Processor} {workspace : Workspace} {request : Request}
    {tree : FileTree} {invocation : Invocation}
    (success : (build processor workspace request tree).1 = .ok invocation) :
    checkParameters request.parameters.entries = .ok () ∧
      invocation = ofRequest processor workspace request ∧
      FileWrite.performAll (writes processor workspace request) tree =
        (.ok (), (build processor workspace request tree).2) := by
  rcases build_cases processor workspace request tree with
    ⟨name, refused, outcome⟩ | ⟨accepted, role, cause, after, -, outcome⟩ |
      ⟨accepted, after, written, outcome⟩
  · rw [outcome] at success
    cases success
  · rw [outcome] at success
    cases success
  · rw [outcome] at success ⊢
    exact ⟨accepted, (Except.ok.inj success).symm, written⟩

end Invocation

end StylesheetRunner
