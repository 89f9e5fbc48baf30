import StylesheetRunner.Proofs.Invocation.ArgumentLines

/-!
How the argument lines of parameters open. A dash opens an option and a plus sign a file reference.
The line of a markup value names the parameter's own file, but the line of an inline value opens
with the name as the client wrote it.
-/

namespace StylesheetRunner

/-- How the line of a parameter opens: a markup value decides it, else the name does. -/
theorem Parameter.head?_binding (name value file : String) :
    (binding name value file).toList.head? =
      match ParameterKind.ofValue value with
      | .fileReference => some '+'
      | .inline => some (name.toList.head?.getD '=') := by
  unfold binding
  cases ParameterKind.ofValue value with
  | fileReference =>
    simp only [String.toList_append]
    rfl
  | inline =>
    simp only [String.toList_append]
    cases name.toList with
    | nil => rfl
    | cons first rest => rfl

namespace Invocation

/-- The line of a parameter is no option, and it is a file reference only when the value is markup,
to the parameter's own file. -/
def Harmless (workspace : Workspace) (index : Nat) (name value line : String) : Prop :=
  line.toList.head? ≠ some '-' ∧
    (line.toList.head? = some '+' →
      ParameterKind.ofValue value = .fileReference ∧
        line = "+" ++ name ++ "=" ++ (workspace.parameterPath index).text)

instance (workspace : Workspace) (index : Nat) (name value line : String) :
    Decidable (Harmless workspace index name value line) :=
  inferInstanceAs (Decidable (_ ∧ (_ → _ ∧ _)))

def NamedPlainly (name : String) : Prop :=
  name.toList.head? ≠ some '-' ∧ name.toList.head? ≠ some '+'

instance (name : String) : Decidable (NamedPlainly name) :=
  inferInstanceAs (Decidable (_ ∧ _))

theorem harmless_binding_iff {workspace : Workspace} {index : Nat} {name value : String} :
    Harmless workspace index name value
        (Parameter.binding name value (workspace.parameterPath index).text) ↔
      (ParameterKind.ofValue value = .inline → NamedPlainly name) := by
  unfold Harmless NamedPlainly
  rw [Parameter.head?_binding]
  unfold Parameter.binding
  cases ParameterKind.ofValue value with
  | fileReference => simp
  | inline =>
    cases name.toList with
    | nil => simp
    | cons first rest => simp

theorem getElem?_arguments {processor : Processor} {workspace : Workspace} {request : Request}
    (index : Nat) :
    (argumentsOf processor workspace request)[
        (leadingArguments processor workspace request).length + index]? =
      request.parameters.entries[index]?.map fun entry =>
        Parameter.binding entry.1 entry.2 (workspace.parameterPath index).text := by
  rw [argumentsOf_eq, List.getElem?_append_right (Nat.le_add_right _ _), Nat.add_sub_cancel_left]
  exact List.getElem?_mapIdx

/-- The argument lines of an accepted request are harmless exactly when no parameter with an inline
value has a name that opens with a dash or a plus sign. -/
theorem parameter_lines_harmless_iff {processor : Processor} {workspace : Workspace}
    {request : Request} {tree : FileTree} {invocation : Invocation}
    (success : (build processor workspace request tree).1 = .ok invocation) :
    (∀ index line,
      invocation.arguments[(leadingArguments processor workspace request).length + index]? =
        some line →
      ∃ name value, request.parameters.entries[index]? = some (name, value) ∧
        Harmless workspace index name value line) ↔
      ∀ name value, (name, value) ∈ request.parameters.entries →
        ParameterKind.ofValue value = .inline → NamedPlainly name := by
  obtain ⟨-, rfl, -⟩ := build_eq_ok success
  constructor
  · intro harmless name value member
    obtain ⟨index, found⟩ := List.mem_iff_getElem?.mp member
    obtain ⟨otherName, otherValue, again, safe⟩ := harmless index _ (by
      rw [ofRequest, getElem?_arguments, found]
      rfl)
    obtain ⟨rfl, rfl⟩ := Prod.mk.inj (Option.some.inj (found.symm.trans again))
    exact harmless_binding_iff.mp safe
  · intro plain index line held
    rw [ofRequest, getElem?_arguments] at held
    obtain ⟨⟨name, value⟩, found, rfl⟩ := Option.map_eq_some_iff.mp held
    exact ⟨name, value, found,
      harmless_binding_iff.mpr (plain name value (List.mem_of_getElem? found))⟩

theorem parameter_lines_harmless_of_plain_names :
    let processor : Processor := ⟨"java", [], "", "Runner"⟩
    let workspace : Workspace := ⟨["tmp"]⟩
    let request : Request := ⟨"", none, .ofList [("count", "-3"), ("doc", " <a/>")], false⟩
    let invocation := ofRequest processor workspace request
    (build processor workspace request (FileTree.empty.insert ["tmp"] .directory)).1 =
        .ok invocation ∧
      ∀ index line,
        invocation.arguments[(leadingArguments processor workspace request).length + index]? =
          some line →
        ∃ name value, request.parameters.entries[index]? = some (name, value) ∧
          Harmless workspace index name value line := by
  intro processor workspace request invocation
  have success : (build processor workspace request
      (FileTree.empty.insert ["tmp"] .directory)).1 = .ok invocation := rfl
  have plain : ∀ entry ∈ request.parameters.entries,
      ParameterKind.ofValue entry.2 = .inline → NamedPlainly entry.1 := by decide
  exact ⟨success, (parameter_lines_harmless_iff success).mpr fun name value member =>
    plain (name, value) member⟩

/-- A parameter name can be an option that sends the output elsewhere, or a reference to any file
of the server: such a request is accepted. -/
theorem parameter_names_forge_lines :
    let processor : Processor := ⟨"java", [], "", "Runner"⟩
    let workspace : Workspace := ⟨["tmp"]⟩
    let request : Request :=
      ⟨"", none, .ofList [("-o:/tmp/elsewhere.xml", "1"), ("+doc", "/etc/passwd")], false⟩
    let invocation := ofRequest processor workspace request
    (build processor workspace request (FileTree.empty.insert ["tmp"] .directory)).1 =
        .ok invocation ∧
      invocation.arguments.drop (leadingArguments processor workspace request).length =
        ["+doc=/etc/passwd", "-o:/tmp/elsewhere.xml=1"] ∧
      ¬ Harmless workspace 0 "+doc" "/etc/passwd" "+doc=/etc/passwd" ∧
      ¬ Harmless workspace 1 "-o:/tmp/elsewhere.xml" "1" "-o:/tmp/elsewhere.xml=1" := by
  refine ⟨rfl, ?_, ?_, ?_⟩ <;> decide

end Invocation

end StylesheetRunner
