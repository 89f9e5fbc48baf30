import StylesheetRunner.Proofs.Invocation.Building
import StylesheetRunner.Proofs.Text.Utf8

/-!
The argument lines that the processor reads. Each parameter gives one line and no parameter can add,
split, merge or drop one; but the name of an inline parameter opens its line, so a name that opens
like an option or a file reference makes the line one.
-/

namespace StylesheetRunner

theorem Path.toList_text {path : Path} (nonempty : path ≠ []) :
    path.text.toList = path.flatMap fun name => '/' :: name.toList := by
  unfold Path.text
  split
  next => exact absurd rfl nonempty
  next =>
    rw [String.toList_join, List.flatMap_map]
    simp only [String.toList_append]
    rfl

namespace Workspace

/-- Files of a workspace are written on one line when its directory and their names are. -/
theorem unbroken_file {workspace : Workspace} {name : String}
    (unbroken : Text.Unbroken workspace.directory.text.toList)
    (unbrokenName : Text.Unbroken name.toList) :
    Text.Unbroken (workspace.file name).text.toList := by
  obtain ⟨directory⟩ := workspace
  unfold file
  rw [Path.toList_text (by simp), List.flatMap_append, List.flatMap_singleton,
    Text.unbroken_append]
  refine ⟨?_, List.forall_mem_cons.mpr ⟨by decide, unbrokenName⟩⟩
  cases directory with
  | nil =>
    intro character member
    cases member
  | cons passed rest =>
    rw [Path.toList_text (List.cons_ne_nil passed rest)] at unbroken
    exact unbroken

theorem unbroken_parameterPath {workspace : Workspace} (index : Nat)
    (unbroken : Text.Unbroken workspace.directory.text.toList) :
    Text.Unbroken (workspace.parameterPath index).text.toList := by
  refine unbroken_file unbroken ?_
  rw [String.toList_append, Text.unbroken_append]
  refine ⟨by decide, fun character member => ?_⟩
  rw [String.toList_ofList] at member
  have digit := Nat.isDigit_of_mem_toDigits (show 0 < 10 by decide) (by decide) member
  constructor
  · rintro rfl
    cases digit
  · rintro rfl
    cases digit

end Workspace

namespace Invocation

/-- The arguments in front of the parameters: the base arguments and, for a trace, its flags. -/
def leadingArguments (processor : Processor) (workspace : Workspace) (request : Request) :
    List String :=
  baseArguments processor workspace ++ if request.trace then traceArguments workspace else []

def parameterLines (workspace : Workspace) (parameters : TextMap) : List String :=
  parameters.entries.mapIdx fun index entry =>
    Parameter.binding entry.1 entry.2 (workspace.parameterPath index).text

theorem bindings_eq_mapIdx (workspace : Workspace) (start : Nat)
    (entries : List (String × String)) :
    bindings workspace start entries = entries.mapIdx fun index entry =>
      Parameter.binding entry.1 entry.2 (workspace.parameterPath (start + index)).text := by
  induction entries generalizing start with
  | nil => rfl
  | cons entry rest ih =>
    rw [bindings, ih, List.mapIdx_cons]
    simp only [Nat.add_zero, Nat.add_assoc, Nat.add_comm 1]

theorem argumentsOf_eq (processor : Processor) (workspace : Workspace) (request : Request) :
    argumentsOf processor workspace request =
      leadingArguments processor workspace request ++
        parameterLines workspace request.parameters := by
  unfold argumentsOf leadingArguments parameterLines
  rw [bindings_eq_mapIdx]
  simp only [Nat.zero_add]

theorem forall_parameterLines {workspace : Workspace} {parameters : TextMap}
    {property : String → Prop} :
    (∀ line ∈ parameterLines workspace parameters, property line) ↔
      ∀ index name value, parameters.entries[index]? = some (name, value) →
        property (Parameter.binding name value (workspace.parameterPath index).text) := by
  constructor
  · intro all index name value found
    obtain ⟨bound, equal⟩ := List.getElem?_eq_some_iff.mp found
    refine all _ (List.mem_mapIdx.mpr ⟨index, bound, ?_⟩)
    simp only [equal]
  · intro all line member
    obtain ⟨index, bound, rfl⟩ := List.mem_mapIdx.mp member
    exact all index _ _ (List.getElem?_eq_getElem bound)

theorem unbroken_parameterLines_iff {workspace : Workspace} {parameters : TextMap}
    (unbroken : Text.Unbroken workspace.directory.text.toList) :
    (∀ line ∈ parameterLines workspace parameters, Text.Unbroken line.toList) ↔
      checkParameters parameters.entries = .ok () := by
  have decided (index : Nat) (name value : String) :
      Text.Unbroken
          (Parameter.binding name value (workspace.parameterPath index).text).toList ↔
        Parameter.check name value = .ok () :=
    Parameter.unbroken_binding_iff (Workspace.unbroken_parameterPath index unbroken)
  rw [forall_parameterLines, checkParameters_eq_ok_iff]
  simp only [decided]
  constructor
  · intro all entry member
    obtain ⟨index, found⟩ := List.mem_iff_getElem?.mp member
    exact all index _ _ found
  · intro all index name value found
    exact all _ (List.mem_of_getElem? found)

/-- The last argument is a line of its own: a parameter's line, the last flag or the output. -/
theorem last_argument {processor : Processor} {workspace : Workspace} {request : Request}
    (unbroken : Text.Unbroken workspace.directory.text.toList)
    (accepted : checkParameters request.parameters.entries = .ok ()) :
    ∃ last, (argumentsOf processor workspace request).getLast? = some last ∧
      Text.Unbroken last.toList ∧ last.toList ≠ [] := by
  rw [argumentsOf_eq, List.getLast?_append]
  cases found : (parameterLines workspace request.parameters).getLast? with
  | some line =>
    have member := List.mem_of_getLast? found
    have nonempty : ∀ line ∈ parameterLines workspace request.parameters, line.toList ≠ [] :=
      forall_parameterLines.mpr fun _ name value _ => Parameter.toList_binding_ne_nil name value _
    exact ⟨line, rfl, (unbroken_parameterLines_iff unbroken).mpr accepted line member,
      nonempty line member⟩
  | none =>
    unfold leadingArguments
    cases request.trace with
    | true => exact ⟨"-T", rfl, by decide, by decide⟩
    | false =>
      refine ⟨"-o:" ++ workspace.outputPath.text, rfl, ?_, ?_⟩
      · rw [String.toList_append, Text.unbroken_append]
        exact ⟨by decide, Workspace.unbroken_file unbroken (by decide)⟩
      · rw [String.toList_append]
        exact List.cons_ne_nil _ _

/-- Whatever the leading arguments are, the lines of the parameters stand behind the lines of the
leading arguments, one for each parameter. -/
theorem terminatedLines_argumentsOf {processor : Processor} {workspace : Workspace}
    {request : Request} (unbroken : Text.Unbroken workspace.directory.text.toList)
    (accepted : checkParameters request.parameters.entries = .ok ()) :
    Text.terminatedLines
        (Text.joinLines ((argumentsOf processor workspace request).map String.toList)) =
      ((leadingArguments processor workspace request).map String.toList).flatMap
          Text.linesOfPiece ++
        (parameterLines workspace request.parameters).map String.toList := by
  obtain ⟨last, ends, unbrokenLast, nonempty⟩ := last_argument unbroken accepted
  have endsInText := congrArg (Option.map String.toList) ends
  rw [← List.getLast?_map] at endsInText
  have single : ∀ line ∈ (parameterLines workspace request.parameters).map String.toList,
      Text.Unbroken line :=
    List.forall_mem_map.mpr ((unbroken_parameterLines_iff unbroken).mpr accepted)
  rw [Text.terminatedLines_joinLines endsInText unbrokenLast nonempty, argumentsOf_eq,
    List.map_append, List.flatMap_append, Text.flatMap_linesOfPiece single]

/-- Building refuses a request exactly when the argument line of some parameter would break. When
it succeeds, the written file, read as lines, holds the lines of the leading arguments, whatever
they are, and then one line for each parameter in ascending order of the names. -/
theorem build_keeps_argument_lines (processor : Processor) (workspace : Workspace)
    (request : Request) (tree : FileTree)
    (unbroken : Text.Unbroken workspace.directory.text.toList) :
    ((∃ name, (build processor workspace request tree).1 = .error (.invalidParameter name)) ↔
      ∃ index name value, request.parameters.entries[index]? = some (name, value) ∧
        ¬ Text.Unbroken
          (Parameter.binding name value (workspace.parameterPath index).text).toList) ∧
    ∀ invocation, (build processor workspace request tree).1 = .ok invocation →
      ∃ bytes text,
        (build processor workspace request tree).2.read workspace.argumentsPath = .ok bytes ∧
        Text.Utf8.decode? bytes = some text ∧
        Text.terminatedLines text =
          ((leadingArguments processor workspace request).map String.toList).flatMap
              Text.linesOfPiece ++
            (parameterLines workspace request.parameters).map String.toList := by
  constructor
  · rw [build_refuses_iff, ne_eq, ← unbroken_parameterLines_iff unbroken, forall_parameterLines]
    simp only [Classical.not_forall, exists_prop]
  · intro invocation success
    obtain ⟨accepted, -, written⟩ := build_eq_ok success
    exact ⟨_, _, FileWrite.read_of_performAll written, Text.Utf8.decode?_encode _,
      terminatedLines_argumentsOf unbroken accepted⟩

/-- A class path that breaks lines, and a document whose blanks do, before and after building. -/
theorem build_keeps_argument_lines_of_broken_classpath :
    let processor : Processor := ⟨"java", [], "/opt/a\r/opt/b", "Runner"⟩
    let workspace : Workspace := ⟨["tmp"]⟩
    let request : Request := ⟨"", none, .ofList [("p", "v"), ("doc", "\r\n<a/>")], true⟩
    let outcome := build processor workspace request (FileTree.empty.insert ["tmp"] .directory)
    Text.Unbroken workspace.directory.text.toList ∧
      outcome.1 = .ok (ofRequest processor workspace request) ∧
      ∃ bytes text, outcome.2.read workspace.argumentsPath = .ok bytes ∧
        Text.Utf8.decode? bytes = some text ∧
        Text.terminatedLines text =
          ["-cp", "/opt/a", "/opt/b", "Runner", "-s:/tmp/input.xml", "-xsl:/tmp/transform.xsl",
            "-o:/tmp/result.xml", "-trace", "-traceout:/tmp/trace.log", "-T",
            "+doc=/tmp/param_0", "p=v"].map String.toList := by
  intro processor workspace request outcome
  have unbroken : Text.Unbroken workspace.directory.text.toList := by decide
  have success : outcome.1 = .ok (ofRequest processor workspace request) := rfl
  obtain ⟨bytes, text, held, decoded, lines⟩ :=
    (build_keeps_argument_lines processor workspace request _ unbroken).2 _ success
  refine ⟨unbroken, success, bytes, text, held, decoded, lines.trans ?_⟩
  decide

end Invocation

end StylesheetRunner
