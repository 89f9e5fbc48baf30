import Mathlib.Data.List.Forall2
import StylesheetRunner.Proofs.Invocation.Obstacles

/-!
What building leaves in an empty workspace: the planned files and nothing else, arguments that keep
to their places, and a command that leads to them. The same request in another workspace leaves the
same, but for the places of files, and its version changes nothing at all.
-/

namespace StylesheetRunner

theorem Parameter.equals_mem_binding (name value file : String) :
    '=' ∈ (binding name value file).toList := by
  unfold binding
  split <;> simp [String.toList_append]

namespace Workspace
variable {workspace : Workspace}

theorem toList_text_file (workspace : Workspace) (name : String) :
    (workspace.file name).text.toList =
      (workspace.directory.flatMap fun passed => '/' :: passed.toList) ++ '/' :: name.toList := by
  rw [Path.toList_text file_ne_nil, file, List.flatMap_append, List.flatMap_singleton]

theorem text_file_inj {first second : String} :
    (workspace.file first).text = (workspace.file second).text ↔ first = second := by
  refine ⟨fun same => ?_, fun same => same ▸ rfl⟩
  have written := congrArg String.toList same
  rw [toList_text_file, toList_text_file, List.append_cancel_left_eq] at written
  exact String.toList_injective (List.cons.inj written).2

theorem isBelow_file (workspace : Workspace) (name : String) :
    Path.isBelow workspace.directory (workspace.file name) :=
  Path.isBelow_iff.mpr
    ⟨List.prefix_append _ _, fun same => directory_ne_file workspace name same.symm⟩

variable {files : List PlannedFile} {before after : FileTree}

theorem Gains.find?_eq_some_iff (gains : workspace.Gains files before after)
    (empty : workspace.HoldsOnly ∅ before) {name : String} {names : Path} {node : Node} :
    after.find? (workspace.file name ++ names) = some node ↔
      names = [] ∧ ∃ file ∈ files, file.name = name ∧ node = .file file.bytes := by
  constructor
  · intro held
    by_contra absent
    have apart : ∀ file ∈ files, workspace.file name ++ names ≠ workspace.file file.name := by
      intro file member same
      rw [Workspace.file, List.append_assoc] at same
      obtain ⟨rfl, rfl⟩ := List.cons.inj ((List.append_cancel_left_eq _ _ _).mp same)
      have own := gains.held file member
      rw [List.append_nil, own] at held
      exact absent ⟨rfl, file, member, rfl, (Option.some.inj held).symm⟩
    rw [gains.elsewhere _ apart, empty.nothing name (Set.notMem_empty name) names] at held
    cases held
  · rintro ⟨rfl, file, member, rfl, rfl⟩
    rw [List.append_nil]
    exact gains.held file member

theorem Gains.sameButBelow (gains : workspace.Gains files before after) :
    FileTree.SameButBelow workspace.directory before after := by
  intro path outside
  refine gains.elsewhere path fun file _ same => outside ?_
  exact same ▸ isBelow_file workspace file.name

end Workspace

/-- The same text, or the same opening in front of the place of the same file, once in each of two
workspaces. -/
inductive SameButPlace (here there : Workspace) : String → String → Prop
  | same (text : String) : SameButPlace here there text text
  | placed (opening name : String) : SameButPlace here there
      (opening ++ (here.file name).text) (opening ++ (there.file name).text)

namespace Invocation

/-- What a successful building leaves of an empty workspace, and the invocation that it gives. -/
structure IsImage (processor : Processor) (workspace : Workspace) (request : Request)
    (before : FileTree) (invocation : Invocation) (after : FileTree) : Prop where
  files : ∀ name names node, after.find? (workspace.file name ++ names) = some node ↔
    names = [] ∧ ∃ file ∈ request.plannedFiles invocation.arguments,
      file.name = name ∧ node = .file file.bytes
  elsewhere : FileTree.SameButBelow workspace.directory before after
  arguments : invocation.arguments =
    baseArguments processor workspace ++
      (if request.trace then traceArguments workspace else []) ++
      parameterLines workspace request.parameters
  flags : traceArguments workspace <+:
    invocation.arguments.drop (baseArguments processor workspace).length ↔ request.trace = true
  traceFile : invocation.traceFile =
    if request.trace then some (workspace.file "trace.log") else none
  trace_named : ∀ file, invocation.traceFile = some file →
    invocation.arguments[(baseArguments processor workspace).length + 1]? =
      some ("-traceout:" ++ file.text)
  references : ∀ index name value, request.parameters.entries[index]? = some (name, value) →
    ParameterKind.ofValue value = .fileReference → ∀ other,
      (parameterLines workspace request.parameters)[index]? =
        some ("+" ++ name ++ "=" ++ (workspace.file (parameterName other)).text) ↔ other = index
  argumentsFile : invocation.argumentsFile = workspace.file "args"
  outputFile : invocation.outputFile = workspace.file "result.xml"
  command : invocation.command =
    { program := processor.program
      arguments := processor.launcherArguments ++ ["@" ++ (workspace.file "args").text]
      directory := workspace.directory }

structure SameButWorkspace (here there : Workspace) (first second : Invocation)
    (left right : FileTree) : Prop where
  files : ∀ name ≠ "args", ∀ names,
    right.find? (there.file name ++ names) = left.find? (here.file name ++ names)
  arguments : List.Forall₂ (SameButPlace here there) first.arguments second.arguments
  program : second.command.program = first.command.program
  commandArguments :
    List.Forall₂ (SameButPlace here there) first.command.arguments second.command.arguments

variable {processor : Processor} {workspace : Workspace} {request : Request}
  {tree before after : FileTree}

/-- The flags for a trace are there exactly if it is asked for: what a parameter puts in their place
has an equals sign. -/
theorem flags_prefix_iff :
    traceArguments workspace <+:
        (argumentsOf processor workspace request).drop (baseArguments processor workspace).length ↔
      request.trace = true := by
  rw [argumentsOf_eq, leadingArguments, List.append_assoc, List.drop_left]
  cases request.trace with
  | true => exact iff_of_true (List.prefix_append _ _) rfl
  | false =>
    refine iff_of_false (fun flags => ?_) Bool.false_ne_true
    have first : "-trace" ∈ parameterLines workspace request.parameters :=
      flags.subset List.mem_cons_self
    have signs : ∀ line ∈ parameterLines workspace request.parameters, '=' ∈ line.toList :=
      forall_parameterLines.mpr fun _ name value _ => Parameter.equals_mem_binding name value _
    exact absurd (signs _ first) (by decide)

theorem reference_iff {index other : Nat} {name value : String}
    (found : request.parameters.entries[index]? = some (name, value))
    (markup : ParameterKind.ofValue value = .fileReference) :
    (parameterLines workspace request.parameters)[index]? =
        some ("+" ++ name ++ "=" ++ (workspace.file (parameterName other)).text) ↔
      other = index := by
  have line : (parameterLines workspace request.parameters)[index]? =
      some ("+" ++ name ++ "=" ++ (workspace.file (parameterName index)).text) := by
    simp only [parameterLines, List.getElem?_mapIdx, found, Option.map_some, Parameter.binding,
      markup]
    rfl
  rw [line, Option.some.injEq, String.append_right_inj, Workspace.text_file_inj, parameterName_inj]
  exact eq_comm

theorem getElem?_traceFlag (traced : request.trace = true) :
    (argumentsOf processor workspace request)[
        (baseArguments processor workspace).length + 1]? =
      some ("-traceout:" ++ (workspace.file "trace.log").text) := by
  rw [argumentsOf_eq, leadingArguments, traced, List.append_assoc,
    List.getElem?_append_right (Nat.le_add_right _ _), Nat.add_sub_cancel_left]
  rfl

theorem traceFlag_of_traceFile {file : Path}
    (named : (ofRequest processor workspace request).traceFile = some file) :
    (argumentsOf processor workspace request)[
        (baseArguments processor workspace).length + 1]? = some ("-traceout:" ++ file.text) := by
  cases traced : request.trace with
  | false => simp [ofRequest, traced] at named
  | true =>
    obtain rfl : workspace.tracePath = file := by simpa [ofRequest, traced] using named
    exact getElem?_traceFlag traced

theorem isImage_of_gains (empty : workspace.HoldsOnly ∅ before)
    (gains : workspace.Gains
      (request.plannedFiles (argumentsOf processor workspace request)) before after) :
    IsImage processor workspace request before (ofRequest processor workspace request) after where
  files := fun _ _ _ => gains.find?_eq_some_iff empty
  elsewhere := gains.sameButBelow
  arguments := argumentsOf_eq processor workspace request
  flags := flags_prefix_iff
  traceFile := rfl
  trace_named := fun _ named => traceFlag_of_traceFile named
  references := fun _ _ _ found markup _ => reference_iff found markup
  argumentsFile := rfl
  outputFile := rfl
  command := rfl

section Elsewhere
variable {here there : Workspace}

theorem sameButPlace_binding (name value file : String) :
    SameButPlace here there (Parameter.binding name value (here.file file).text)
      (Parameter.binding name value (there.file file).text) := by
  unfold Parameter.binding
  cases ParameterKind.ofValue value with
  | fileReference => exact .placed _ _
  | inline => exact .same _

/-- In another workspace the arguments of a request are the same but for the places of files. -/
theorem sameButPlace_arguments (processor : Processor) (here there : Workspace)
    (request : Request) :
    List.Forall₂ (SameButPlace here there) (argumentsOf processor here request)
      (argumentsOf processor there request) := by
  have base : List.Forall₂ (SameButPlace here there) (baseArguments processor here)
      (baseArguments processor there) :=
    .cons (.same _) (.cons (.same _) (.cons (.same _) (.cons (.placed _ _) (.cons (.placed _ _)
      (.cons (.placed _ _) .nil)))))
  have flags : List.Forall₂ (SameButPlace here there)
      (if request.trace then traceArguments here else [])
      (if request.trace then traceArguments there else []) := by
    cases request.trace with
    | false => exact .nil
    | true => exact .cons (.same _) (.cons (.placed _ _) (.cons (.same _) .nil))
  have lines : List.Forall₂ (SameButPlace here there) (parameterLines here request.parameters)
      (parameterLines there request.parameters) := by
    refine List.forall₂_iff_get.mpr ⟨by simp [parameterLines], fun index _ _ => ?_⟩
    simp only [parameterLines, List.get_eq_getElem, List.getElem_mapIdx]
    exact sameButPlace_binding _ _ _
  rw [argumentsOf_eq, argumentsOf_eq]
  exact List.rel_append (List.rel_append base flags) lines

end Elsewhere

/-- **The image of a request.** In an empty workspace a request whose parameters all pass the check
is built. The workspace then holds exactly its files with all their bytes, the arguments and the
command lead to these, and the same request with any version leaves the same in another empty
workspace, but for the workspace. -/
theorem build_leaves_image (processor : Processor) {workspace : Workspace} {request : Request}
    {tree : FileTree} (empty : workspace.HoldsOnly ∅ tree)
    (accepted : checkParameters request.parameters.entries = .ok ()) :
    ∃ invocation after, build processor workspace request tree = (.ok invocation, after) ∧
      IsImage processor workspace request tree invocation after ∧
      ∀ (version : Option String) (there : Workspace) (tree' : FileTree),
        there.HoldsOnly ∅ tree' → ∃ invocation' after',
          build processor there { request with version } tree' = (.ok invocation', after') ∧
          IsImage processor there { request with version } tree' invocation' after' ∧
          SameButWorkspace workspace there invocation invocation' after after' := by
  have built {workspace : Workspace} {tree : FileTree} (version : Option String)
      (empty : workspace.HoldsOnly ∅ tree) :
      ∃ after, build processor workspace { request with version } tree =
          (.ok (ofRequest processor workspace request), after) ∧
        IsImage processor workspace { request with version } tree
          (ofRequest processor workspace request) after := by
    have accepted_version : checkParameters
        ({ request with version } : Request).parameters.entries = .ok () := accepted
    obtain ⟨after, done, gains⟩ := build_of_free processor empty accepted_version fun file _ =>
      Set.notMem_empty file.name
    exact ⟨after, done, isImage_of_gains empty gains⟩
  obtain ⟨after, done, image⟩ := built request.version empty
  refine ⟨_, after, done, image, fun version there tree' empty' => ?_⟩
  obtain ⟨after', done', image'⟩ := built version empty'
  refine ⟨_, after', done', image', ⟨fun name other names => ?_, ?_, rfl, ?_⟩⟩
  · refine Option.ext fun node => ?_
    rw [image'.files, image.files]
    refine and_congr_right fun _ => exists_congr fun file => and_congr_left fun found => ?_
    exact Request.mem_plannedFiles_iff (found.1 ▸ other) _ _
  · exact sameButPlace_arguments processor workspace there request
  · exact List.rel_append (List.forall₂_same.mpr fun text _ => .same text)
      (.cons (.placed _ _) .nil)

/-- A document behind a number, with a trace, in two workspaces and for two versions. -/
theorem build_leaves_image_of_two_workspaces :
    let processor : Processor := ⟨"java", ["-Xmx128m"], "/opt/saxon/*", "Runner"⟩
    let here : Workspace := ⟨["xslt1"]⟩
    let there : Workspace := ⟨["xslt2"]⟩
    let tree := FileTree.empty.insert ["xslt1"] .directory
    let tree' := FileTree.empty.insert ["xslt2"] .directory
    let request : Request :=
      ⟨"<xsl/>", some "2.0", .ofList [("doc", " <a/>"), ("count", "3")], true⟩
    here.HoldsOnly ∅ tree ∧ there.HoldsOnly ∅ tree' ∧
      checkParameters request.parameters.entries = .ok () ∧
      ∃ invocation after invocation' after',
        build processor here request tree = (.ok invocation, after) ∧
        build processor there { request with version := none } tree' =
          (.ok invocation', after') ∧
        invocation.arguments.drop 6 = ["-trace", "-traceout:/xslt1/trace.log", "-T", "count=3",
          "+doc=/xslt1/param_1"] ∧
        invocation'.arguments.getLast? = some "+doc=/xslt2/param_1" ∧
        after.find? ["xslt1", "param_1"] = some (.file (Workspace.bytesOf " <a/>")) ∧
        after'.find? ["xslt2", "param_1"] = after.find? ["xslt1", "param_1"] := by
  intro processor here there tree tree' request
  have empty_here : here.HoldsOnly ∅ tree := Workspace.holdsOnly_of_acquire
    FileTree.isGrounded_empty (rfl : Workspace.acquire ["xslt1"] .empty = .ok (here, tree))
  have empty_there : there.HoldsOnly ∅ tree' := Workspace.holdsOnly_of_acquire
    FileTree.isGrounded_empty (rfl : Workspace.acquire ["xslt2"] .empty = .ok (there, tree'))
  have accepted : checkParameters request.parameters.entries = .ok () := by decide
  obtain ⟨invocation, after, done, image, again⟩ :=
    build_leaves_image processor empty_here accepted
  obtain ⟨invocation', after', done', image', same⟩ := again none there tree' empty_there
  have document : after.find? ["xslt1", "param_1"] =
      some (.file (Workspace.bytesOf " <a/>")) :=
    (image.files "param_1" [] _).mpr ⟨rfl, ⟨"param_1", .parameter, Workspace.bytesOf " <a/>"⟩,
      List.mem_append_left _ (by decide), rfl, rfl⟩
  refine ⟨empty_here, empty_there, accepted, invocation, after, invocation', after', done, done',
    ?_, ?_, document, same.files "param_1" (by decide) []⟩
  · rw [image.arguments]
    decide
  · rw [image'.arguments]
    decide

end Invocation

end StylesheetRunner
