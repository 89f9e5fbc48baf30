import StylesheetRunner.Proofs.Invocation.Provision

/-!
Calls on a workspace, one after the other. Every call has a file of its own: a write changes that
file and nothing else, or it is refused and changes nothing. So each file holds what was last
written to it, and the output that is read is the one that the processor left.
-/

namespace StylesheetRunner

inductive WorkspaceCall where
  | writeProgram (xslt : String)
  | writeInput
  | writeParameter (index : Nat) (value : String)
  | writeArguments (arguments : List String)
  | readOutput
deriving DecidableEq, Repr

inductive WorkspaceAnswer where
  /-- A file was written; the answer says where it is. -/
  | written (path : Path)
  | read (text : String)
  | refused (failure : Failure)
deriving DecidableEq, Repr

structure WorkspaceExchange where
  call : WorkspaceCall
  before : FileTree
  answer : WorkspaceAnswer
  behind : FileTree
deriving DecidableEq, Repr

namespace WorkspaceCall

def role : WorkspaceCall → FileRole
  | .writeProgram _ => .program
  | .writeInput => .input
  | .writeParameter .. => .parameter
  | .writeArguments _ => .argumentList
  | .readOutput => .output

def index? : WorkspaceCall → Option Nat
  | .writeParameter index _ => some index
  | _ => none

def name : WorkspaceCall → String
  | .writeProgram _ => "transform.xsl"
  | .writeInput => "input.xml"
  | .writeParameter index _ => parameterName index
  | .writeArguments _ => "args"
  | .readOutput => "result.xml"

def content? : WorkspaceCall → Option (List UInt8)
  | .writeProgram xslt => some (Text.Utf8.encode xslt.toList)
  | .writeInput => some (Text.Utf8.encode "<root/>".toList)
  | .writeParameter _ value => some (Text.Utf8.encode value.toList)
  | .writeArguments arguments =>
    some (Text.Utf8.encode (Text.joinLines (arguments.map String.toList)))
  | .readOutput => none

def write? (workspace : Workspace) : WorkspaceCall → Option FileWrite
  | .writeProgram xslt => some (workspace.programWrite xslt)
  | .writeInput => some workspace.inputWrite
  | .writeParameter index value => some (workspace.parameterWrite index value)
  | .writeArguments arguments => some (workspace.argumentsWrite arguments)
  | .readOutput => none

end WorkspaceCall

namespace Workspace

def perform (workspace : Workspace) (call : WorkspaceCall) (tree : FileTree) : WorkspaceExchange :=
  match call.write? workspace with
  | some write =>
    match write.perform tree with
    | .ok behind => ⟨call, tree, .written write.path, behind⟩
    | .error failure => ⟨call, tree, .refused failure, tree⟩
  | none =>
    match workspace.readOutput tree with
    | .ok text => ⟨call, tree, .read text, tree⟩
    | .error failure => ⟨call, tree, .refused failure, tree⟩

/-- The exchanges of some calls, each beginning with the files that the one before leaves. -/
def exchanges (workspace : Workspace) : List WorkspaceCall → FileTree → List WorkspaceExchange
  | [], _ => []
  | call :: later, tree =>
    workspace.perform call tree :: workspace.exchanges later (workspace.perform call tree).behind

def behind (workspace : Workspace) (calls : List WorkspaceCall) (tree : FileTree) : FileTree :=
  calls.foldl (fun tree call => (workspace.perform call tree).behind) tree

end Workspace

/-! Which file is whose. -/

section Files
variable {workspace : Workspace} {call first second : WorkspaceCall} {write : FileWrite}

/-- Two calls are about one file exactly if they are about one role and, where they are about
parameters, about one index. -/
theorem WorkspaceCall.name_inj :
    first.name = second.name ↔ first.role = second.role ∧ first.index? = second.index? := by
  have program {index : Nat} : parameterName index ≠ "transform.xsl" := parameterName_ne (by decide)
  have input {index : Nat} : parameterName index ≠ "input.xml" := parameterName_ne (by decide)
  have arguments {index : Nat} : parameterName index ≠ "args" := parameterName_ne (by decide)
  have output {index : Nat} : parameterName index ≠ "result.xml" := parameterName_ne (by decide)
  cases first <;> cases second <;>
    simp [name, role, index?, parameterName_inj, program, input, arguments, output, program.symm,
      input.symm, arguments.symm, output.symm]

theorem WorkspaceCall.name_ne_trace : call.name ≠ "trace.log" := by
  cases call with
  | writeParameter index value => exact parameterName_ne (by decide)
  | _ => simp [name]

theorem WorkspaceCall.write?_eq_some (asks : call.write? workspace = some write) :
    write.path = workspace.file call.name ∧ write.role = call.role ∧
      call.content? = some write.bytes := by
  cases call with
  | readOutput => cases asks
  | _ => cases asks; exact ⟨rfl, rfl, rfl⟩

theorem WorkspaceCall.write?_eq_none (asks : call.write? workspace = none) :
    call = .readOutput := by
  cases call with
  | readOutput => rfl
  | _ => cases asks

theorem WorkspaceCall.file_name_ne_outputPath (writes : call ≠ .readOutput) :
    workspace.file call.name ≠ workspace.outputPath := by
  intro same
  have roles := (@name_inj call .readOutput).mp (Workspace.file_inj.mp same)
  cases call with
  | readOutput => exact writes rfl
  | _ => cases roles.1

end Files

/-! One call. -/

namespace Workspace

inductive Serves (workspace : Workspace) (start : FileTree) : WorkspaceExchange → Prop
  | written {call : WorkspaceCall} {before behind : FileTree} {bytes : List UInt8}
      (content : call.content? = some bytes)
      (no_directory : before.isDirectory (workspace.file call.name) = false)
      (held : behind.find? (workspace.file call.name) = some (.file bytes))
      (elsewhere : ∀ path, path ≠ workspace.file call.name →
        behind.find? path = before.find? path) :
      Serves workspace start ⟨call, before, .written (workspace.file call.name), behind⟩
  /-- A write that is refused changes nothing and names the role of its file. In a workspace that
  stands it was a directory that stood in its place. -/
  | refused {call : WorkspaceCall} {before : FileTree} {bytes : List UInt8} {cause : IoError}
      (content : call.content? = some bytes)
      (blocked : before.find? workspace.directory = some .directory →
        before.isDirectory (workspace.file call.name) = true) :
      Serves workspace start ⟨call, before, .refused (.file call.role cause), before⟩
  | read {before : FileTree} {bytes : List UInt8}
      (left : start.find? workspace.outputPath = some (.file bytes)) :
      Serves workspace start
        ⟨.readOutput, before, .read (String.ofList (Text.Utf8.decodeLossy bytes)), before⟩
  | unread {before : FileTree} {cause : IoError}
      (nothing_left : ∀ bytes, start.find? workspace.outputPath ≠ some (.file bytes)) :
      Serves workspace start ⟨.readOutput, before, .refused (.file .output cause), before⟩

variable {workspace : Workspace} {start tree : FileTree}

theorem serves_perform (call : WorkspaceCall)
    (same_output : tree.find? workspace.outputPath = start.find? workspace.outputPath) :
    workspace.Serves start (workspace.perform call tree) := by
  unfold perform
  split
  next write asks =>
    obtain ⟨place, role, content⟩ := WorkspaceCall.write?_eq_some asks
    split
    next behind success =>
      have written := FileWrite.perform_eq_ok success
      obtain ⟨below, rfl⟩ := FileTree.write_eq_ok written
      rw [place] at below written ⊢
      refine .written content (FileTree.isDirectory_of_write written) ?_ fun path other => ?_
      · rw [FileTree.find?_insert tree _ _ _ below, if_pos rfl]
      · rw [FileTree.find?_insert tree _ _ _ below, if_neg other]
    next failure failed =>
      obtain ⟨cause, refused, rfl⟩ := FileWrite.write_of_perform_error failed
      rw [role]
      refine .refused content fun stands => ?_
      rw [place] at refused
      refine FileTree.isDirectory_of_write_error ?_ refused
      rwa [file, List.dropLast_concat]
  next asks =>
    obtain rfl := WorkspaceCall.write?_eq_none asks
    unfold readOutput
    cases found : tree.read workspace.outputPath with
    | ok bytes =>
      rw [FileTree.read_eq_ok_iff, same_output] at found
      exact .read found
    | error cause =>
      refine .unread fun bytes left => ?_
      rw [← same_output, ← FileTree.read_eq_ok_iff, found] at left
      cases left

theorem call_perform (call : WorkspaceCall) (tree : FileTree) :
    (workspace.perform call tree).call = call := by
  unfold perform
  split <;> split <;> rfl

theorem before_perform (call : WorkspaceCall) (tree : FileTree) :
    (workspace.perform call tree).before = tree := by
  unfold perform
  split <;> split <;> rfl

namespace Serves

variable {exchange : WorkspaceExchange} {path : Path}

theorem find?_of_written (serves : workspace.Serves start exchange)
    (written : exchange.answer = .written path) :
    path = workspace.file exchange.call.name ∧ exchange.call ≠ .readOutput ∧
      ∀ bytes, exchange.call.content? = some bytes →
        exchange.behind.find? path = some (.file bytes) := by
  cases serves with
  | @written call _ _ _ content no_directory held elsewhere =>
    cases written
    refine ⟨rfl, fun (reads : call = .readOutput) => ?_, fun bytes same => ?_⟩
    · rw [reads] at content
      cases content
    · rw [held, Option.some.inj (content.symm.trans same)]
  | _ => cases written

theorem find?_of_unwritten (serves : workspace.Serves start exchange)
    (other : exchange.answer ≠ .written path) :
    exchange.behind.find? path = exchange.before.find? path := by
  cases serves with
  | written content no_directory held elsewhere =>
    exact elsewhere path fun same => other (congrArg _ same.symm)
  | _ => rfl

theorem find?_outputPath (serves : workspace.Serves start exchange) :
    exchange.behind.find? workspace.outputPath = exchange.before.find? workspace.outputPath :=
  serves.find?_of_unwritten fun written =>
    have own := serves.find?_of_written written
    WorkspaceCall.file_name_ne_outputPath own.2.1 own.1.symm

end Serves

/-! Calls one after the other. -/

/-- In some exchanges bytes were written to a path, and nothing was written there behind. -/
def LastWritten (exchanges : List WorkspaceExchange) (path : Path) (bytes : List UInt8) : Prop :=
  ∃ earlier exchange later, exchanges = earlier ++ exchange :: later ∧
    exchange.answer = .written path ∧ exchange.call.content? = some bytes ∧
    ∀ other ∈ later, other.answer ≠ .written path

theorem map_call_exchanges (workspace : Workspace) (calls : List WorkspaceCall)
    (tree : FileTree) : (workspace.exchanges calls tree).map WorkspaceExchange.call = calls := by
  induction calls generalizing tree with
  | nil => rfl
  | cons call later ih => rw [exchanges, List.map_cons, call_perform, ih]

theorem serves_exchanges (calls : List WorkspaceCall)
    (same_output : tree.find? workspace.outputPath = start.find? workspace.outputPath) :
    ∀ exchange ∈ workspace.exchanges calls tree, workspace.Serves start exchange := by
  induction calls generalizing tree with
  | nil => exact nofun
  | cons call later ih =>
    have serves := serves_perform call same_output
    have kept := serves.find?_outputPath
    rw [before_perform] at kept
    exact List.forall_mem_cons.mpr ⟨serves, ih (kept.trans same_output)⟩

theorem find?_behind_of_unwritten {calls : List WorkspaceCall} {path : Path}
    (unwritten : ∀ exchange ∈ workspace.exchanges calls tree, exchange.answer ≠ .written path) :
    (workspace.behind calls tree).find? path = tree.find? path := by
  induction calls generalizing tree with
  | nil => rfl
  | cons call later ih =>
    obtain ⟨here, behind⟩ := List.forall_mem_cons.mp unwritten
    have serves : workspace.Serves tree (workspace.perform call tree) := serves_perform call rfl
    have kept := serves.find?_of_unwritten here
    rw [before_perform] at kept
    exact (ih behind).trans kept

theorem find?_behind_of_lastWritten {calls : List WorkspaceCall} {path : Path}
    {bytes : List UInt8} (last : LastWritten (workspace.exchanges calls tree) path bytes) :
    (workspace.behind calls tree).find? path = some (.file bytes) := by
  obtain ⟨earlier, exchange, later, split, written, content, unwritten⟩ := last
  induction calls generalizing tree earlier with
  | nil => exact absurd split.symm (by simp [exchanges])
  | cons call others ih =>
    cases earlier with
    | nil =>
      obtain ⟨rfl, rfl⟩ := List.cons.inj split
      have serves : workspace.Serves tree (workspace.perform call tree) := serves_perform call rfl
      exact (find?_behind_of_unwritten unwritten).trans
        ((serves.find?_of_written written).2.2 bytes content)
    | cons first earlier => exact ih earlier (List.cons.inj split).2

/-- **Calls on a workspace do not interfere.** Each call is served in its turn: a write changes its
own file only, a refused one nothing, and the output is read as the processor left it, which is how
it stood when the calls began. So behind all calls each path holds what was last written to it, or
what it held before them. Files of different roles, or of parameters with different indices, are
different files, and none that is written is the output or the trace. -/
theorem calls_do_not_interfere (workspace : Workspace) (calls : List WorkspaceCall)
    (tree : FileTree) :
    let exchanges := workspace.exchanges calls tree
    (exchanges.map WorkspaceExchange.call = calls ∧
      ∀ exchange ∈ exchanges, workspace.Serves tree exchange) ∧
    (∀ path,
      (∀ bytes, LastWritten exchanges path bytes →
        (workspace.behind calls tree).find? path = some (.file bytes)) ∧
      ((∀ exchange ∈ exchanges, exchange.answer ≠ .written path) →
        (workspace.behind calls tree).find? path = tree.find? path)) ∧
    (∀ first second : WorkspaceCall, workspace.file first.name = workspace.file second.name ↔
      first.role = second.role ∧ first.index? = second.index?) ∧
    ∀ call : WorkspaceCall, call ≠ .readOutput →
      workspace.file call.name ≠ workspace.outputPath ∧
      workspace.file call.name ≠ workspace.tracePath := by
  intro exchanges
  refine ⟨⟨map_call_exchanges workspace calls tree, serves_exchanges calls rfl⟩, fun path =>
    ⟨fun bytes => find?_behind_of_lastWritten, find?_behind_of_unwritten⟩, fun first second => ?_,
    fun call writes => ⟨?_, fun same => ?_⟩⟩
  · exact file_inj.trans WorkspaceCall.name_inj
  · exact WorkspaceCall.file_name_ne_outputPath writes
  · exact WorkspaceCall.name_ne_trace (file_inj.mp same)

/-- A directory stands in the place of one parameter, and the output is no text. The parameter whose
name begins with that of the other is written twice. -/
theorem calls_do_not_interfere_of_blocked_parameter :
    let workspace : Workspace := ⟨["xslt"]⟩
    let tree := ((FileTree.empty.insert ["xslt"] .directory).insert ["xslt", "param_1"]
      .directory).insert ["xslt", "result.xml"] (.file [0x3C, 0xFF])
    let calls : List WorkspaceCall :=
      [.writeParameter 11 "a", .writeParameter 1 "b", .readOutput, .writeParameter 11 "c",
        .writeParameter 1 "d"]
    (workspace.exchanges calls tree).map WorkspaceExchange.answer =
      [.written ["xslt", "param_11"], .refused (.file .parameter .isADirectory),
        .read "<\ufffd", .written ["xslt", "param_11"],
        .refused (.file .parameter .isADirectory)] ∧
    (workspace.behind calls tree).find? ["xslt", "param_11"] = some (.file [0x63]) ∧
    (workspace.behind calls tree).find? ["xslt", "param_1"] = some .directory := by
  intro workspace tree calls
  obtain ⟨-, held, -⟩ := calls_do_not_interfere workspace calls tree
  refine ⟨by decide, (held _).1 _ ?_, (held _).2 ?_⟩
  · exact ⟨_, _, _, List.take_append_drop 3 _ |>.symm, by decide, by decide, by decide⟩
  · decide

end Workspace

end StylesheetRunner
