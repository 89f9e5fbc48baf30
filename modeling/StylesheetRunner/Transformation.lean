import StylesheetRunner.Invocation
import StylesheetRunner.Trace
import StylesheetRunner.Transformation.Result

/-!
One transformation from request to result: a fresh workspace, the files of the request, one launch
of the processor, its output and its trace. The workspace is gone afterwards, however it ends.
-/

namespace StylesheetRunner

inductive LaunchEnd where
  | finished (diagnostics : String) (elapsed : Duration)
  | failed (failure : Failure)
  | broken
deriving DecidableEq, Repr

/-- What runs commands: it is given the time left and the files, and may change the files. -/
abbrev Runner := Command → Duration → FileTree → LaunchEnd × FileTree

structure Launch where
  command : Command
  budget : Duration
  files : FileTree

inductive Ending where
  | answered (answer : Except Failure Result)
  | broken

/-- A finished transformation: how it ended, what was launched, and the files left. -/
structure Transformation where
  ending : Ending
  launches : List Launch
  files : FileTree

structure Transformer where
  processor : Processor
  deadline : Duration
  runner : Runner

/-- What a transformation meets: the place of its workspace and the time its preparation takes. -/
structure Circumstances where
  workspace : Path
  preparation : Duration
deriving DecidableEq, Repr

namespace Transformer

def ofConfiguration (configuration : Configuration) (runner : Runner) : Transformer :=
  ⟨configuration.processor, configuration.deadline, runner⟩

/-- The result record; a trace that was not asked for leaves its members empty. -/
def assemble (output : String) (elapsed : Duration) (trace : Option Trace) : Result where
  result := output
  durationMilliseconds := elapsed.cappedMilliseconds
  trace := (trace.map Trace.entries).getD []
  traceText := (trace.map Trace.transcript).getD ""

def collect (workspace : Workspace) (invocation : Invocation) (request : Request)
    (preparation : Duration) (diagnostics : String) (elapsed : Duration) (tree : FileTree) :
    Except Failure Result :=
  match workspace.readOutput tree with
  | .error failure => .error failure
  | .ok output =>
    let trace :=
      if request.trace then some (Trace.read (Trace.source tree invocation.traceFile diagnostics))
      else none
    .ok (assemble output (preparation + elapsed) trace)

def transform (transformer : Transformer) (circumstances : Circumstances) (request : Request)
    (tree : FileTree) : Transformation :=
  match Workspace.acquire circumstances.workspace tree with
  | .error failure => ⟨.answered (.error failure), [], tree⟩
  | .ok (workspace, tree) =>
    match Invocation.build transformer.processor workspace request tree with
    | (.error failure, tree) => ⟨.answered (.error failure), [], workspace.release tree⟩
    | (.ok invocation, tree) =>
      let budget := transformer.deadline.remaining circumstances.preparation
      let launch : Launch := ⟨invocation.command, budget, tree⟩
      match transformer.runner invocation.command budget tree with
      | (.broken, tree) => ⟨.broken, [launch], workspace.release tree⟩
      | (.failed failure, tree) =>
        ⟨.answered (.error failure), [launch], workspace.release tree⟩
      | (.finished diagnostics elapsed, tree) =>
        let answer :=
          collect workspace invocation request circumstances.preparation diagnostics elapsed tree
        ⟨.answered answer, [launch], workspace.release tree⟩

end Transformer

end StylesheetRunner
