import StylesheetRunner.Duration
import StylesheetRunner.Failure
import StylesheetRunner.Text.Utf8

/-!
Watching over a running program. Its end and the deadline race each other; whichever is seen first
decides. After its end the diagnostics are still gathered, but no longer than the deadline allows,
because another program may keep their stream open.
-/

namespace StylesheetRunner

inductive ProcessEvent where
  | diagnostics (bytes : List UInt8)
  | diagnosticsClosed
  | exited (succeeded : Bool)
  | deadlineReached
deriving DecidableEq, Repr

inductive RunVerdict where
  | succeeded (diagnostics : List UInt8)
  | failed (diagnostics : List UInt8)
  | timedOut
deriving DecidableEq, Repr

/-- A run between two events. Pieces of the diagnostics are held newest first. -/
inductive Supervision where
  | running (pieces : List (List UInt8)) (isClosed : Bool)
  | draining (pieces : List (List UInt8)) (succeeded : Bool)
  | over (verdict : RunVerdict)
deriving DecidableEq, Repr

namespace Supervision

def start : Supervision := .running [] false

def verdict (pieces : List (List UInt8)) (succeeded : Bool) : RunVerdict :=
  let diagnostics := pieces.reverse.flatten
  if succeeded then .succeeded diagnostics else .failed diagnostics

def step : Supervision → ProcessEvent → Supervision
  | .running pieces isClosed, event =>
    match event with
    | .diagnostics bytes =>
      if isClosed then .running pieces true else .running (bytes :: pieces) false
    | .diagnosticsClosed => .running pieces true
    | .exited succeeded =>
      if isClosed then .over (verdict pieces succeeded) else .draining pieces succeeded
    | .deadlineReached => .over .timedOut
  | .draining pieces succeeded, event =>
    match event with
    | .diagnostics bytes => .draining (bytes :: pieces) succeeded
    | .diagnosticsClosed => .over (verdict pieces succeeded)
    | .exited _ => .draining pieces succeeded
    | .deadlineReached => .over (verdict pieces succeeded)
  | .over verdict, _ => .over verdict

def run? (events : List ProcessEvent) : Option RunVerdict :=
  match events.foldl step start with
  | .over verdict => some verdict
  | _ => none

end Supervision

def RunVerdict.answer (deadline : Duration) : RunVerdict → Except Failure String
  | .succeeded diagnostics => .ok (String.ofList (Text.Utf8.decodeLossy diagnostics))
  | .failed diagnostics => .error (.process (String.ofList (Text.Utf8.decodeLossy diagnostics)))
  | .timedOut => .error (.timeout deadline)

end StylesheetRunner
