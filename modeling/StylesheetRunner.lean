import StylesheetRunner.Main
import StylesheetRunner.Proofs.Concurrency.Isolation
import StylesheetRunner.Proofs.History.Views
import StylesheetRunner.Proofs.Http.Admission
import StylesheetRunner.Proofs.Http.Isolation
import StylesheetRunner.Proofs.Http.RowPaths
import StylesheetRunner.Proofs.Invocation.LineOpenings
import StylesheetRunner.Proofs.Process.Returns
import StylesheetRunner.Proofs.Text.Utf8
import StylesheetRunner.Proofs.Trace.Transcript
import StylesheetRunner.Proofs.Trace.Writing
import StylesheetRunner.Proofs.Transformation.Cleanup
import StylesheetRunner.Proofs.Transformation.Outcome
import StylesheetRunner.Proofs.History.Runs
import StylesheetRunner.Proofs.Json.Texts
import StylesheetRunner.Proofs.Json.Numbers
import StylesheetRunner.Proofs.Json.Skipping
import StylesheetRunner.Proofs.Json.Reading
import StylesheetRunner.Proofs.Json.Records
import StylesheetRunner.Proofs.Records.Schemas
import StylesheetRunner.Proofs.Records.RoundTrip
import StylesheetRunner.Proofs.Http.TransformAnswers
import StylesheetRunner.Proofs.Configuration.Layers
import StylesheetRunner.Proofs.Transformation.Deadline
import StylesheetRunner.Proofs.Http.BodyLimit
import StylesheetRunner.Proofs.Http.Effects
import StylesheetRunner.Proofs.CommandLine.OneShot
import StylesheetRunner.Proofs.CommandLine.Words
import StylesheetRunner.Proofs.Json.Spelling
import StylesheetRunner.Proofs.CommandLine.Agreement
import StylesheetRunner.Proofs.Invocation.Obstacles
import StylesheetRunner.Proofs.Invocation.Image
import StylesheetRunner.Proofs.Invocation.InlineLines
import StylesheetRunner.Proofs.Http.ErrorAnswers
import StylesheetRunner.Proofs.Invocation.Provision
import StylesheetRunner.Proofs.Http.Credentials
import StylesheetRunner.Proofs.Trace.Cleaning
import StylesheetRunner.Proofs.Trace.Composition
import StylesheetRunner.Proofs.Text.Quoting
import StylesheetRunner.Proofs.Workspace.Calls
import StylesheetRunner.Proofs.Json.Refusals
import StylesheetRunner.Proofs.Configuration.Ports
