import StylesheetRunner.CommandLine.Run
import StylesheetRunner.Proofs.Configuration.Variables
import StylesheetRunner.Proofs.Duration
import StylesheetRunner.Proofs.Records.RoundTrip

/-!
The layers of the settings: the command line, the environment, the file, and the defaults where
there is no file. Each setting comes from the first layer that says something about it, and a layer
that says it badly does not say it. The settings are checked twice, below the command line and with
it.
-/

namespace StylesheetRunner

attribute [ext] HistorySettings Configuration

/-- Of three layers the first that says something prevails; the lowest always does. -/
inductive Prevails {α : Type} (above : Option α) (between : α → Prop) (below : α) : α → Prop
  | above {value : α} (said : above = some value) : Prevails above between below value
  | between {value : α} (silent : above = none) (said : between value) :
      Prevails above between below value
  | below (silent : above = none) (silent_between : ∀ value, ¬ between value) :
      Prevails above between below below

theorem prevails_iff {α : Type} {above said : Option α} {between : α → Prop} {below value : α}
    (tells : ∀ value, between value ↔ said = some value) :
    Prevails above between below value ↔ value = above.getD (said.getD below) := by
  constructor
  · rintro (said_above | ⟨silent, said_between⟩ | ⟨silent, silent_between⟩)
    · rw [said_above, Option.getD_some]
    · rw [silent, (tells value).mp said_between, Option.getD_none, Option.getD_some]
    · have none_said : said = none :=
        Option.eq_none_iff_forall_ne_some.mpr fun value found =>
          silent_between value ((tells value).mpr found)
      rw [silent, none_said, Option.getD_none, Option.getD_none]
  · rintro rfl
    cases above with
    | some value => exact .above rfl
    | none =>
      cases said with
      | some value => exact .between rfl ((tells value).mpr rfl)
      | none => exact .below rfl fun value found => nomatch (tells value).mp found

namespace Configuration

def withOptions (settings : Configuration) (port : Option UInt16) (timeout : Option Duration) :
    Configuration :=
  { settings with
    port := port.getD settings.port
    timeoutMilliseconds :=
      (timeout.map Duration.cappedMilliseconds).getD settings.timeoutMilliseconds }

/-- Settings that come from the command line, the environment and the settings of a file, each from
the first of them that says it. -/
structure Layered (port : Option UInt16) (timeout : Option Duration) (environment : Environment)
    (file settings : Configuration) : Prop where
  port : Prevails port (fun value => environment.Names "PORT" Text.portLimit value.toNat)
    file.port settings.port
  timeout : Prevails (timeout.map Duration.cappedMilliseconds)
    (fun value => environment.Names "XSLT_TIMEOUT_MS" Text.wordLimit value.toNat)
    file.timeoutMilliseconds settings.timeoutMilliseconds
  classpath : Prevails none (fun value => environment.Sets "SAXON_CLASSPATH" value ∧ value ≠ "")
    file.classpath settings.classpath
  launcher : Prevails none (fun value => environment.Sets "JAVA_BIN" value ∧ value ≠ "")
    file.launcher settings.launcher
  history_enabled : Prevails none (environment.Decides "PLAYGROUND_PRO")
    file.history.enabled settings.history.enabled
  others : settings.launcherArguments = file.launcherArguments ∧
    settings.entryPoint = file.entryPoint ∧ settings.bodyLimit = file.bodyLimit ∧
    settings.history.tokens = file.history.tokens

structure Usable (settings : Configuration) : Prop where
  some_time : 0 < settings.timeoutMilliseconds
  launcher_shown : ∃ character ∈ settings.launcher.toList, Text.isBlank character = false
  some_body : 0 < settings.bodyLimit
  some_token : settings.history.enabled = true → settings.history.tokens.entries ≠ []

inductive Held (tree : FileTree) (directory : Path) (path : String) : Configuration → Prop
  | missing (absent : tree.holdsAt directory path.toList = false) : Held tree directory path default
  | table {bytes : List UInt8} {characters : List Char} {settings : Configuration}
      (present : tree.holdsAt directory path.toList = true)
      (holds : tree.readAt directory path.toList = .ok bytes)
      (decoded : Text.Utf8.decode? bytes = some characters) (named : namesTable path = true)
      (parsed : ofTable? characters = some settings) : Held tree directory path settings
  | object {bytes : List UInt8} {characters : List Char} {settings : Configuration}
      (present : tree.holdsAt directory path.toList = true)
      (holds : tree.readAt directory path.toList = .ok bytes)
      (decoded : Text.Utf8.decode? bytes = some characters) (named : namesTable path = false)
      (parsed : read bytes = .ok settings) : Held tree directory path settings

section Layers

variable {port : Option UInt16} {timeout : Option Duration} {environment : Environment}
  {file settings : Configuration}

theorem port_override : (file.override environment).port =
    ((environment.number? "PORT" Text.portLimit).map UInt16.ofNat).getD file.port := by
  unfold override Environment.number? portOfText
  cases environment.text? "PORT" with
  | none => rfl
  | some text =>
    cases read : Text.readNatural Text.portLimit (Text.trim text.toList) <;>
      simp [read, Except.map, Except.toOption]

theorem timeoutMilliseconds_override : (file.override environment).timeoutMilliseconds =
    ((environment.number? "XSLT_TIMEOUT_MS" Text.wordLimit).map UInt64.ofNat).getD
      file.timeoutMilliseconds := by
  unfold override Environment.number?
  cases environment.text? "XSLT_TIMEOUT_MS" with
  | none => rfl
  | some text =>
    cases read : Text.readNatural Text.wordLimit (Text.trim text.toList) <;>
      simp [read, Except.toOption]

theorem enabled_override : (file.override environment).history.enabled =
    ((environment.text? "PLAYGROUND_PRO").map fun text =>
      equalsIgnoringCase "true" (Text.trim text.toList)).getD file.history.enabled := by
  unfold override
  cases environment.text? "PLAYGROUND_PRO" <;> rfl

theorem tokens_override :
    (file.override environment).history.tokens = file.history.tokens := by
  unfold override
  cases environment.text? "PLAYGROUND_PRO" <;> rfl

/-- The layers determine the settings: those of the file, overridden by the environment and then by
the command line. -/
theorem layered_iff : Layered port timeout environment file settings ↔
    settings = (file.override environment).withOptions port timeout := by
  constructor
  · intro layered
    have port_eq : settings.port = port.getD (file.override environment).port := by
      rw [port_override]
      exact (prevails_iff fun _ => Environment.names_port_iff).mp layered.port
    have timeout_eq : settings.timeoutMilliseconds =
        (timeout.map Duration.cappedMilliseconds).getD
          (file.override environment).timeoutMilliseconds := by
      rw [timeoutMilliseconds_override]
      exact (prevails_iff fun _ => Environment.names_word_iff).mp layered.timeout
    have classpath_eq : settings.classpath = (file.override environment).classpath :=
      (prevails_iff fun _ => Environment.nonempty?_eq_some_iff.symm).mp layered.classpath
    have launcher_eq : settings.launcher = (file.override environment).launcher :=
      (prevails_iff fun _ => Environment.nonempty?_eq_some_iff.symm).mp layered.launcher
    have enabled_eq : settings.history.enabled = (file.override environment).history.enabled := by
      rw [enabled_override]
      exact (prevails_iff fun _ => Environment.decides_iff).mp layered.history_enabled
    obtain ⟨arguments_eq, entry_eq, body_eq, tokens_same⟩ := layered.others
    have tokens_eq : settings.history.tokens = (file.override environment).history.tokens :=
      tokens_same.trans tokens_override.symm
    exact Configuration.ext port_eq classpath_eq launcher_eq arguments_eq entry_eq timeout_eq
      body_eq (HistorySettings.ext enabled_eq tokens_eq)
  · rintro rfl
    refine ⟨?_, ?_, ?_, ?_, ?_, rfl, rfl, rfl, tokens_override⟩
    · rw [prevails_iff fun _ => Environment.names_port_iff, ← port_override]
      rfl
    · rw [prevails_iff fun _ => Environment.names_word_iff, ← timeoutMilliseconds_override]
      rfl
    · exact (prevails_iff fun _ => Environment.nonempty?_eq_some_iff.symm).mpr rfl
    · exact (prevails_iff fun _ => Environment.nonempty?_eq_some_iff.symm).mpr rfl
    · rw [prevails_iff fun _ => Environment.decides_iff, Option.getD_none, ← enabled_override]
      rfl

end Layers

/-! The checks. -/

section Checks

variable {file settings loaded : Configuration} {environment : Environment} {tree : FileTree}
  {directory : Path} {path : String}

theorem validate_eq_ok_iff : settings.validate = .ok () ↔ settings.Usable := by
  have shown : Text.trim settings.launcher.toList ≠ [] ↔
      ∃ character ∈ settings.launcher.toList, Text.isBlank character = false := by
    rw [Ne, Text.trim_eq_nil_iff]
    simp
  constructor
  · intro accepted
    unfold validate at accepted
    split at accepted
    next => cases accepted
    next some_time =>
      split at accepted
      next => cases accepted
      next launcher =>
        split at accepted
        next => cases accepted
        next some_body =>
          split at accepted
          next => cases accepted
          next tokens =>
            exact ⟨UInt64.pos_iff_ne_zero.mpr some_time, shown.mp launcher,
              UInt64.pos_iff_ne_zero.mpr some_body, fun enabled none => tokens ⟨enabled, none⟩⟩
  · rintro ⟨some_time, launcher, some_body, tokens⟩
    unfold validate
    rw [if_neg (UInt64.pos_iff_ne_zero.mp some_time), if_neg (shown.mpr launcher),
      if_neg (UInt64.pos_iff_ne_zero.mp some_body), if_neg fun both => tokens both.1 both.2]

theorem ofFileText_eq_ok_iff {bytes : List UInt8} : ofFileText path bytes = .ok settings ↔
    ∃ characters, Text.Utf8.decode? bytes = some characters ∧
      ((namesTable path = true ∧ ofTable? characters = some settings) ∨
        (namesTable path = false ∧ read bytes = .ok settings)) := by
  unfold ofFileText
  cases Text.Utf8.decode? bytes with
  | none => simp
  | some characters =>
    cases namesTable path with
    | true => cases parsed : ofTable? characters <;> simp [parsed]
    | false => cases read bytes <;> simp

theorem held_iff : Held tree directory path file ↔
    ∃ held, loadFile tree directory path = .ok held ∧ file = held.getD default := by
  unfold loadFile
  constructor
  · rintro (absent | ⟨present, holds, decoded, named, parsed⟩ |
      ⟨present, holds, decoded, named, parsed⟩)
    · exact ⟨none, by rw [absent]; rfl, rfl⟩
    · have read := ofFileText_eq_ok_iff.mpr ⟨_, decoded, .inl ⟨named, parsed⟩⟩
      exact ⟨some file, by rw [if_pos present, holds]; simp only [read, Except.map], rfl⟩
    · have read := ofFileText_eq_ok_iff.mpr ⟨_, decoded, .inr ⟨named, parsed⟩⟩
      exact ⟨some file, by rw [if_pos present, holds]; simp only [read, Except.map], rfl⟩
  · rintro ⟨held, loaded, rfl⟩
    split at loaded
    next present =>
      split at loaded
      next => cases loaded
      next bytes holds =>
        cases read : ofFileText path bytes with
        | error fault =>
          rw [read] at loaded
          cases loaded
        | ok settings =>
          rw [read] at loaded
          cases loaded
          obtain ⟨characters, decoded, ⟨named, parsed⟩ | ⟨named, parsed⟩⟩ :=
            ofFileText_eq_ok_iff.mp read
          · exact .table present holds decoded named parsed
          · exact .object present holds decoded named parsed
    next absent =>
      cases loaded
      exact .missing (by simpa using absent)

theorem load_eq_ok_iff : load tree directory path environment = .ok loaded ↔
    ∃ file, Held tree directory path file ∧ loaded = file.override environment ∧
      loaded.Usable := by
  unfold load
  simp only [held_iff, ← validate_eq_ok_iff, bind, Except.bind, pure, Except.pure]
  constructor
  · intro accepted
    split at accepted
    next => cases accepted
    next held read =>
      split at accepted
      next => cases accepted
      next checked =>
        cases accepted
        exact ⟨_, ⟨held, read, rfl⟩, rfl, checked⟩
  · rintro ⟨file, ⟨held, read, rfl⟩, rfl, checked⟩
    simp only [read, checked]

theorem Held.unique {other : Configuration} (held : Held tree directory path file)
    (held_other : Held tree directory path other) : file = other := by
  obtain ⟨first, loaded, rfl⟩ := held_iff.mp held
  obtain ⟨second, loaded_other, rfl⟩ := held_iff.mp held_other
  rw [Except.ok.inj (loaded.symm.trans loaded_other)]

theorem usable_withOptions_iff (usable : loaded.Usable) {port : Option UInt16}
    {timeout : Option Duration} : (loaded.withOptions port timeout).Usable ↔
      ∀ span, timeout = some span → 1000000 ≤ span.nanoseconds := by
  constructor
  · rintro still span rfl
    exact Duration.cappedMilliseconds_pos_iff.mp still.some_time
  · intro long
    refine ⟨?_, usable.launcher_shown, usable.some_body, usable.some_token⟩
    cases timeout with
    | none => exact usable.some_time
    | some span => exact Duration.cappedMilliseconds_pos_iff.mpr (long span rfl)

end Checks

end Configuration

namespace CommandLine

open StylesheetRunner.Configuration

section Configure

variable {surroundings : Surroundings} {files : FileTree} {config : String}
  {port : Option UInt16} {timeout : Option Duration} {settings : Configuration}

theorem configure_eq : configure surroundings files config port timeout =
    match load files surroundings.working config surroundings.environment with
    | .error cause => .error cause.report
    | .ok loaded =>
      match (loaded.withOptions port timeout).validate with
      | .error cause => .error cause.report
      | .ok () => .ok (loaded.withOptions port timeout) := by
  unfold configure
  cases load files surroundings.working config surroundings.environment with
  | error cause => rfl
  | ok loaded =>
    dsimp only [withOptions, bind, Except.bind, Except.mapError]
    cases validate _ <;> rfl

theorem configure_eq_ok_iff : configure surroundings files config port timeout = .ok settings ↔
    ∃ loaded, load files surroundings.working config surroundings.environment = .ok loaded ∧
      settings = loaded.withOptions port timeout ∧ settings.Usable := by
  rw [configure_eq]
  simp only [← validate_eq_ok_iff]
  constructor
  · intro accepted
    split at accepted
    next => cases accepted
    next loaded read =>
      split at accepted
      next => cases accepted
      next checked =>
        cases accepted
        exact ⟨loaded, read, rfl, checked⟩
  · rintro ⟨loaded, read, rfl, checked⟩
    simp only [read, checked]

end Configure

/-- **The settings of a command.** There are settings exactly if the file is missing or is one of
settings, these are usable with what the environment says, and the deadline of the command line, if
it has one, is a millisecond or more. They are then layered as they should be, and usable. -/
theorem configure_layers (surroundings : Surroundings) (files : FileTree) (config : String)
    (port : Option UInt16) (timeout : Option Duration) :
    ((∃ settings, configure surroundings files config port timeout = .ok settings) ↔
      (∃ file settings, Held files surroundings.working config file ∧
        Layered none none surroundings.environment file settings ∧ settings.Usable) ∧
      ∀ span, timeout = some span → 1000000 ≤ span.nanoseconds) ∧
    ∀ settings, configure surroundings files config port timeout = .ok settings →
      settings.Usable ∧ ∀ file, Held files surroundings.working config file →
        Layered port timeout surroundings.environment file settings := by
  refine ⟨⟨?_, ?_⟩, ?_⟩
  · rintro ⟨settings, made⟩
    obtain ⟨loaded, read, rfl, usable⟩ := configure_eq_ok_iff.mp made
    obtain ⟨file, held, rfl, checked⟩ := load_eq_ok_iff.mp read
    exact ⟨⟨file, _, held, layered_iff.mpr rfl, checked⟩,
      (usable_withOptions_iff checked).mp usable⟩
  · rintro ⟨⟨file, settings, held, layered, usable⟩, long⟩
    -- The layers below the command line leave no choice, so these are the settings first checked.
    have without_options : settings = file.override surroundings.environment :=
      layered_iff.mp layered
    rw [without_options] at usable
    have read := load_eq_ok_iff.mpr ⟨file, held, rfl, usable⟩
    exact ⟨_, configure_eq_ok_iff.mpr ⟨_, read, rfl, (usable_withOptions_iff usable).mpr long⟩⟩
  · intro settings made
    obtain ⟨loaded, read, rfl, usable⟩ := configure_eq_ok_iff.mp made
    obtain ⟨file, held, rfl, -⟩ := load_eq_ok_iff.mp read
    refine ⟨usable, fun other held_other => ?_⟩
    obtain rfl := held.unique held_other
    exact layered_iff.mpr rfl

/-- A file whose own settings could not be used: the environment gives it a deadline and turns its
history off, and says nothing of the port that counts; the command line has the last word. -/
theorem configure_layers_of_file :
    let file : Configuration :=
      { Configuration.default with
        port := 9000, timeoutMilliseconds := 0, history := ⟨true, .empty⟩ }
    let environment : Environment :=
      ⟨[("PORT", Text.Utf8.encode "70000".toList), ("JAVA_BIN", []),
        ("XSLT_TIMEOUT_MS", Text.Utf8.encode " +0250\n".toList), ("PLAYGROUND_PRO", [])]⟩
    let surroundings : Surroundings :=
      ⟨.empty, [], environment, fun _ _ files => (.broken, files), ⟨[], ⟨0⟩⟩, fun _ => none⟩
    let files := FileTree.empty.insert ["app.config"]
      (.file (Text.Utf8.encode file.toValue.pretty))
    Held files [] "app.config" file ∧ ¬ file.Usable ∧
      ∃ settings,
        configure surroundings files "app.config" none (some ⟨1500999999⟩) = .ok settings ∧
        settings.port = 9000 ∧ settings.timeoutMilliseconds = 1500 ∧
        settings.launcher = "java" ∧ settings.history.enabled = false := by
  intro file environment surroundings files
  have held : Held files [] "app.config" file :=
    .object rfl rfl (Text.Utf8.decode?_encode _) (by decide)
      (Json.readWhole_of_written (takes_rearranged (schema.rearranged_self file.toValue))
        (Json.written_pretty file.toValue))
  have unusable : ¬ file.Usable := fun usable => absurd usable.some_time (by decide)
  have usable : (file.override environment).Usable := validate_eq_ok_iff.mp (by decide +kernel)
  have layers := configure_layers surroundings files "app.config" none (some ⟨1500999999⟩)
  obtain ⟨settings, made⟩ := layers.1.mpr
    ⟨⟨file, _, held, layered_iff.mpr rfl, usable⟩, fun span same => by cases same; decide⟩
  have settings_eq := layered_iff.mp ((layers.2 settings made).2 file held)
  refine ⟨held, unusable, settings, made, ?_⟩
  rw [settings_eq]
  decide +kernel

end CommandLine

end StylesheetRunner
