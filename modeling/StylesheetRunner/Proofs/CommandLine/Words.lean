import Mathlib.Data.List.Forall2
import StylesheetRunner.CommandLine.Arguments

/-!
Words for a command that transforms once: each parameter in a word of its own, the flag for a trace,
and the stylesheet behind all options. They are read as what they were made from, whichever
parameters there are.
-/

namespace StylesheetRunner.CommandLine

def transformWords (texts : List String) (trace : Bool) (path : String) : List String :=
  "transform" ::
    (texts.map ("--param=" ++ ·) ++ ((if trace then ["--trace"] else []) ++ ["--", path]))

namespace Draft

def collected (parameters : List (String × String)) : Draft :=
  { blank with parameters, settled := if parameters = [] then [] else [.param] }

variable {text : String} {parameter : String × String}

theorem toList_parameterWord (text : String) :
    ("--param=" ++ text).toList = '-' :: '-' :: ("param=".toList ++ text.toList) := by
  rw [String.toList_append]
  rfl

theorem settle_param (before : List (String × String))
    (accepted : splitParameter text = .ok parameter) :
    settle .transform { collected before with waiting := some (.param, some text) } =
      .ok (collected (before ++ [parameter])) := by
  by_cases first : before = []
  · simp [settle, fill, checkedValue, accepted, note, collected, blank, first]
  · simp [settle, fill, checkedValue, accepted, note, collected, blank, first]

theorem take_param (before : List (String × String))
    (accepted : splitParameter text = .ok parameter) :
    (collected before).take .transform ("--param=" ++ text) =
      .ok (collected (before ++ [parameter])) := by
  have parts : Text.splitAtFirst? '=' ("param=".toList ++ text.toList) =
      some ("param".toList, text.toList) := rfl
  have found : (Grammar.transform.options.find? fun argument => argument.long = "param") =
      some .param := by decide
  have settled : (collected before).settle .transform = .ok (collected before) := rfl
  unfold take
  rw [toList_parameterWord]
  simp only [takeLong, parts, String.ofList_toList, found, Argument.takesValue, if_true, settled]
  exact settle_param before accepted

theorem takeAll_cons_of_taken {grammar : Grammar} {draft next : Draft} {word : String}
    (option : word ≠ "--") (taken : draft.take grammar word = .ok next) (others : List String) :
    takeAll grammar false draft (word :: others) = takeAll grammar false next others := by
  rw [takeAll, if_neg option, taken]
  rfl

theorem takeAll_params {texts : List String} {parameters : List (String × String)}
    (accepted : List.Forall₂ (fun text parameter => splitParameter text = .ok parameter)
      texts parameters) (before : List (String × String)) (others : List String) :
    takeAll .transform false (collected before) (texts.map ("--param=" ++ ·) ++ others) =
      takeAll .transform false (collected (before ++ parameters)) others := by
  induction accepted generalizing before with
  | nil => simp
  | @cons text parameter texts parameters here later ih =>
    have option : "--param=" ++ text ≠ "--" := by
      intro same
      have same_list := congrArg String.toList same
      rw [toList_parameterWord] at same_list
      cases same_list
    rw [List.map_cons, List.cons_append, takeAll_cons_of_taken option (take_param before here), ih,
      List.append_assoc, List.singleton_append]

theorem take_trace (parameters : List (String × String)) :
    (collected parameters).take .transform "--trace" =
      .ok { collected parameters with
        trace := true, settled := (collected parameters).settled ++ [.trace] } := by
  have word : "--trace".toList = '-' :: '-' :: "trace".toList := rfl
  have whole : Text.splitAtFirst? '=' "trace".toList = none := rfl
  have found : (Grammar.transform.options.find? fun argument => argument.long = "trace") =
      some .trace := by decide
  have new : Argument.trace ∉ (collected parameters).settled := by
    unfold collected
    split <;> simp
  unfold take
  rw [word]
  simp only [takeLong, whole, String.ofList_toList, found, Argument.takesValue]
  change (if Argument.trace ∈ (collected parameters).settled then _ else pure _) = _
  rw [if_neg new, note, if_neg new]
  rfl

theorem takeAll_stylesheet {draft : Draft} {path : String} (still : draft.waiting = none)
    (missing : draft.stylesheet = none) (new : Argument.stylesheet ∉ draft.settled)
    (named : path ≠ "") :
    takeAll .transform false draft ["--", path] =
      .ok { draft with
        stylesheet := some path, settled := draft.settled ++ [.stylesheet] } := by
  have open_still : draft.takePlain .transform path =
      .ok { draft with waiting := some (.stylesheet, some path) } := by
    simp [takePlain, settle, still, missing, Grammar.transform]
  rw [takeAll, if_pos rfl, takeAll, open_still]
  change settle .transform { draft with waiting := some (.stylesheet, some path) } = _
  obtain ⟨config, port, timeout, given, trace, stylesheet, settled, waiting⟩ := draft
  obtain rfl : waiting = none := still
  simp [settle, fill, pathValue, named, note, show Argument.stylesheet ∉ settled from new]

end Draft

theorem read_transformWords {texts : List String} {parameters : List (String × String)}
    (accepted : List.Forall₂ (fun text parameter => splitParameter text = .ok parameter)
      texts parameters) (trace : Bool) {path : String} (named : path ≠ "") :
    read (transformWords texts trace path) =
      .ok (.transform ⟨path, parameters, trace, defaultConfig, none⟩) := by
  have new : Argument.stylesheet ∉ (Draft.collected parameters).settled := by
    unfold Draft.collected
    split <;> simp
  change readTransform _ = _
  unfold readTransform
  have start : Draft.blank = Draft.collected [] := rfl
  rw [start, Draft.takeAll_params accepted, List.nil_append]
  cases trace with
  | false =>
    rw [if_neg Bool.false_ne_true, List.nil_append, Draft.takeAll_stylesheet rfl rfl new named]
    rfl
  | true =>
    rw [if_pos rfl, List.singleton_append,
      Draft.takeAll_cons_of_taken (by decide) (Draft.take_trace parameters),
      Draft.takeAll_stylesheet rfl rfl (by simpa using new) named]
    rfl

end StylesheetRunner.CommandLine
