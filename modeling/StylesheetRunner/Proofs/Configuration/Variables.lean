import StylesheetRunner.Configuration.Loader
import StylesheetRunner.Proofs.Text.Numeral
import StylesheetRunner.Proofs.Text.Trimming

/-!
What the variables of the environment say: a text, a number or a flag. Blanks around a number or a
flag count for nothing, and a number that is too large is none.
-/

namespace StylesheetRunner.Environment

/-- A variable is set to a text. Bytes that are no text set nothing. -/
def Sets (environment : Environment) (name text : String) : Prop :=
  ∃ bytes, environment.entries.lookup name = some bytes ∧
    Text.Utf8.decode? bytes = some text.toList

/-- A variable names a number: between blanks it holds a numeral of it. -/
def Names (environment : Environment) (name : String) (limit value : Nat) : Prop :=
  ∃ text kept, environment.Sets name text ∧ Text.Trimmed text.toList kept ∧
    Text.IsNumeral kept value ∧ value ≤ limit

/-- A variable decides a flag: it is on for the word "true" between blanks, in any mixture of
capital and small letters, and off for every other text. -/
def Decides (environment : Environment) (name : String) (flag : Bool) : Prop :=
  ∃ text kept, environment.Sets name text ∧ Text.Trimmed text.toList kept ∧
    (flag = true ↔ kept.map Char.toLower = "true".toList)

variable {environment : Environment} {name text : String}

theorem sets_iff : environment.Sets name text ↔ environment.text? name = some text := by
  unfold Sets text?
  cases environment.entries.lookup name with
  | none => simp
  | some bytes =>
    constructor
    · rintro ⟨_, ⟨⟩, decoded⟩
      exact Option.map_eq_some_iff.mpr ⟨_, decoded, String.ofList_toList⟩
    · intro shown
      obtain ⟨characters, decoded, rfl⟩ := Option.map_eq_some_iff.mp shown
      exact ⟨bytes, rfl, by rw [String.toList_ofList, decoded]⟩

theorem exists_trimmed_iff {holds : List Char → Prop} :
    (∃ text kept, environment.Sets name text ∧ Text.Trimmed text.toList kept ∧ holds kept) ↔
      ∃ text, environment.text? name = some text ∧ holds (Text.trim text.toList) := by
  constructor
  · rintro ⟨text, kept, set, trimmed, said⟩
    rw [← Text.trim_eq_of_trimmed trimmed] at said
    exact ⟨text, sets_iff.mp set, said⟩
  · rintro ⟨text, set, said⟩
    exact ⟨text, _, sets_iff.mpr set, Text.trimmed_trim text.toList, said⟩

def number? (environment : Environment) (name : String) (limit : Nat) : Option Nat :=
  (environment.text? name).bind fun text =>
    (Text.readNatural limit (Text.trim text.toList)).toOption

theorem names_iff {limit value : Nat} :
    environment.Names name limit value ↔ environment.number? name limit = some value := by
  unfold Names number?
  rw [exists_trimmed_iff, Option.bind_eq_some_iff]
  refine exists_congr fun text => and_congr_right fun _ => ?_
  rw [← Text.readNatural_eq_ok_iff]
  cases Text.readNatural limit (Text.trim text.toList) <;> simp [Except.toOption]

theorem le_of_number? {limit value : Nat} (named : environment.number? name limit = some value) :
    value ≤ limit := by
  obtain ⟨-, -, -, -, -, within⟩ := names_iff.mpr named
  exact within

/-- A number is named as the word that stands for it, if the limit keeps it within the words. -/
theorem names_toNat_iff {word : Type} {limit : Nat} {toNat : word → Nat} {ofNat : Nat → word}
    (of_word : ∀ value, ofNat (toNat value) = value)
    (of_number : ∀ number ≤ limit, toNat (ofNat number) = number) {value : word} :
    environment.Names name limit (toNat value) ↔
      (environment.number? name limit).map ofNat = some value := by
  rw [names_iff, Option.map_eq_some_iff]
  constructor
  · intro named
    exact ⟨_, named, of_word value⟩
  · rintro ⟨number, named, rfl⟩
    rwa [of_number number (le_of_number? named)]

theorem names_port_iff {value : UInt16} :
    environment.Names name Text.portLimit value.toNat ↔
      (environment.number? name Text.portLimit).map UInt16.ofNat = some value :=
  names_toNat_iff (fun _ => UInt16.ofNat_toNat)
    fun _ within => UInt16.toNat_ofNat_of_lt' (Nat.lt_succ_of_le within)

theorem names_word_iff {value : UInt64} :
    environment.Names name Text.wordLimit value.toNat ↔
      (environment.number? name Text.wordLimit).map UInt64.ofNat = some value :=
  names_toNat_iff (fun _ => UInt64.ofNat_toNat)
    fun _ within => UInt64.toNat_ofNat_of_lt' (Nat.lt_succ_of_le within)

theorem decides_iff {flag : Bool} :
    environment.Decides name flag ↔
      ((environment.text? name).map fun text =>
        Configuration.equalsIgnoringCase "true" (Text.trim text.toList)) = some flag := by
  unfold Decides
  rw [exists_trimmed_iff, Option.map_eq_some_iff]
  refine exists_congr fun text => and_congr_right fun _ => ?_
  have lower : "true".toList.map Char.toLower = "true".toList := by decide
  unfold Configuration.equalsIgnoringCase
  rw [lower]
  cases flag <;> simp

theorem nonempty?_eq_some_iff :
    environment.nonempty? name = some text ↔ environment.Sets name text ∧ text ≠ "" := by
  rw [sets_iff]
  unfold nonempty?
  cases environment.text? name with
  | none => simp
  | some value =>
    dsimp only
    split
    next empty => simp_all
    next full =>
      refine ⟨fun same => ?_, fun same => same.1⟩
      obtain rfl := Option.some.inj same
      exact ⟨rfl, full⟩

end StylesheetRunner.Environment
