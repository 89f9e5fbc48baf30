import StylesheetRunner.Text.Numeral
import StylesheetRunner.TextMap
import StylesheetRunner.Toml.Value

/-!
Typed data of a table file. A record may be given as a table, or as a list of its members in order.
-/

namespace StylesheetRunner.Toml

namespace Value

def asText? : Value → Option String
  | .text characters => some characters
  | _ => none

def asBoolean? : Value → Option Bool
  | .boolean flag => some flag
  | _ => none

def asNatural? : Value → Option Nat
  | .integer number => if 0 ≤ number then some number.toNat else none
  | _ => none

def asList? : Value → Option (List Value)
  | .list items => some items
  | .tables elements => some (elements.map (.table false false))
  | _ => none

def asTexts? (value : Value) : Option (List String) :=
  value.asList?.bind fun items => items.mapM asText?

def momentKey : String := "$__toml_private_datetime"

def asMembers? : Value → Option Members
  | .table _ _ members => some members
  | .inlined _ members => some members
  | .moment written => some [(momentKey, .text written)]
  | _ => none

def asTextMap? (value : Value) : Option TextMap := do
  let members ← value.asMembers?
  let entries ← members.mapM fun member => member.2.asText?.map fun text => (member.1, text)
  pure (TextMap.ofList entries)

def asRecord? (names : List String) (value : Value) : Option Members :=
  match value.asMembers? with
  | some members => some members
  | none => value.asList?.map fun items => names.zip items

end Value

def Members.decode {α : Type} (members : Members) (name : String) (missing : α)
    (decoder : Value → Option α) : Option α :=
  match members.get? name with
  | none => some missing
  | some value => decoder value

end StylesheetRunner.Toml
