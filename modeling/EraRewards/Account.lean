import EraRewards.Failure
import EraRewards.Text.Blank

/-!
# Accounts

An account is known by a text that is not blank, without the blanks around it.  A text that holds half
of a surrogate pair names an account like any other, but no column takes it: such an account can be
asked for, and never be stored or found.
-/

namespace EraRewards

/-- An account, by the text that names it. -/
inductive Account
  /-- A text that can be stored. -/
  | named (name : String)
  /-- A text with halves of surrogate pairs. -/
  | broken (letters : List Letter)
  deriving DecidableEq, Repr

namespace Account

/-- A text names the account that is stored under it. -/
instance : Coe String Account := ⟨named⟩

/-- The text that names an account, as a value. -/
def toValue : Account → Value
  | named name => .text name
  | broken letters => .broken letters

/-- What a text column makes of an account. -/
def column : Account → Except Failure String
  | named name => .ok name
  | broken _ => .error .unencodable

theorem eq_named_of_column {account : Account} {name : String} (bound : account.column = .ok name) :
    account = name := by
  cases account with
  | named found => exact congrArg named (Except.ok.inj bound)
  | broken letters => cases bound

end Account

/-- The account that an argument names: a text that is not blank, without the blanks around it. -/
def accountOfValue (value : Value) : Except LedgerError Account :=
  match value with
  | .text s =>
    let name := Text.strip s
    if name.isEmpty then .error (.missingAccount value) else .ok name
  -- Half of a surrogate pair is no blank, so something remains.
  | .broken letters => .ok (.broken (Text.trimBy (Letter.has Text.isBlank) letters))
  | _ => .error (.missingAccount value)

/-- A text that can be stored names an account that can be. -/
theorem exists_named_of_text {text : String} {account : Account}
    (named : accountOfValue (.text text) = .ok account) : ∃ name : String, account = name := by
  rw [accountOfValue] at named
  split at named
  · cases named
  · exact ⟨_, (Except.ok.inj named).symm⟩

end EraRewards
