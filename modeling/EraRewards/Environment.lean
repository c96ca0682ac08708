import EraRewards.Number.Integer

/-!
# Environment variables
-/

namespace EraRewards

/-- Variables of a process, the first entry of a name counting. -/
structure Environment where
  /-- Names and values. -/
  entries : List (String × String)

namespace Environment

/-- No variables. -/
def empty : Environment := ⟨[]⟩

instance : Inhabited Environment := ⟨empty⟩

/-- Value of a variable. -/
def get? (env : Environment) (name : String) : Option String := env.entries.lookup name

/-- Value of a variable that is set and not empty, or else a default. -/
def getNonempty (env : Environment) (name fallback : String) : String :=
  match env.get? name with
  | some value => if value.isEmpty then fallback else value
  | none => fallback

/-- The environment with a variable added unless it is set already. -/
def setDefault (env : Environment) (name value : String) : Environment :=
  match env.get? name with
  | some _ => env
  | none => ⟨env.entries ++ [(name, value)]⟩

/-- The environment with a variable set. -/
def set (env : Environment) (name value : String) : Environment :=
  ⟨(name, value) :: env.entries.filter fun entry => entry.1 != name⟩

/-- Integer in a variable that is set and readable. -/
def integer? (env : Environment) (name : String) : Option Int :=
  (env.get? name).bind fun value => Integer.read? (Text.strip value)

/-- Integer in a variable; a default when it is unset or unreadable. -/
def integer (env : Environment) (name : String) (fallback : Int) : Int :=
  (env.integer? name).getD fallback

end Environment
end EraRewards
