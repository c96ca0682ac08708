import EraRewards.Api.Host
import EraRewards.Proofs.Interface
import Mathlib.Data.List.TakeWhile

/-!
# The posture of production

The mode of a node is looked up in three places: where its settings are loaded, where the interface is
described, and where a connection is tuned.  They agree for every mode that the environment names, but
not for one that is empty or blank, nor where the settings come from a file.
-/

namespace EraRewards

open Effect

namespace Text

theorem strip_of_isBlankText {s : String} (blank : isBlankText s = true) : strip s = "" := by
  have nothing : s.toList.dropWhile isBlank = [] := by
    rw [List.dropWhile_eq_nil_iff]
    exact fun c present => List.all_eq_true.1 blank c present
  rw [strip, trimBy, nothing]
  rfl

end Text

namespace Environment

/-- Nothing but production is named by the mode of an environment. -/
def KeepsProduction (env : Environment) : Prop :=
  ∀ mode, env.get? "ERALEDGER_MODE" = some mode → Text.lower (Text.strip mode) = "prod"

theorem lower_strip_prod : Text.lower (Text.strip "prod") = "prod" := by decide +kernel

theorem word_mode_iff (env : Environment) :
    env.word "ERALEDGER_MODE" "prod" = "prod" ↔
      env.get? "ERALEDGER_MODE" = some "" ∨ env.KeepsProduction := by
  rw [word, getNonempty, KeepsProduction]
  cases env.get? "ERALEDGER_MODE" with
  | none => simp [lower_strip_prod]
  | some mode =>
      by_cases empty : mode = ""
      · simp [empty, lower_strip_prod]
      · simp [empty]

end Environment

namespace Tuning

/-- The level of synchronisation that an environment asks for, if it is one. -/
def override? (env : Environment) : Option String :=
  ((env.get? "ERALEDGER_SQLITE_SYNCHRONOUS").map fun asked => Text.upper (Text.strip asked)).filter
    levels.contains

theorem synchronous_eq (env : Environment) :
    synchronous env = (override? env).getD
      (if env.word "ERALEDGER_MODE" "prod" = "prod" then "FULL" else "NORMAL") := by
  rw [synchronous, override?]
  generalize usual_eq : (if env.word "ERALEDGER_MODE" "prod" = "prod" then "FULL" else "NORMAL") = usual
  have kept : Text.upper (Text.strip usual) = usual := by
    rw [← usual_eq]
    split <;> decide +kernel
  rw [Environment.getNonempty]
  cases env.get? "ERALEDGER_SQLITE_SYNCHRONOUS" with
  | none => simp [kept]
  | some asked =>
      by_cases empty : asked = ""
      · have nothing : levels.contains (Text.upper (Text.strip "")) = false := by decide +kernel
        rw [empty, Option.map_some, Option.filter_some, if_neg (ne_true_of_eq_false nothing)]
        simp [kept]
      · have something : asked.isEmpty = false := by simpa using empty
        rw [Option.map_some, Option.filter_some]
        simp only [something, Bool.false_eq_true, if_false]
        split <;> rfl

/-- Without another level in the environment a commit waits for the disk exactly if the mode is empty
or names nothing but production. -/
theorem synchronous_full_iff (env : Environment) :
    synchronous env = (override? env).getD "FULL" ↔
      (env.get? "ERALEDGER_MODE" = some "" ∨ env.KeepsProduction) ∨ (override? env).isSome := by
  rw [synchronous_eq, ← Environment.word_mode_iff]
  cases override? env with
  | some level => simp
  | none => simp

end Tuning

namespace Settings

/-- The mode of overlaid settings is the one that the source gives, or else the one below. -/
theorem overlay_mode {base : Settings} {source : Source} {draft : Draft}
    (read : base.overlay source = .ok draft) :
    ∃ value, source "mode" = .ok value ∧ draft.mode = inCase Text.lower (textOf value base.mode) := by
  -- Nine steps of the reading come before the mode, and four after it.
  iterate 9 obtain ⟨_, -, read⟩ := ok_of_bind read
  obtain ⟨value, value_eq, read⟩ := ok_of_bind read
  iterate 4 obtain ⟨_, -, read⟩ := ok_of_bind read
  cases read
  exact ⟨value, value_eq, rfl⟩

theorem ofSource_mode {source : Source} {draft : Draft} (read : ofSource source = .ok draft) :
    ∃ value, source "mode" = .ok value ∧ draft.mode = inCase Text.lower (textOf value "prod") := by
  obtain ⟨overlaid, overlaid_eq, read⟩ := ok_of_bind read
  obtain ⟨_, -, read⟩ := ok_of_bind read
  cases read
  exact overlay_mode overlaid_eq

theorem settle_mode {draft : Draft} {settings : Settings} (settled : draft.settle = .ok settings) :
    draft.mode = .text settings.mode := by
  iterate 5 obtain ⟨_, -, settled⟩ := ok_of_bind settled
  obtain ⟨mode, mode_eq, settled⟩ := ok_of_bind settled
  iterate 3 obtain ⟨_, -, settled⟩ := ok_of_bind settled
  cases settled
  rw [Draft.textIn.eq_def] at mode_eq
  split at mode_eq <;> cases mode_eq
  assumption

theorem fromVariable_mode (env : Environment) :
    fromVariable env "mode" = .ok (match env.get? "ERALEDGER_MODE" with
      | some text => if Text.isBlankText text then .null else .text text
      | none => .null) := by
  rw [fromVariable]
  have named : variableNames.lookup "mode" = some "ERALEDGER_MODE" := by decide
  rw [named, Option.bind_some]
  cases env.get? "ERALEDGER_MODE" <;> rfl

/-- Settings come from the file that the environment names, or else from the environment. -/
theorem find_eq (env : Environment) (files : Files) :
    find env "" files =
      let path := (env.get? "ERALEDGER_CONFIG_PATH").getD ""
      if path = "" then ofEnvironment env else files.read path >>= ofFile path := by
  simp [find]

/-- For settings from a file nothing else in the environment matters. -/
theorem load_of_named {env other : Environment} {files : Files}
    (named : (env.get? "ERALEDGER_CONFIG_PATH").getD "" ≠ "")
    (same : other.get? "ERALEDGER_CONFIG_PATH" = env.get? "ERALEDGER_CONFIG_PATH") :
    load other files = load env files := by
  rw [load, load, find_eq, find_eq, same]
  simp only [if_neg named]

/-- Production that was loaded from the environment is the mode of the environment unless that is
blank. -/
theorem keepsProduction_iff_of_unnamed {env : Environment} {files : Files} {settings : Settings}
    (loaded : load env files = .ok settings) (prod : settings.mode = "prod")
    (unnamed : (env.get? "ERALEDGER_CONFIG_PATH").getD "" = "") :
    env.KeepsProduction ↔
      ∀ text, env.get? "ERALEDGER_MODE" = some text → Text.isBlankText text = false := by
  obtain ⟨draft, found, settled⟩ := ok_of_bind loaded
  rw [find_eq] at found
  simp only [unnamed, if_true] at found
  obtain ⟨value, value_eq, mode_eq⟩ := ofSource_mode found
  rw [settle_mode settled, prod] at mode_eq
  rw [fromVariable_mode] at value_eq
  rw [Environment.KeepsProduction]
  cases set : env.get? "ERALEDGER_MODE" with
  | none => simp
  | some text =>
      rw [set] at value_eq
      cases value_eq
      by_cases blank : Text.isBlankText text = true
      · have nothing : Text.lower (Text.strip text) ≠ "prod" := by
          rw [Text.strip_of_isBlankText blank]
          decide
        simp [blank, nothing]
      · have kept : textOf (.text text) "prod" = .text text := by
          simp [textOf, Value.display, blank]
        simp only [if_neg blank, kept, inCase, Value.text.injEq] at mode_eq
        simp [blank, mode_eq]

end Settings

namespace Api

theorem documented_eq_false_iff (env : Environment) :
    App.documented env = false ↔ env.KeepsProduction := by
  rw [App.documented, Environment.KeepsProduction]
  cases env.get? "ERALEDGER_MODE" with
  | none => simp [Environment.lower_strip_prod]
  | some mode => simp

/-- Where the interface is described. -/
def descriptionPaths : List String := ["/docs", "/redoc", "/openapi.json"]

theorem fitting?_of_not_fitsSome {routes : List Route} {path : String}
    (unfit : fitsSome routes path = false) (method : String) :
    fitting? routes method (segments path) = none := by
  rw [fitting?, List.findSome?_eq_none_iff]
  intro route listed
  have misses : (parameterOf? route.pattern (segments path)).isSome = false := by
    rw [fitsSome, List.any_eq_false] at unfit
    simpa using unfit route listed
  rw [Option.isSome_eq_false_iff, Option.isNone_iff_eq_none] at misses
  split
  · rw [misses]
    rfl
  · rfl

/-- A path that fits no route, not even with its trailing slash changed, leads nowhere. -/
theorem resolve_of_not_fitsSome {routes : List Route} {path : String}
    (unfit : fitsSome routes path = false) (unslashed : fitsSome routes (changeSlash path) = false)
    (method : String) : resolve routes method path = .notFound := by
  have found := fitting?_of_not_fitsSome unfit method
  rw [fitting?] at found
  rw [resolve, found]
  simp [unfit, unslashed]

theorem resolve_undescribed {path : String} (described : path ∈ descriptionPaths) (method : String) :
    resolve (routes false) method path = .notFound := by
  simp only [descriptionPaths, List.mem_cons, List.not_mem_nil, or_false] at described
  rcases described with rfl | rfl | rfl <;>
    exact resolve_of_not_fitsSome (by decide +kernel) (by decide +kernel) method

/-- The interface is not described exactly if the environment names nothing but production. -/
theorem undescribed_iff (env : Environment) :
    (∀ (app : App) (r : Http.Request), app.environment = env → r.path ∈ descriptionPaths →
        app.destination r = .notFound) ↔ env.KeepsProduction := by
  rw [← documented_eq_false_iff]
  constructor
  · intro hidden
    by_contra shown
    have leads : resolve (routes true) "GET" "/docs" = .notFound := by
      have nowhere := hidden ⟨none, env⟩ ⟨"GET", "/docs", "", [], ""⟩ rfl (by decide)
      rwa [App.destination, eq_true_of_ne_false shown] at nowhere
    have described : resolve (routes true) "GET" "/docs" = .endpoint .documentation := by
      decide +kernel
    cases described.symm.trans leads
  · rintro hidden app r rfl path_mem
    rw [App.destination, hidden]
    exact resolve_undescribed path_mem r.method

end Api

/-- Settings with the mode of production have been loaded.  Then the interface is not described
exactly if the environment names nothing but production as its mode, and a commit waits for the disk,
unless the environment asks for another level, exactly if the environment names nothing but production
or its mode is empty.  For settings from the environment itself, it names nothing but production
exactly if its mode is not blank; with settings from a file its mode can be any. -/
theorem production_posture_iff {env : Environment} {files : Files} {settings : Settings}
    (loaded : Settings.load env files = .ok settings) (prod : settings.mode = "prod") :
    let source := (env.get? "ERALEDGER_CONFIG_PATH").getD ""
    ((∀ (app : Api.App) (r : Http.Request), app.environment = env → r.path ∈ Api.descriptionPaths →
        app.destination r = .notFound) ↔ env.KeepsProduction) ∧
    (Tuning.synchronous env = (Tuning.override? env).getD "FULL" ↔
      (env.get? "ERALEDGER_MODE" = some "" ∨ env.KeepsProduction) ∨
        (Tuning.override? env).isSome) ∧
    (source = "" → (env.KeepsProduction ↔
      ∀ text, env.get? "ERALEDGER_MODE" = some text → Text.isBlankText text = false)) ∧
    (source ≠ "" → ∀ other : Environment,
      other.get? "ERALEDGER_CONFIG_PATH" = env.get? "ERALEDGER_CONFIG_PATH" →
        Settings.load other files = .ok settings) := by
  intro source
  refine ⟨Api.undescribed_iff env, Tuning.synchronous_full_iff env,
    Settings.keepsProduction_iff_of_unnamed loaded prod, fun named other same => ?_⟩
  rw [Settings.load_of_named named same, loaded]

/-- An environment that names production among blanks and in capitals. -/
def Environment.capital : Environment := ⟨[("ERALEDGER_MODE", " Prod ")]⟩

theorem production_posture_iff_sample :
    Settings.load .capital .none = .ok .default ∧
      (∀ (app : Api.App) (r : Http.Request), app.environment = .capital →
        r.path ∈ Api.descriptionPaths → app.destination r = .notFound) ∧
      Tuning.synchronous .capital = "FULL" := by
  have loaded : Settings.load .capital .none = .ok .default := ok_of_toOption (by decide +kernel)
  obtain ⟨described, commits, named, -⟩ := production_posture_iff loaded rfl
  have keeps : Environment.capital.KeepsProduction :=
    (named rfl).2 fun text found => by
      obtain rfl : " Prod " = text := Option.some.inj found
      decide
  exact ⟨loaded, described.2 keeps, commits.2 (.inl (.inr keeps))⟩

/-- An environment with a blank mode. -/
def Environment.blank : Environment := ⟨[("ERALEDGER_MODE", " ")]⟩

/-- Settings with the mode of production are loaded, but the interface is described, and a commit does
not wait for the disk though no other level is asked for. -/
theorem blank_mode_is_permissive :
    Settings.load .blank .none = .ok .default ∧ Settings.default.mode = "prod" ∧
      Api.App.destination ⟨none, .blank⟩ ⟨"GET", "/docs", "", [], ""⟩ = .endpoint .documentation ∧
      Tuning.override? .blank = none ∧ Tuning.synchronous .blank = "NORMAL" :=
  ⟨ok_of_toOption (by decide +kernel), rfl, by decide +kernel, by decide +kernel, by decide +kernel⟩

end EraRewards
