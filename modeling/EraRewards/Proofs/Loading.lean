import EraRewards.Proofs.JsonText
import EraRewards.Proofs.LetterCase
import EraRewards.Proofs.Posture
import EraRewards.Proofs.TokenRange
import Mathlib.Order.Interval.Set.Defs

/-!
# Which settings are loaded

The environment yields settings exactly if each number in it is a numeral in range and its mode is one
of three, and fails by a configuration error otherwise.  A file of texts yields what the environment
with these texts yields.  Settings that have been loaded, from wherever, open a ledger with their
parameters.
-/

namespace EraRewards

open Effect

/-- Failures because of a setting. -/
def Failure.IsConfig : Failure → Prop
  | .config _ => True
  | _ => False

/-- A step that does not fail but because of a setting. -/
def Effect.OnlyConfig {α : Type} (step : Except Failure α) : Prop :=
  ∀ failure, step = .error failure → failure.IsConfig

theorem Effect.OnlyConfig.ok {α : Type} (result : α) : OnlyConfig (.ok result) := nofun

theorem Effect.OnlyConfig.bind {α β : Type} {step : Except Failure α} {next : α → Except Failure β}
    (first : OnlyConfig step) (later : ∀ middle, step = .ok middle → OnlyConfig (next middle)) :
    OnlyConfig (step >>= next) := by
  intro failure failed
  rcases error_of_bind failed with failed | ⟨middle, passed, failed⟩
  · exact first failure failed
  · exact later middle passed failure failed

/-! ## Sources of texts -/

namespace Settings

/-- The integer in a text, without the blanks around it and without its underscores. -/
def integerIn? (text : String) : Option Int :=
  Integer.read? (String.ofList ((Text.strip text).toList.filter (· != '_')))

/-- A source in which texts are found by name. -/
def ofTexts (texts : String → Option String) : Source := fun name =>
  .ok ((texts name).elim .null .text)

/-- Integer of a setting by the text that is given for it, or else by default. -/
def integerBy (text : Option String) (fallback : Int) : Option Int :=
  text.elim (some fallback) integerIn?

@[simp] theorem integerBy_none (fallback : Int) : integerBy none fallback = some fallback := rfl

@[simp] theorem integerBy_some (text : String) (fallback : Int) :
    integerBy (some text) fallback = integerIn? text := by
  rw [integerBy, Option.elim_some]

theorem integerOf_text (text : Option String) (fallback : Int) :
    integerOf (text.elim .null .text) fallback =
      (integerBy text fallback).elim (.error (.notAnInteger (text.elim .null .text))) .ok := by
  cases text with
  | none => rfl
  | some text =>
      rw [Option.elim_some, integerOf.eq_def]
      dsimp only
      rw [Value.display, integerBy_some, integerIn?]
      split <;> rename_i read <;> rw [read] <;> rfl

/-- The integer of a setting as the overlay finds it in a source of texts. -/
def numberOf (texts : String → Option String) (name : String) (fallback : Int) :
    Except Failure Int :=
  liftM (integerOf ((texts name).elim .null .text) fallback)

theorem numberOf_eq_ok_iff {texts : String → Option String} {name : String} {fallback n : Int} :
    numberOf texts name fallback = .ok n ↔ integerBy (texts name) fallback = some n := by
  rw [numberOf, integerOf_text]
  cases integerBy (texts name) fallback <;>
    simp [liftM, monadLift, MonadLift.monadLift, Except.mapError]

theorem numberOf_onlyConfig (texts : String → Option String) (name : String) (fallback : Int) :
    OnlyConfig (numberOf texts name fallback) := by
  intro failure failed
  obtain ⟨error, -, rfl⟩ := error_of_mapError failed
  trivial

/-- What a source of texts yields over other settings. -/
structure Reads (base : Settings) (texts : String → Option String) (s : Settings) : Prop where
  /-- The length of an era. -/
  eraDuration : integerBy (texts "era_duration") base.eraDuration = some s.eraDuration
  /-- The budget of an era. -/
  budget : integerBy (texts "rewards_per_era") base.budget = some s.budget
  /-- The token. -/
  token : integerBy (texts "native_token_id") base.token = some s.token
  /-- The length of a tick. -/
  tickMs : integerBy (texts "tick_ms") base.tickMs = some s.tickMs
  /-- The path of the database. -/
  databasePath : s.databasePath = (texts "db_path").getD base.databasePath
  /-- The mode, stripped and in lower case. -/
  mode : s.mode = Text.lower (Text.strip ((texts "mode").getD base.mode))
  /-- The host. -/
  host : s.host = (texts "api_host").getD base.host
  /-- The port. -/
  port : integerBy (texts "api_port") base.port = some s.port
  /-- The level of the log, stripped and in upper case. -/
  logLevel : s.logLevel = Text.upper (Text.strip ((texts "log_level").getD base.logLevel))

/-- Texts that are not blank. -/
def Nonblank (texts : String → Option String) : Prop :=
  ∀ name text, texts name = some text → Text.isBlankText text = false

theorem textOf_text {texts : String → Option String} (nonblank : Nonblank texts)
    (name fallback : String) :
    textOf ((texts name).elim .null .text) fallback = .text ((texts name).getD fallback) := by
  cases given : texts name with
  | none => rfl
  | some text => simp [textOf, Value.display, nonblank name text given]

theorem overlay_ofTexts (base : Settings) {texts : String → Option String}
    (nonblank : Nonblank texts) :
    base.overlay (ofTexts texts) = do
      let eraDuration ← numberOf texts "era_duration" base.eraDuration
      let budget ← numberOf texts "rewards_per_era" base.budget
      let token ← numberOf texts "native_token_id" base.token
      let tickMs ← numberOf texts "tick_ms" base.tickMs
      let port ← numberOf texts "api_port" base.port
      return toDraft
        { eraDuration, budget, token, tickMs, port
          databasePath := (texts "db_path").getD base.databasePath
          mode := Text.lower (Text.strip ((texts "mode").getD base.mode))
          host := (texts "api_host").getD base.host
          logLevel := Text.upper (Text.strip ((texts "log_level").getD base.logLevel)) } := by
  simp only [overlay, ofTexts, ok_bind, textOf_text nonblank, inCase]
  rfl

theorem overlay_eq_ok_iff {base : Settings} {texts : String → Option String}
    (nonblank : Nonblank texts) {draft : Draft} :
    base.overlay (ofTexts texts) = .ok draft ↔ ∃ s, Reads base texts s ∧ draft = s.toDraft := by
  rw [overlay_ofTexts base nonblank]
  simp only [bind_eq_ok_iff, numberOf_eq_ok_iff]
  constructor
  · rintro ⟨eraDuration, era_eq, budget, budget_eq, token, token_eq, tickMs, tick_eq, port, port_eq,
      returned⟩
    cases returned
    refine ⟨_, ?_, rfl⟩
    exact ⟨era_eq, budget_eq, token_eq, tick_eq, rfl, rfl, rfl, port_eq, rfl⟩
  · rintro ⟨s, reads, rfl⟩
    refine ⟨_, reads.eraDuration, _, reads.budget, _, reads.token, _, reads.tickMs, _, reads.port, ?_⟩
    rw [← reads.databasePath, ← reads.mode, ← reads.host, ← reads.logLevel]
    rfl

theorem overlay_onlyConfig (base : Settings) {texts : String → Option String}
    (nonblank : Nonblank texts) : OnlyConfig (base.overlay (ofTexts texts)) := by
  rw [overlay_ofTexts base nonblank]
  refine .bind (numberOf_onlyConfig _ _ _) fun _ _ => .bind (numberOf_onlyConfig _ _ _) fun _ _ => ?_
  refine .bind (numberOf_onlyConfig _ _ _) fun _ _ => .bind (numberOf_onlyConfig _ _ _) fun _ _ => ?_
  exact .bind (numberOf_onlyConfig _ _ _) fun _ _ => .ok _

theorem overlay_congr {base : Settings} {source other : Source}
    (same : ∀ entry ∈ variableNames, source entry.1 = other entry.1) :
    base.overlay source = base.overlay other := by
  simp only [variableNames, List.forall_mem_cons] at same
  obtain ⟨eraDuration, budget, token, tickMs, databasePath, mode, host, port, logLevel, -⟩ := same
  simp only [overlay, eraDuration, budget, token, tickMs, databasePath, mode, host, port, logLevel]

/-! ## Acceptance -/

/-- Settings that a node starts with. -/
structure Accepted (s : Settings) : Prop where
  /-- An era has ticks. -/
  eraDuration : 0 < s.eraDuration
  /-- The budget is an amount. -/
  budget : 0 ≤ s.budget ∧ s.budget ≤ maxAmount
  /-- The token is not negative. -/
  token : 0 ≤ s.token
  /-- A tick takes time. -/
  tickMs : 0 < s.tickMs
  /-- The mode is one of three. -/
  mode : Text.lower (Text.strip s.mode) ∈ Draft.modes
  /-- The port is in the range of ports. -/
  port : 0 < s.port ∧ s.port ≤ 65535
  /-- The database has a path. -/
  databasePath : Text.isBlankText s.databasePath = false

theorem require_eq_ok_iff {condition : Bool} {error : ConfigError} {passed : Unit} :
    Draft.require condition error = .ok passed ↔ condition = true :=
  ⟨Draft.of_require, fun holds => if_pos holds⟩

theorem modeOf_text (mode : String) : Draft.modeOf (.text mode) = Text.lower (Text.strip mode) := by
  rw [Draft.modeOf, Value.isTruthy, Value.display]
  by_cases empty : mode = ""
  · rw [empty]
    rfl
  · simp [empty]

theorem check_toDraft (s : Settings) : s.toDraft.check = (do
    Draft.require (0 < s.eraDuration) (.eraDurationRange (.int s.eraDuration))
    Draft.require (0 ≤ s.budget && s.budget ≤ maxAmount) (.budgetRange (.int s.budget))
    Draft.require (0 ≤ s.token) (.tokenRange (.int s.token))
    Draft.require (0 < s.tickMs) (.tickRange (.int s.tickMs))
    Draft.require (Draft.modes.contains (Text.lower (Text.strip s.mode)))
      (.unknownMode (.text s.mode))
    Draft.require (0 < s.port && s.port ≤ 65535) (.portRange (.int s.port))
    Draft.require (!Text.isBlankText s.databasePath) .blankDatabasePath) := by
  simp only [Draft.check, toDraft, Value.toInt, ok_bind, modeOf_text, Draft.isPath]

theorem check_toDraft_iff {s : Settings} : s.toDraft.check = .ok () ↔ Accepted s := by
  rw [check_toDraft]
  simp only [bind_eq_ok_iff, require_eq_ok_iff, exists_const, Bool.and_eq_true, decide_eq_true_eq,
    List.contains_iff_mem, Bool.not_eq_true']
  constructor
  · rintro ⟨eraDuration, budget, token, tickMs, mode, port, databasePath⟩
    exact ⟨eraDuration, budget, token, tickMs, mode, port, databasePath⟩
  · rintro ⟨eraDuration, budget, token, tickMs, mode, port, databasePath⟩
    exact ⟨eraDuration, budget, token, tickMs, mode, port, databasePath⟩

theorem require_onlyConfig (condition : Bool) (error : ConfigError) :
    OnlyConfig (Draft.require condition error) := by
  intro failure failed
  rw [Draft.require] at failed
  split at failed <;> cases failed
  trivial

theorem check_toDraft_onlyConfig (s : Settings) : OnlyConfig s.toDraft.check := by
  rw [check_toDraft]
  refine .bind (require_onlyConfig _ _) fun _ _ => .bind (require_onlyConfig _ _) fun _ _ => ?_
  refine .bind (require_onlyConfig _ _) fun _ _ => .bind (require_onlyConfig _ _) fun _ _ => ?_
  refine .bind (require_onlyConfig _ _) fun _ _ => .bind (require_onlyConfig _ _) fun _ _ => ?_
  exact require_onlyConfig _ _

theorem settle_toDraft (s : Settings) : s.toDraft.settle = .ok s := rfl

/-! ## Settings in texts -/

/-- The settings that texts yield, if they are accepted. -/
def inTexts (texts : String → Option String) : Except Failure Settings :=
  ofSource (ofTexts texts) >>= Draft.settle

theorem inTexts_eq_ok_iff {texts : String → Option String} (nonblank : Nonblank texts)
    {s : Settings} : inTexts texts = .ok s ↔ Reads default texts s ∧ Accepted s := by
  simp only [inTexts, ofSource, bind_eq_ok_iff, overlay_eq_ok_iff nonblank]
  constructor
  · rintro ⟨_, ⟨_, ⟨read, reads, rfl⟩, _, checked, returned⟩, settled⟩
    cases returned
    cases settled
    exact ⟨reads, check_toDraft_iff.1 checked⟩
  · rintro ⟨reads, accepted⟩
    exact ⟨_, ⟨_, ⟨s, reads, rfl⟩, (), check_toDraft_iff.2 accepted, rfl⟩, settle_toDraft s⟩

theorem inTexts_onlyConfig {texts : String → Option String} (nonblank : Nonblank texts) :
    OnlyConfig (inTexts texts) := by
  refine .bind (.bind (overlay_onlyConfig default nonblank) fun draft overlaid => ?_)
    fun draft found => ?_
  · obtain ⟨s, -, rfl⟩ := (overlay_eq_ok_iff nonblank).1 overlaid
    exact .bind (check_toDraft_onlyConfig s) fun _ _ => .ok _
  · obtain ⟨draft, overlaid, found⟩ := ok_of_bind found
    obtain ⟨s, -, rfl⟩ := (overlay_eq_ok_iff nonblank).1 overlaid
    obtain ⟨_, -, returned⟩ := ok_of_bind found
    cases returned
    exact .ok s

theorem ofSource_congr {source other : Source}
    (same : ∀ entry ∈ variableNames, source entry.1 = other entry.1) :
    ofSource source = ofSource other := by
  rw [ofSource, ofSource, overlay_congr same]

theorem inTexts_congr {texts others : String → Option String}
    (same : ∀ entry ∈ variableNames, texts entry.1 = others entry.1) :
    inTexts texts = inTexts others := by
  have lookups : ∀ entry ∈ variableNames, ofTexts texts entry.1 = ofTexts others entry.1 :=
    fun entry listed => by simp only [ofTexts, same entry listed]
  rw [inTexts, inTexts, ofSource_congr lookups]

/-- The texts of an environment, blank ones left out. -/
def textIn (env : Environment) (setting : String) : Option String :=
  ((variableNames.lookup setting).bind env.get?).filter fun text => !Text.isBlankText text

theorem nonblank_textIn (env : Environment) : Nonblank (textIn env) := by
  intro setting text given
  obtain ⟨-, nonblank⟩ := Option.filter_eq_some_iff.1 given
  simpa using nonblank

theorem fromVariable_eq (env : Environment) : fromVariable env = ofTexts (textIn env) := by
  funext setting
  rw [fromVariable, ofTexts, textIn]
  cases (variableNames.lookup setting).bind env.get? with
  | none => rfl
  | some text =>
      rw [Option.filter_some]
      dsimp only
      cases Text.isBlankText text <;> rfl

theorem load_of_unnamed {env : Environment} {files : Files}
    (unnamed : (env.get? "ERALEDGER_CONFIG_PATH").getD "" = "") :
    load env files = inTexts (textIn env) := by
  rw [load, find_eq]
  dsimp only
  rw [if_pos unnamed, ofEnvironment, fromVariable_eq, inTexts]

/-! ## Documents -/

/-- A JSON text of an object in which settings have texts. -/
def IsDocument (text : String) (given : String → Option String) : Prop :=
  ∃ value, Json.readWithin deepestFile ((Text.unifyBreaks text.toList).map .char) = .ok value ∧
    value.isObject = true ∧
      ∀ entry ∈ variableNames, value.member? entry.1 = (given entry.1).map .text

theorem member?_objectOf (given : List (String × String)) (name : String) :
    (Json.objectOf given).member? name = (given.lookup name).map .text := by
  rw [Json.objectOf, Value.member?]
  induction given with
  | nil => rfl
  | cons entry others induction =>
      rw [List.map_cons, List.find?_cons, List.lookup_cons]
      by_cases here : entry.1 = name
      · simp [here]
      · have front : (entry.1 == name) = false := beq_false_of_ne here
        have back : (name == entry.1) = false := beq_false_of_ne (Ne.symm here)
        rw [front, back]
        exact induction

/-- The document that is written of an object of texts is one in which settings have these texts. -/
theorem isDocument_write (escaped : Bool) {given : List (String × String)}
    (distinct : (given.map Prod.fst).Nodup) :
    IsDocument (Json.write (.plain escaped) (Json.objectOf given)) fun name => given.lookup name :=
  ⟨Json.objectOf given, Json.readWithin_write escaped distinct (deepestFile - 1), rfl,
    fun entry _ => member?_objectOf given entry.1⟩

theorem load_of_document {env : Environment} {files : Files} {path text : String}
    {given : String → Option String} (named : env.get? "ERALEDGER_CONFIG_PATH" = some path)
    (nonempty : path ≠ "") (ending : fileEnding path ∉ [".yaml", ".yml"])
    (stored : files.read path = .ok text) (document : IsDocument text given) :
    load env files = inTexts given := by
  obtain ⟨value, read, object, members⟩ := document
  have found : inJson (Text.unifyBreaks text.toList) =
      .ok (some fun setting => .ok ((value.member? setting).getD .null)) := by
    rw [inJson, read]
    dsimp only
    rw [if_pos object]
  have same : ∀ entry ∈ variableNames,
      (.ok ((value.member? entry.1).getD .null) : Except Failure Value) = ofTexts given entry.1 := by
    intro entry listed
    rw [ofTexts, members entry listed]
    cases given entry.1 <;> rfl
  rw [load, find_eq, named]
  dsimp only [Option.getD_some]
  rw [if_neg nonempty, stored, ok_bind, ofFile]
  dsimp only
  rw [if_neg (by simpa using ending), found, ok_bind, inTexts]
  exact congrArg (· >>= Draft.settle) (ofSource_congr same)

end Settings

/-! ## Environments -/

namespace Environment

/-- A variable that is set and not blank has an integer in a range. -/
def Admits (env : Environment) (name : String) (range : Set Int) : Prop :=
  ∀ text, env.get? name = some text → Text.isBlankText text = false →
    ∃ n ∈ range, Settings.integerIn? text = some n

/-- What an environment gives is acceptable. -/
structure IsValid (env : Environment) : Prop where
  /-- The length of an era. -/
  eraDuration : env.Admits "ERALEDGER_ERA_DURATION" (Set.Ici 1)
  /-- The budget of an era. -/
  budget : env.Admits "ERALEDGER_REWARDS_PER_ERA" (Set.Icc 0 (2 ^ 128 - 1))
  /-- The token. -/
  token : env.Admits "ERALEDGER_NATIVE_TOKEN_ID" (Set.Ici 0)
  /-- The length of a tick. -/
  tickMs : env.Admits "ERALEDGER_TICK_MS" (Set.Ici 1)
  /-- The port. -/
  port : env.Admits "ERALEDGER_API_PORT" (Set.Icc 1 65535)
  /-- The mode, stripped and in lower case, if it is not blank. -/
  mode : ∀ text, env.get? "ERALEDGER_MODE" = some text → Text.isBlankText text = false →
    Text.lower (Text.strip text) ∈ ["dev", "testnet", "prod"]

end Environment

namespace Settings

variable {env : Environment} {setting named : String}

theorem textIn_eq_some_iff (lookup : variableNames.lookup setting = some named) {text : String} :
    textIn env setting = some text ↔ env.get? named = some text ∧ Text.isBlankText text = false := by
  rw [textIn, lookup, Option.bind_some, Option.filter_eq_some_iff, Bool.not_eq_true']

theorem exists_integerBy_iff (env : Environment) (lookup : variableNames.lookup setting = some named)
    {fallback : Int} {range : Set Int} (usual : fallback ∈ range) :
    (∃ n ∈ range, integerBy (textIn env setting) fallback = some n) ↔ env.Admits named range := by
  constructor
  · rintro ⟨n, inside, read⟩ text set nonblank
    rw [(textIn_eq_some_iff lookup).2 ⟨set, nonblank⟩, integerBy_some] at read
    exact ⟨n, inside, read⟩
  · intro admits
    cases given : textIn env setting with
    | none => exact ⟨fallback, usual, integerBy_none fallback⟩
    | some text =>
        obtain ⟨set, nonblank⟩ := (textIn_eq_some_iff lookup).1 given
        simpa only [integerBy_some] using admits text set nonblank

theorem mem_modes_iff {mode : String} : mode ∈ Draft.modes ↔ mode ∈ ["dev", "testnet", "prod"] := by
  simp only [Draft.modes, List.mem_cons, List.not_mem_nil, or_false]
  tauto

theorem lower_strip_lower_strip (s : String) :
    Text.lower (Text.strip (Text.lower (Text.strip s))) = Text.lower (Text.strip s) := by
  rw [Text.strip_lower_strip, Text.lower_lower]

theorem exists_reads_iff (env : Environment) :
    (∃ s, Reads default (textIn env) s ∧ Accepted s) ↔ env.IsValid := by
  have eraDuration := exists_integerBy_iff env (rfl : variableNames.lookup "era_duration" = _)
    (show default.eraDuration ∈ Set.Ici 1 by decide)
  have budget := exists_integerBy_iff env (rfl : variableNames.lookup "rewards_per_era" = _)
    (show default.budget ∈ Set.Icc 0 (2 ^ 128 - 1) by decide)
  have token := exists_integerBy_iff env (rfl : variableNames.lookup "native_token_id" = _)
    (show default.token ∈ Set.Ici 0 by decide)
  have tickMs := exists_integerBy_iff env (rfl : variableNames.lookup "tick_ms" = _)
    (show default.tickMs ∈ Set.Ici 1 by decide)
  have port := exists_integerBy_iff env (rfl : variableNames.lookup "api_port" = _)
    (show default.port ∈ Set.Icc 1 65535 by decide)
  constructor
  · rintro ⟨s, reads, accepted⟩
    refine ⟨eraDuration.1 ⟨_, accepted.eraDuration, reads.eraDuration⟩,
      budget.1 ⟨_, accepted.budget, reads.budget⟩, token.1 ⟨_, accepted.token, reads.token⟩,
      tickMs.1 ⟨_, accepted.tickMs, reads.tickMs⟩, port.1 ⟨_, accepted.port, reads.port⟩,
      fun text set nonblank => ?_⟩
    have mode := accepted.mode
    rw [reads.mode, (textIn_eq_some_iff rfl).2 ⟨set, nonblank⟩, Option.getD_some,
      lower_strip_lower_strip] at mode
    exact mem_modes_iff.1 mode
  · rintro ⟨era_valid, budget_valid, token_valid, tick_valid, port_valid, mode⟩
    obtain ⟨n, era_mem, era_eq⟩ := eraDuration.2 era_valid
    obtain ⟨b, budget_mem, budget_eq⟩ := budget.2 budget_valid
    obtain ⟨k, token_mem, token_eq⟩ := token.2 token_valid
    obtain ⟨ms, tick_mem, tick_eq⟩ := tickMs.2 tick_valid
    obtain ⟨p, port_mem, port_eq⟩ := port.2 port_valid
    refine ⟨⟨n, b, k, ms, (textIn env "db_path").getD default.databasePath,
      Text.lower (Text.strip ((textIn env "mode").getD default.mode)),
      (textIn env "api_host").getD default.host, p,
      Text.upper (Text.strip ((textIn env "log_level").getD default.logLevel))⟩,
      ⟨era_eq, budget_eq, token_eq, tick_eq, rfl, rfl, rfl, port_eq, rfl⟩,
      era_mem, budget_mem, token_mem, tick_mem, ?_, port_mem, ?_⟩
    · rw [lower_strip_lower_strip]
      cases given : textIn env "mode" with
      | none => rw [Option.getD_none, default, Environment.lower_strip_prod]; decide
      | some text =>
          obtain ⟨set, nonblank⟩ := (textIn_eq_some_iff rfl).1 given
          exact mem_modes_iff.2 (mode text set nonblank)
    · cases given : textIn env "db_path" with
      | none =>
          show Text.isBlankText "./data/eraledger.db" = false
          decide +kernel
      | some text => exact nonblank_textIn env _ _ given

/-! ## Loaded settings -/

theorem eq_text_of_textIn {value : Value} {text : String} (read : Draft.textIn value = .ok text) :
    value = .text text := by
  rw [Draft.textIn.eq_def] at read
  split at read <;> cases read
  rfl

theorem eq_toDraft_of_settle {base s : Settings} {source : Source} {draft : Draft}
    (overlaid : base.overlay source = .ok draft) (settled : draft.settle = .ok s) :
    draft = s.toDraft := by
  -- An overlay looks up nine settings and reads five of them as integers.
  iterate 14 obtain ⟨_, -, overlaid⟩ := ok_of_bind overlaid
  cases overlaid
  simp only [Draft.settle, Value.toInt, ok_bind, bind_eq_ok_iff] at settled
  obtain ⟨path, path_eq, mode, mode_eq, host, host_eq, level, level_eq, returned⟩ := settled
  cases returned
  simp only [toDraft, eq_text_of_textIn path_eq, eq_text_of_textIn mode_eq,
    eq_text_of_textIn host_eq, eq_text_of_textIn level_eq]

theorem exists_source_of_ofFile {path text : String} {draft : Draft}
    (read : ofFile path text = .ok draft) : ∃ source, ofSource source = .ok draft := by
  rw [ofFile] at read
  dsimp only at read
  split at read
  all_goals
    obtain ⟨source?, -, read⟩ := ok_of_bind read
    cases source? with
    | none => cases read
    | some source => exact ⟨source, read⟩

/-- Settings are accepted wherever they were loaded from. -/
theorem accepted_of_load {files : Files} {s : Settings} (loaded : load env files = .ok s) :
    Accepted s := by
  obtain ⟨draft, found, settled⟩ := ok_of_bind loaded
  obtain ⟨source, read⟩ : ∃ source, ofSource source = .ok draft := by
    rw [find_eq] at found
    dsimp only at found
    split at found
    · exact ⟨_, found⟩
    · obtain ⟨text, -, found⟩ := ok_of_bind found
      exact exists_source_of_ofFile found
  obtain ⟨_, overlaid, read⟩ := ok_of_bind read
  obtain ⟨_, checked, returned⟩ := ok_of_bind read
  cases returned
  rw [eq_toDraft_of_settle overlaid settled] at checked
  exact check_toDraft_iff.1 checked

/-- The parameters in accepted settings. -/
def Accepted.parameters {s : Settings} (accepted : Accepted s) : Parameters where
  eraDuration := s.eraDuration
  eraDuration_pos := accepted.eraDuration
  budget := ⟨s.budget.toNat, by have := accepted.budget; omega⟩
  token := s.token

theorem Accepted.ofValues_eq {s : Settings} (accepted : Accepted s) :
    Parameters.ofValues (.int s.eraDuration) (.int s.budget) (.int s.token) =
      .ok accepted.parameters := by
  have duration : Era.durationOfValue (.int s.eraDuration) =
    .ok ⟨s.eraDuration, accepted.eraDuration⟩ := dif_pos accepted.eraDuration
  have budget : Amount.ofValue? (.int s.budget) = some accepted.parameters.budget :=
    dif_pos accepted.budget
  rw [Parameters.ofValues, duration, budget]
  rfl

end Settings

theorem Database.error_of_write {α : Type} {transaction : Transaction α} {db : Database}
    {failure : Failure} (failed : (db.write transaction).1 = .error failure) :
    db.contention.refusal? = some failure ∨ (transaction.run.run db.tables).1 = .error failure := by
  rw [write] at failed
  split at failed
  · rename_i refused
    cases failed
    exact .inl refused
  · right
    split at failed <;> rename_i ran
    · cases failed
    · rw [ran]
      exact failed

theorem Schema.error_of_ensure {t : Tables} {failure : Failure}
    (failed : (ensure.run.run t).1 = .error failure) :
    ∃ found, failure = .schemaMismatch found := by
  rw [ensure, run_bind, run_get] at failed
  dsimp only at failed
  split at failed
  · cases failed
  · split at failed <;> cases failed
    exact ⟨_, rfl⟩

/-- A ledger with accepted parameters may fail to open, but not because of a setting. -/
theorem Service.not_isConfig_of_start {process : Environment} {parameters : Parameters}
    {balances : BalanceStore} {db : Database} {failure : Failure}
    (failed : (start process parameters balances db).1 = .error failure) : ¬failure.IsConfig := by
  rw [start] at failed
  split at failed
  · rename_i refusal refused
    cases failed
    rcases error_of_bind refused with slow | ⟨_, -, journal⟩
    · rw [Tuning.checkTimeout] at slow
      split at slow <;> cases slow
      exact id
    · cases journal
  · rcases Database.error_of_write (error_of_map failed) with refused | mismatch
    · cases contention_eq : db.contention <;> rw [contention_eq] at refused <;> cases refused <;>
        exact id
    · obtain ⟨found, rfl⟩ := Schema.error_of_ensure mismatch
      exact id

namespace Settings

/-- A ledger opens with settings as it does with parameters equal to them. -/
structure OpensUnder (s : Settings) (parameters : Parameters) : Prop where
  /-- The length of an era is the same. -/
  eraDuration : parameters.eraDuration = s.eraDuration
  /-- The budget is the same. -/
  budget : parameters.budget.val = s.budget
  /-- The token is the same. -/
  token : parameters.token = s.token
  /-- The settings pass the check that comes before the parameters. -/
  openLedger_eq : ∀ process db, Api.Host.openLedger process s db =
    Service.start process parameters .bundled db

theorem Accepted.opensUnder {s : Settings} (accepted : Accepted s) :
    s.OpensUnder accepted.parameters where
  eraDuration := rfl
  budget := Int.toNat_of_nonneg accepted.budget.1
  token := rfl
  openLedger_eq _ db :=
    Api.Host.openLedger_of_check (check_toDraft_iff.2 accepted) accepted.ofValues_eq db

theorem lookup_variableNames {entry : String × String} (listed : entry ∈ variableNames) :
    variableNames.lookup entry.1 = some entry.2 := by
  revert entry
  decide

/-- An environment that names no file yields settings exactly if it is valid, and else fails because
of a setting.  A JSON file of texts that are not blank yields what the environment with these texts
does, and every object of texts can be written as such a file.  Settings that have been loaded, from
wherever, open a ledger under equal parameters, and what fails to open does not fail because of a
setting. -/
theorem load_ok_iff_isValid {env : Environment} {files : Files}
    (unnamed : (env.get? "ERALEDGER_CONFIG_PATH").getD "" = "") :
    ((∃ s, load env files = .ok s) ↔ env.IsValid) ∧
    (∀ failure, load env files = .error failure → failure.IsConfig) ∧
    (∀ (given : String → Option String) (asking : Environment) (disk : Files) (path text : String),
      (∀ entry ∈ variableNames, env.get? entry.2 = given entry.1 ∧
        ∀ text, given entry.1 = some text → Text.isBlankText text = false) →
      asking.get? "ERALEDGER_CONFIG_PATH" = some path → path ≠ "" →
      fileEnding path ∉ [".yaml", ".yml"] → disk.read path = .ok text → IsDocument text given →
      load asking disk = load env files) ∧
    (∀ (escaped : Bool) (given : List (String × String)), (given.map Prod.fst).Nodup →
      IsDocument (Json.write (.plain escaped) (Json.objectOf given)) fun name => given.lookup name) ∧
    ∀ (asking : Environment) (disk : Files) (s : Settings), load asking disk = .ok s →
      ∃ parameters, s.OpensUnder parameters ∧
        (Service.start .empty parameters .bundled .empty).1 = .ok ⟨parameters, .bundled⟩ ∧
        ∀ process balances db, match (Service.start process parameters balances db).1 with
          | .ok ledger => ledger = ⟨parameters, balances⟩
          | .error failure => ¬failure.IsConfig := by
  have loaded : load env files = inTexts (textIn env) := load_of_unnamed unnamed
  refine ⟨?_, ?_, fun given asking disk path text agree named nonempty ending stored document => ?_,
    fun escaped given => isDocument_write escaped, fun asking disk s accepted => ?_⟩
  · simp only [loaded, inTexts_eq_ok_iff (nonblank_textIn env)]
    exact exists_reads_iff env
  · rw [loaded]
    exact inTexts_onlyConfig (nonblank_textIn env)
  · rw [loaded, load_of_document named nonempty ending stored document]
    refine inTexts_congr fun entry listed => ?_
    obtain ⟨same, nonblank⟩ := agree entry listed
    rw [textIn, lookup_variableNames listed, Option.bind_some, same]
    cases given_eq : given entry.1 with
    | none => rfl
    | some text => rw [Option.filter_some, nonblank text given_eq]; rfl
  · have accepted := accepted_of_load accepted
    refine ⟨accepted.parameters, accepted.opensUnder,
      congrArg Prod.fst (Service.start_empty _ _), fun process balances db => ?_⟩
    cases opened : (Service.start process accepted.parameters balances db).1 with
    | ok ledger => exact Service.eq_of_start (Prod.ext opened rfl)
    | error failure => exact Service.not_isConfig_of_start opened

/-- Texts for two settings, as the environment may give them. -/
def sampleTexts : List (String × String) := [("era_duration", " 1_000"), ("mode", "Dev ")]

/-- A file with these texts. -/
def sampleFiles : Files :=
  ⟨[("ledger.json", Json.write (.plain true) (Json.objectOf sampleTexts))], []⟩

/-- Eras of a thousand ticks are read from an environment and from a file, and a ledger opens with
them. -/
theorem load_ok_iff_isValid_sample :
    let env : Environment := ⟨[("ERALEDGER_ERA_DURATION", " 1_000"), ("ERALEDGER_MODE", "Dev ")]⟩
    env.IsValid ∧
      load ⟨[("ERALEDGER_CONFIG_PATH", "ledger.json")]⟩ sampleFiles = load env .none ∧
      load env .none = .ok { Settings.default with eraDuration := 1000, mode := "dev" } ∧
      ∃ parameters, parameters.eraDuration = 1000 ∧
        (Service.start .empty parameters .bundled .empty).1 = .ok ⟨parameters, .bundled⟩ := by
  intro env
  have loaded : load env .none = .ok { Settings.default with eraDuration := 1000, mode := "dev" } :=
    ok_of_toOption (by decide +kernel)
  obtain ⟨valid_iff, -, same, written, opens⟩ := @load_ok_iff_isValid env .none rfl
  refine ⟨valid_iff.1 ⟨_, loaded⟩, ?_, loaded, ?_⟩
  · exact same (fun name => sampleTexts.lookup name) _ _ "ledger.json" _ (by decide +kernel) rfl
      (by decide) (by decide +kernel) (ok_of_toOption (by decide +kernel))
      (written true sampleTexts (by decide))
  · obtain ⟨parameters, under, opened, -⟩ := opens env .none _ loaded
    exact ⟨parameters, under.eraDuration, opened⟩

end Settings
end EraRewards
