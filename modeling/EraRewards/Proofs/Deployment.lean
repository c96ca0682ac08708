import EraRewards.Proofs.History

/-!
# Deployments

A database outlives the ledger that is open on it: it may be opened again with other parameters, with
another balance store, clock and sink.  An attempt to open it that fails leaves the ledger in place
that was open before.  A deployment goes through openings and calls, and its tables have a history in
which any ledger may take part.
-/

namespace EraRewards

open Effect

/-- What a ledger is opened with. -/
structure Opening where
  /-- The other writer, if any. -/
  contention : Contention
  /-- Variables of the process. -/
  env : Environment
  /-- Ticks in an era. -/
  eraDuration : Value
  /-- Reward that is shared out for an era. -/
  budget : Value
  /-- Token in which claims are paid. -/
  token : Value
  /-- Where claims are credited. -/
  balances : BalanceStore
  /-- Source of ticks. -/
  clock : Clock
  /-- Receiver of claim events. -/
  sink : Sink

/-- Opens a ledger on a database if the parameters are accepted. -/
def Opening.start (opening : Opening) (db : Database) : Except Failure Service × Database :=
  match Parameters.ofValues opening.eraDuration opening.budget opening.token with
  | .error failure => (.error failure, db)
  | .ok parameters => Service.start opening.env parameters opening.balances db

/-- A node and the ledger that is open on its database, if one is. -/
structure Deployment where
  /-- The open ledger. -/
  ledger : Option Service
  /-- The node. -/
  node : Node

/-- What happens in a deployment. -/
inductive Deployment.Step
  /-- An attempt to open the database. -/
  | opening (opening : Opening)
  /-- A call to the open ledger. -/
  | turn (turn : Turn)

namespace Deployment

/-- Nothing is open yet on the empty database of a node. -/
def new (node : Node) : Deployment := ⟨none, node.on .empty⟩

/-- The deployment after a step. -/
def next (d : Deployment) : Step → Deployment
  | .opening opening =>
    match opening.start (d.node.facing opening.contention).database with
    | (.error _, database) => { d with node := { d.node with database } }
    | (.ok s, database) =>
      ⟨some s, { d.node with database, clock := opening.clock, sink := opening.sink }⟩
  | .turn turn =>
    match d.ledger with
    | none => d
    | some s => { d with node := s.serve turn d.node }

/-- The entry of a step, if the step changes something. -/
def entryOf (d : Deployment) : Step → Option Entry
  | .opening _ => none
  | .turn turn => d.ledger.bind fun s => s.entryOf turn d.node

/-- The deployment after some steps. -/
def run (d : Deployment) : List Step → Deployment
  | [] => d
  | step :: steps => (d.next step).run steps

/-- The entries of some steps, in order. -/
def journal (d : Deployment) : List Step → List Entry
  | [] => []
  | step :: steps => (d.entryOf step).toList ++ (d.next step).journal steps

end Deployment

theorem Schema.ensure_run (t : Tables) :
    ∃ stamp, (ensure.run.run t).2 = { t with schemaVersion := stamp } := by
  rw [ensure, run_bind, run_get]
  dsimp only
  cases t.schemaVersion with
  | none => exact ⟨_, rfl⟩
  | some stamp =>
      refine ⟨t.schemaVersion, ?_⟩
      dsimp only
      split <;> rfl

/-- Opening a database stamps it at most. -/
theorem Service.start_tables (env : Environment) (parameters : Parameters) (balances : BalanceStore)
    (db : Database) :
    ∃ stamp, (start env parameters balances db).2.tables =
      { db.tables with schemaVersion := stamp } := by
  rw [start]
  split
  · exact ⟨db.tables.schemaVersion, rfl⟩
  · dsimp only
    cases written : db.write Schema.ensure with
    | mk outcome after =>
    cases outcome with
    | error failure =>
        have kept := Database.tables_write_of_error (congrArg Prod.fst written)
        rw [written] at kept
        exact ⟨db.tables.schemaVersion, kept⟩
    | ok result =>
        have ensured := Schema.ensure_run db.tables
        rw [Database.run_of_write written] at ensured
        exact ensured

/-- An empty database that was opened. -/
def Database.stamped : Database :=
  ⟨{ Tables.empty with schemaVersion := some (Integer.write Schema.version) }, .free⟩

theorem Service.start_empty (parameters : Parameters) (balances : BalanceStore) :
    start .empty parameters balances .empty = (.ok ⟨parameters, balances⟩, .stamped) := rfl

/-- Eras of a hundred ticks that share out a million in token zero. -/
def Parameters.sample : Parameters := ⟨100, by decide, ⟨1000000, by decide⟩, 0⟩

/-- A ledger with the sample parameters and the balance store that comes with it. -/
def Service.sample : Service := ⟨.sample, .bundled⟩

theorem Service.eq_of_start {env : Environment} {parameters : Parameters} {balances : BalanceStore}
    {s : Service} {before after : Database}
    (opened : start env parameters balances before = (.ok s, after)) : s = ⟨parameters, balances⟩ := by
  rw [start] at opened
  split at opened
  · cases opened
  · cases written : before.write Schema.ensure with
    | mk outcome database =>
    rw [written] at opened
    cases outcome with
    | error failure => cases opened
    | ok result =>
        cases opened
        rfl

namespace Deployment

variable {ledgers : Set Service}

/-- Steps whose openings open no ledgers but some. -/
def Opens (ledgers : Set Service) (steps : List Step) : Prop :=
  ∀ opening, .opening opening ∈ steps →
    ∀ before s after, opening.start before = (.ok s, after) → s ∈ ledgers

theorem opens_of_bundled {steps : List Step}
    (bundled : ∀ opening, .opening opening ∈ steps → opening.balances = .bundled) :
    Opens {s | s.balances = .bundled} steps := by
  intro opening member before s after opened
  have paid := bundled opening member
  rw [Opening.start] at opened
  split at opened
  · cases opened
  · rw [Service.eq_of_start opened]
    exact paid

theorem Opens.of_cons {step : Step} {steps : List Step} (opens : Opens ledgers (step :: steps)) :
    Opens ledgers [step] ∧ Opens ledgers steps :=
  ⟨fun opening member => opens opening (List.mem_cons.2 (.inl (List.mem_singleton.1 member))),
    fun opening member => opens opening (List.mem_cons_of_mem _ member)⟩

/-- The ledger that is open after a step was open before, or has just been opened. -/
theorem among_next {d : Deployment} {step : Step} (opens : Opens ledgers [step])
    (among : ∀ s, d.ledger = some s → s ∈ ledgers) (s : Service)
    (present : (d.next step).ledger = some s) : s ∈ ledgers := by
  cases step with
  | opening opening =>
      rw [next] at present
      rcases outcome_eq : opening.start (d.node.facing opening.contention).database with
        ⟨outcome, database⟩
      rw [outcome_eq] at present
      cases outcome with
      | error failure => exact among s present
      | ok opened =>
          cases present
          exact opens opening (List.mem_singleton_self _) _ _ _ outcome_eq
  | turn turn =>
      rw [next] at present
      split at present <;> exact among s present

/-- The ledger that is open in a deployment was opened by one of its steps. -/
theorem among_run {steps : List Step} (opens : Opens ledgers steps) {d : Deployment}
    (among : ∀ s, d.ledger = some s → s ∈ ledgers) (s : Service)
    (present : (d.run steps).ledger = some s) : s ∈ ledgers := by
  induction steps generalizing d with
  | nil => exact among s present
  | cons step steps induction =>
      obtain ⟨opens_step, opens_steps⟩ := opens.of_cons
      exact induction opens_steps (among_next opens_step among) present

end Deployment

namespace History

variable {ledgers : Set Service} {journal : List Entry}

theorem opening {db : Database} (history : History ledgers journal db.tables) (env : Environment)
    (parameters : Parameters) (balances : BalanceStore) :
    History ledgers journal (Service.start env parameters balances db).2.tables := by
  obtain ⟨stamp, tables_eq⟩ := Service.start_tables env parameters balances db
  rw [tables_eq]
  exact history.stamped stamp

/-- The tables of a run that starts on an empty database have the run's journal for their history. -/
theorem started {env : Environment} {parameters : Parameters} {balances : BalanceStore} {s : Service}
    {db : Database} (opened : Service.start env parameters balances .empty = (.ok s, db))
    (node : Node) (turns : List Turn) :
    History {s} (s.journal turns (node.on db)) (s.run turns (node.on db)).database.tables := by
  have nothing : History {s} [] Database.empty.tables := .empty
  have start := nothing.opening env parameters balances
  rw [opened] at start
  have node_start : History {s} [] (node.on db).database.tables := start
  simpa using node_start.run (Set.mem_singleton s) turns

/-- A step continues the history of a deployment whose ledgers are among some. -/
theorem next {d : Deployment} (history : History ledgers journal d.node.database.tables)
    (among : ∀ s, d.ledger = some s → s ∈ ledgers) (step : Deployment.Step) :
    History ledgers (journal ++ (d.entryOf step).toList) (d.next step).node.database.tables := by
  cases step with
  | opening opening =>
      have opened : History ledgers journal
          (d.node.facing opening.contention).database.tables := history
      have started : History ledgers journal
          (opening.start (d.node.facing opening.contention).database).2.tables := by
        rw [Opening.start]
        split
        · exact history
        · exact opened.opening _ _ _
      rw [Deployment.next, Deployment.entryOf, Option.toList_none, List.append_nil]
      rcases outcome_eq : opening.start (d.node.facing opening.contention).database with
        ⟨outcome, database⟩
      rw [outcome_eq] at started
      cases outcome <;> exact started
  | turn turn =>
      rw [Deployment.next, Deployment.entryOf]
      cases ledger_eq : d.ledger with
      | none => simpa using history
      | some s => exact history.serve (among s ledger_eq) turn

/-- The tables of a deployment have the journal of the deployment for their history. -/
theorem deployment {steps : List Deployment.Step} (opens : Deployment.Opens ledgers steps)
    {d : Deployment} (history : History ledgers journal d.node.database.tables)
    (among : ∀ s, d.ledger = some s → s ∈ ledgers) :
    History ledgers (journal ++ d.journal steps) (d.run steps).node.database.tables := by
  induction steps generalizing journal d with
  | nil => simpa [Deployment.journal, Deployment.run] using history
  | cons step steps induction =>
      obtain ⟨opens_step, opens_steps⟩ := opens.of_cons
      have continued := induction opens_steps (history.next among step)
        (Deployment.among_next opens_step among)
      rw [List.append_assoc] at continued
      exact continued

/-- The tables of a deployment from an empty database, whose openings open some ledgers, have the
journal of the deployment for their history. -/
theorem deployed_of_opens (node : Node) {steps : List Deployment.Step}
    (opens : Deployment.Opens ledgers steps) :
    History ledgers ((Deployment.new node).journal steps)
      ((Deployment.new node).run steps).node.database.tables := by
  have start : History ledgers [] (Deployment.new node).node.database.tables := .empty
  simpa using start.deployment opens fun _ absent => by cases absent

theorem deployed (node : Node) (steps : List Deployment.Step) :
    History Set.univ ((Deployment.new node).journal steps)
      ((Deployment.new node).run steps).node.database.tables :=
  deployed_of_opens node fun _ _ _ s _ _ => Set.mem_univ s

/-- Where every opening takes the store that comes with the ledger, only such ledgers take part. -/
theorem deployed_bundled (node : Node) {steps : List Deployment.Step}
    (bundled : ∀ opening, .opening opening ∈ steps → opening.balances = .bundled) :
    History {s | s.balances = .bundled} ((Deployment.new node).journal steps)
      ((Deployment.new node).run steps).node.database.tables :=
  deployed_of_opens node (Deployment.opens_of_bundled bundled)

end History

theorem Deployment.bundled_of_present {node : Node} {steps : List Step} {s : Service}
    (bundled : ∀ opening, .opening opening ∈ steps → opening.balances = .bundled)
    (present : ((new node).run steps).ledger = some s) : s.balances = .bundled := by
  have opens := opens_of_bundled bundled
  exact among_run opens (fun _ absent => by cases absent) s present

end EraRewards
