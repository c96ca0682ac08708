import EraRewards.Api.Host
import EraRewards.Proofs.Effect
import Mathlib.Tactic

/-!
# Who occupies a database

Applications are booted on a host, started, asked and stopped in any order.  One that has been booted
occupies its database until it has been started and stopped, and the locks of the host are those of
the applications that occupy one.  So a boot is refused exactly where another application is in the
way, and no database is ever occupied twice.
-/

namespace EraRewards
namespace Api

/-! ## Boots -/

/-- The lock that an application takes when it boots. -/
def Running.lock (running : Running) : HeldLock :=
  ⟨WriterLocks.pathOf running.databasePath, running.holder⟩

/-- Whether a boot on a database gets past its lock. -/
def Host.Admits (host : Host) (databasePath : String) : Prop :=
  ∃ locks, host.locks.acquire (WriterLocks.pathOf databasePath) host.nextHolder = .ok locks

namespace Boot

/-- What becomes of a boot and of the host. -/
inductive Leads (boot : Boot) (host : Host) : Except Failure Running × Host → Prop
  /-- There are no settings. -/
  | unloaded {failure : Failure} (loaded : boot.settings = .error failure) :
      Leads boot host (.error failure, host)
  /-- Somebody holds the lock. -/
  | refused {settings : Settings} (loaded : boot.settings = .ok settings)
      (held : host.locks.isHeld (WriterLocks.pathOf settings.databasePath) = true) :
      Leads boot host (.error .writerLockHeld, host)
  /-- The application cannot be built, and the lock has been given back. -/
  | unbuilt {settings : Settings} {failure : Failure} {after : Host}
      (loaded : boot.settings = .ok settings)
      (free : host.locks.isHeld (WriterLocks.pathOf settings.databasePath) = false)
      (build_eq : (boot.build settings (host.database settings.databasePath) host.nextHolder).1 =
        .error failure)
      (locks_eq : after.locks = host.locks) (next_eq : after.nextHolder = host.nextHolder + 1) :
      Leads boot host (.error failure, after)
  /-- The application has been built and holds the lock. -/
  | built {settings : Settings} {running : Running} {after : Host}
      (loaded : boot.settings = .ok settings)
      (free : host.locks.isHeld (WriterLocks.pathOf settings.databasePath) = false)
      (build_eq : (boot.build settings (host.database settings.databasePath) host.nextHolder).1 =
        .ok running)
      (path_eq : running.databasePath = settings.databasePath)
      (holder_eq : running.holder = host.nextHolder)
      (locks_eq : after.locks = ⟨host.locks.held ++ [running.lock]⟩)
      (next_eq : after.nextHolder = host.nextHolder + 1) :
      Leads boot host (.ok running, after)

/-- An application is built on the database of its settings, under the number that it is given. -/
theorem eq_of_build {boot : Boot} {settings : Settings} {db : Database} {holder : Int}
    {running : Running} (build_eq : (boot.build settings db holder).1 = .ok running) :
    running.databasePath = settings.databasePath ∧ running.holder = holder := by
  rw [build] at build_eq
  dsimp only at build_eq
  cases opened : (boot.opening settings db).1 with
  | error failure =>
      rw [opened] at build_eq
      cases build_eq
  | ok service =>
      rw [opened] at build_eq
      cases build_eq
      exact ⟨rfl, rfl⟩

theorem leads (boot : Boot) (host : Host) : boot.Leads host (host.bootFrom boot) := by
  rw [Host.bootFrom]
  cases loaded : boot.settings with
  | error failure => exact .unloaded loaded
  | ok settings =>
      dsimp only
      rw [Host.bootWith]
      dsimp only
      cases held : host.locks.isHeld (WriterLocks.pathOf settings.databasePath) with
      | true =>
          rw [WriterLocks.acquire_of_held held]
          exact .refused loaded held
      | false =>
          rw [WriterLocks.acquire_of_free held]
          dsimp only
          rcases build_eq : boot.build settings (host.database settings.databasePath)
            host.nextHolder with ⟨outcome, db⟩
          have outcome_eq := congrArg Prod.fst build_eq
          cases outcome with
          | error failure =>
              exact .unbuilt loaded held outcome_eq (WriterLocks.release_of_free held) rfl
          | ok running =>
              obtain ⟨path_eq, holder_eq⟩ := eq_of_build outcome_eq
              refine .built loaded held outcome_eq path_eq holder_eq ?_ rfl
              rw [Running.lock, path_eq, holder_eq]

end Boot

namespace Host

variable {host : Host} {boot : Boot}

theorem admits_iff {path : String} :
    host.Admits path ↔ host.locks.isHeld (WriterLocks.pathOf path) = false := by
  constructor
  · rintro ⟨locks, acquired⟩
    by_contra held
    rw [WriterLocks.acquire_of_held (eq_true_of_ne_false held)] at acquired
    cases acquired
  · exact fun free => ⟨_, WriterLocks.acquire_of_free free⟩

theorem bootFrom_of_admits {settings : Settings} (loaded : boot.settings = .ok settings)
    (admits : host.Admits settings.databasePath) :
    (host.bootFrom boot).1 =
      (boot.build settings (host.database settings.databasePath) host.nextHolder).1 := by
  have free := admits_iff.1 admits
  have leads := boot.leads host
  generalize host.bootFrom boot = result at leads ⊢
  cases leads with
  | unloaded unloaded => cases loaded.symm.trans unloaded
  | refused loaded' held =>
      cases loaded.symm.trans loaded'
      cases free.symm.trans held
  | unbuilt loaded' _ build_eq =>
      cases loaded.symm.trans loaded'
      exact build_eq.symm
  | built loaded' _ build_eq =>
      cases loaded.symm.trans loaded'
      exact build_eq.symm

theorem bootFrom_of_not_admits {settings : Settings} (loaded : boot.settings = .ok settings)
    (refused : ¬host.Admits settings.databasePath) :
    host.bootFrom boot = (.error .writerLockHeld, host) := by
  have held := eq_true_of_ne_false (mt admits_iff.2 refused)
  rw [bootFrom, loaded]
  dsimp only
  rw [bootWith, WriterLocks.acquire_of_held held]

/-- A boot that fails leaves the locks as they were. -/
theorem locks_bootFrom_of_error {failure : Failure}
    (failed : (host.bootFrom boot).1 = .error failure) :
    (host.bootFrom boot).2.locks = host.locks := by
  have leads := boot.leads host
  generalize host.bootFrom boot = result at leads failed ⊢
  cases leads with
  | unloaded => rfl
  | refused => rfl
  | unbuilt _ _ _ locks_eq => exact locks_eq
  | built => cases failed

@[simp] theorem locks_shutDown (host : Host) (running : Running) :
    (host.shutDown running).locks =
      host.locks.release (WriterLocks.pathOf running.databasePath) running.holder := rfl

end Host

/-! ## Applications on a host -/

/-- What an application is made to do. -/
inductive Act
  /-- To begin its work. -/
  | start
  /-- To answer a request. -/
  | answer (moment : Moment) (request : Http.Request)
  /-- To end its work. -/
  | stop

/-- How far an application has come. -/
inductive Phase
  /-- It has been booted. -/
  | booted
  /-- It has been started. -/
  | started
  /-- It has been stopped. -/
  | stopped
  deriving DecidableEq, Repr

namespace Phase

/-- How far an application has come after an act.  It is started and stopped once, in this order; any
other start or stop is passed over. -/
def after : Phase → Act → Phase
  | booted, .start => started
  | started, .stop => stopped
  | phase, _ => phase

/-- What an application still has to do until it is stopped. -/
def remaining : Phase → List Act
  | booted => [.start, .stop]
  | started => [.stop]
  | stopped => []

theorem after_of_stopped {phase : Phase} (act : Act) (final : phase = stopped) :
    phase.after act = stopped := by
  subst final
  cases act <;> rfl

/-- An act is the next of those that remain, or changes nothing about them. -/
theorem remaining_after (phase : Phase) (act : Act) :
    phase.remaining = act :: (phase.after act).remaining ∨
      (phase.after act).remaining = phase.remaining ∧ ∀ acts, phase.remaining ≠ act :: acts := by
  cases phase <;> cases act <;> simp [remaining, after]

theorem remaining_eq_nil_iff {phase : Phase} : phase.remaining = [] ↔ phase = stopped := by
  cases phase <;> simp [remaining]

end Phase

/-- An application on a host. -/
structure Tenant where
  /-- The application. -/
  running : Running
  /-- How far it has come. -/
  phase : Phase

namespace Tenant

/-- What an application works with after an act; it answers requests while it is started. -/
def nodeAfter (tenant : Tenant) : Act → Node
  | .start =>
    if tenant.phase = .booted then (tenant.running.app.start.run tenant.running.node).2
    else tenant.running.node
  | .answer moment request =>
    if tenant.phase = .started then
      ((tenant.running.app.handle moment request).run tenant.running.node).2
    else tenant.running.node
  | .stop => tenant.running.node

/-- An application after an act. -/
def perform (tenant : Tenant) (act : Act) : Tenant :=
  ⟨{ tenant.running with node := tenant.nodeAfter act }, tenant.phase.after act⟩

/-- Whether an application is stopped by an act. -/
def EndsBy (tenant : Tenant) (act : Act) : Prop :=
  tenant.phase ≠ .stopped ∧ tenant.phase.after act = .stopped

instance (tenant : Tenant) (act : Act) : Decidable (tenant.EndsBy act) :=
  inferInstanceAs (Decidable (_ ∧ _))

@[simp] theorem databasePath_perform (tenant : Tenant) (act : Act) :
    (tenant.perform act).running.databasePath = tenant.running.databasePath := rfl

@[simp] theorem phase_perform (tenant : Tenant) (act : Act) :
    (tenant.perform act).phase = tenant.phase.after act := rfl

end Tenant

/-- A host and the applications that were booted on it, by the numbers under which they hold their
locks. -/
structure Site where
  /-- The host. -/
  host : Host
  /-- The applications. -/
  tenants : Table Int Tenant

namespace Site

/-- What happens on a site. -/
inductive Step
  /-- An attempt to boot an application. -/
  | boot (boot : Boot)
  /-- An act of the application with a number. -/
  | act (holder : Int) (act : Act)

/-- Nothing has been booted yet on a host with some databases. -/
def vacant (databases : Table String Database) (nextHolder : Int) : Site :=
  ⟨⟨databases, .none, nextHolder⟩, .empty⟩

/-- The site after an application has been booted on its host. -/
def enter (site : Site) (running : Running) (host : Host) : Site :=
  ⟨host, site.tenants.insert running.holder ⟨running, .booted⟩⟩

/-- The site after an act of one of its applications. -/
def turn (site : Site) (tenant : Tenant) (act : Act) : Site where
  host := if tenant.EndsBy act then site.host.shutDown tenant.running else site.host
  tenants := site.tenants.insert tenant.running.holder (tenant.perform act)

/-- The site after a step. -/
def next (site : Site) : Step → Site
  | .boot boot =>
    match site.host.bootFrom boot with
    | (.ok running, host) => site.enter running host
    | (.error _, host) => { site with host }
  | .act holder act =>
    match site.tenants.get? holder with
    | some tenant => site.turn tenant act
    | none => site

/-- The site after some steps. -/
def run (site : Site) : List Step → Site
  | [] => site
  | step :: steps => (site.next step).run steps

/-- An application that was booted on a database has not been stopped. -/
def Occupies (site : Site) (holder : Int) (path : String) : Prop :=
  ∃ tenant, site.tenants.get? holder = some tenant ∧ tenant.running.databasePath = path ∧
    tenant.phase ≠ .stopped

section Occupation

variable {site : Site} {tenant : Tenant} {holder : Int} {path : String}

@[simp] theorem host_enter (running : Running) (host : Host) :
    (site.enter running host).host = host := rfl

@[simp] theorem get?_enter (running : Running) (host : Host) :
    (site.enter running host).tenants.get? holder =
      if holder = running.holder then some ⟨running, .booted⟩ else site.tenants.get? holder :=
  Table.get?_insert _ _ _ _

@[simp] theorem get?_turn (act : Act) :
    (site.turn tenant act).tenants.get? holder =
      if holder = tenant.running.holder then some (tenant.perform act)
      else site.tenants.get? holder :=
  Table.get?_insert _ _ _ _

@[simp] theorem nextHolder_turn (act : Act) :
    (site.turn tenant act).host.nextHolder = site.host.nextHolder := by
  rw [turn]
  dsimp only
  split <;> rfl

theorem occupies_iff_of_get? (found : site.tenants.get? holder = some tenant) :
    site.Occupies holder path ↔ tenant.running.databasePath = path ∧ tenant.phase ≠ .stopped := by
  rw [Occupies, found]
  simp

theorem occupies_enter {running : Running} (host : Host)
    (absent : site.tenants.get? running.holder = none) :
    (site.enter running host).Occupies holder path ↔
      site.Occupies holder path ∨ holder = running.holder ∧ path = running.databasePath := by
  by_cases entered : holder = running.holder
  · subst entered
    have nobody : ¬site.Occupies running.holder path := by
      rw [Occupies, absent]
      simp
    have found : (site.enter running host).tenants.get? running.holder = some ⟨running, .booted⟩ := by
      simp
    rw [occupies_iff_of_get? found]
    simp [nobody, eq_comm]
  · simp [Occupies, entered]

/-- An application leaves its database by an act that ends it. -/
theorem occupies_turn (found : site.tenants.get? tenant.running.holder = some tenant) (act : Act) :
    (site.turn tenant act).Occupies holder path ↔
      site.Occupies holder path ∧ ¬(holder = tenant.running.holder ∧ tenant.EndsBy act) := by
  by_cases acting : holder = tenant.running.holder
  · subst acting
    have found' : (site.turn tenant act).tenants.get? tenant.running.holder =
        some (tenant.perform act) := by simp
    rw [occupies_iff_of_get? found, occupies_iff_of_get? found', Tenant.EndsBy]
    have final : tenant.phase = .stopped → tenant.phase.after act = .stopped :=
      Phase.after_of_stopped act
    simp only [Tenant.databasePath_perform, Tenant.phase_perform, true_and]
    tauto
  · simp [Occupies, acting]

/-- An application gives its lock back by an act that ends it. -/
theorem mem_locks_turn {act : Act} {lock : HeldLock} :
    lock ∈ (site.turn tenant act).host.locks.held ↔
      lock ∈ site.host.locks.held ∧ ¬(lock = tenant.running.lock ∧ tenant.EndsBy act) := by
  rw [turn]
  dsimp only
  split
  · rename_i ends
    rw [Host.locks_shutDown, WriterLocks.mem_release]
    simp [ends, Running.lock]
  · rename_i stays
    simp [stays]

end Occupation

/-- The locks are those of the applications that occupy a database, each of which is alone there. -/
structure Secured (site : Site) : Prop where
  /-- Applications are kept under their numbers, and the next number is a new one. -/
  numbered : ∀ {holder : Int} {tenant : Tenant}, site.tenants.get? holder = some tenant →
    tenant.running.holder = holder ∧ holder < site.host.nextHolder
  /-- A lock is held by the application that occupies its database. -/
  held_iff : ∀ lock : HeldLock, lock ∈ site.host.locks.held ↔
    ∃ path, site.Occupies lock.holder path ∧ lock.path = WriterLocks.pathOf path
  /-- No database is occupied twice. -/
  alone : ∀ {path : String} {first second : Int},
    site.Occupies first path → site.Occupies second path → first = second

theorem secured_vacant (databases : Table String Database) (nextHolder : Int) :
    (vacant databases nextHolder).Secured where
  numbered found := by simp [vacant] at found
  held_iff lock := by simp [vacant, Occupies, WriterLocks.none]
  alone occupied := by simp [vacant, Occupies] at occupied

namespace Secured

variable {site : Site}

theorem isHeld_iff (secured : site.Secured) {path : String} :
    site.host.locks.isHeld (WriterLocks.pathOf path) = true ↔ ∃ holder, site.Occupies holder path := by
  rw [WriterLocks.isHeld_iff]
  constructor
  · rintro ⟨holder, present⟩
    obtain ⟨occupied, occupies, same⟩ := (secured.held_iff _).1 present
    obtain rfl := WriterLocks.pathOf_injective same
    exact ⟨holder, occupies⟩
  · rintro ⟨holder, occupies⟩
    exact ⟨holder, (secured.held_iff _).2 ⟨path, occupies, rfl⟩⟩

theorem admits_iff (secured : site.Secured) {path : String} :
    site.host.Admits path ↔ ∀ holder, ¬site.Occupies holder path := by
  rw [Host.admits_iff, ← Bool.not_eq_true, secured.isHeld_iff, not_exists]

/-- A host on which no lock has been taken or given back is as secure as before. -/
theorem rehost (secured : site.Secured) {host : Host} (locks_eq : host.locks = site.host.locks)
    (next_le : site.host.nextHolder ≤ host.nextHolder) : Secured { site with host } where
  numbered found := ⟨(secured.numbered found).1, (secured.numbered found).2.trans_le next_le⟩
  held_iff lock := by
    dsimp only
    rw [locks_eq]
    exact secured.held_iff lock
  alone := secured.alone

/-- An application enters under a new number and with the lock of a database that nobody occupies. -/
theorem enter (secured : site.Secured) {running : Running} {host : Host}
    (holder_eq : running.holder = site.host.nextHolder)
    (empty : ∀ holder, ¬site.Occupies holder running.databasePath)
    (locks_eq : host.locks = ⟨site.host.locks.held ++ [running.lock]⟩)
    (next_eq : host.nextHolder = site.host.nextHolder + 1) : (site.enter running host).Secured := by
  have absent : site.tenants.get? running.holder = none := by
    by_contra present
    obtain ⟨tenant, found⟩ := Option.ne_none_iff_exists'.1 present
    exact (secured.numbered found).2.ne holder_eq
  refine ⟨fun {holder tenant} found => ?_, fun lock => ?_, fun {path first second} => ?_⟩
  · rw [get?_enter] at found
    rw [host_enter, next_eq]
    split at found
    · rename_i same
      cases found
      exact ⟨same.symm, by rw [same, holder_eq]; exact Int.lt_succ _⟩
    · obtain ⟨same, lt_next⟩ := secured.numbered found
      exact ⟨same, lt_next.trans (Int.lt_succ _)⟩
  · rw [host_enter, locks_eq, List.mem_append, List.mem_singleton, secured.held_iff]
    simp only [occupies_enter host absent]
    constructor
    · rintro (⟨path, occupies, same⟩ | rfl)
      · exact ⟨path, .inl occupies, same⟩
      · exact ⟨running.databasePath, .inr ⟨rfl, rfl⟩, rfl⟩
    · rintro ⟨path, occupies | ⟨same, rfl⟩, path_eq⟩
      · exact .inl ⟨path, occupies, path_eq⟩
      · obtain ⟨lockPath, lockHolder⟩ := lock
        exact .inr (by rw [Running.lock, ← same, ← path_eq])
  · simp only [occupies_enter host absent]
    rintro (first_in | ⟨rfl, rfl⟩) (second_in | ⟨rfl, same⟩)
    · exact secured.alone first_in second_in
    · exact (empty _ (same ▸ first_in)).elim
    · exact (empty _ second_in).elim
    · rfl

theorem boot (secured : site.Secured) (boot : Boot) : (site.next (.boot boot)).Secured := by
  have leads := boot.leads site.host
  rw [Site.next]
  generalize site.host.bootFrom boot = result at leads ⊢
  cases leads with
  | unloaded => exact secured
  | refused => exact secured
  | unbuilt _ _ _ locks_eq next_eq => exact secured.rehost locks_eq (by omega)
  | built _ free _ path_eq holder_eq locks_eq next_eq =>
      refine secured.enter holder_eq (fun holder => ?_) locks_eq next_eq
      rw [path_eq]
      exact secured.admits_iff.1 (Host.admits_iff.2 free) holder

theorem turn (secured : site.Secured) {tenant : Tenant}
    (found : site.tenants.get? tenant.running.holder = some tenant) (act : Act) :
    (site.turn tenant act).Secured := by
  refine ⟨fun {holder other} other_found => ?_, fun lock => ?_, fun {path first second} => ?_⟩
  · rw [get?_turn] at other_found
    rw [nextHolder_turn]
    split at other_found
    · rename_i same
      cases other_found
      exact ⟨same.symm, same ▸ (secured.numbered found).2⟩
    · exact secured.numbered other_found
  · rw [mem_locks_turn, secured.held_iff]
    simp only [occupies_turn found act]
    constructor
    · rintro ⟨⟨path, occupies, same⟩, other⟩
      refine ⟨path, ⟨occupies, fun ⟨acting, ends⟩ => other ⟨?_, ends⟩⟩, same⟩
      -- The application that acts occupies its own database only, so the lock is its own.
      rw [acting, occupies_iff_of_get? found] at occupies
      obtain ⟨lockPath, lockHolder⟩ := lock
      rw [Running.lock, occupies.1, ← same, ← acting]
    · rintro ⟨path, ⟨occupies, other⟩, same⟩
      exact ⟨⟨path, occupies, same⟩, fun ⟨lock_eq, ends⟩ => other ⟨by rw [lock_eq]; rfl, ends⟩⟩
  · simp only [occupies_turn found act]
    exact fun first_in second_in => secured.alone first_in.1 second_in.1

theorem next (secured : site.Secured) (step : Step) : (site.next step).Secured := by
  cases step with
  | boot boot => exact secured.boot boot
  | act holder act =>
      rw [Site.next]
      split
      · rename_i tenant found
        obtain rfl := (secured.numbered found).1
        exact secured.turn found act
      · exact secured

theorem run (secured : site.Secured) (steps : List Step) : (site.run steps).Secured := by
  induction steps generalizing site with
  | nil => exact secured
  | cons step steps induction => exact induction (secured.next step)

end Secured

/-! ## Until an application is stopped -/

/-- The steps that remain until an application is stopped. -/
def ending (holder : Int) (phase : Phase) : List Step := phase.remaining.map (.act holder)

theorem ending_eq_nil_iff {holder : Int} {phase : Phase} :
    ending holder phase = [] ↔ phase = .stopped := by
  rw [ending, List.map_eq_nil_iff, Phase.remaining_eq_nil_iff]

/-- Only acts of the application itself remain for it. -/
theorem ending_ne_cons {holder : Int} {step : Step} (foreign : ∀ act, step ≠ .act holder act)
    (phase : Phase) (steps : List Step) : ending holder phase ≠ step :: steps := by
  intro same
  have remains : step ∈ ending holder phase := same ▸ List.mem_cons_self
  obtain ⟨act, -, act_eq⟩ := List.mem_map.1 remains
  exact foreign act act_eq.symm

/-- A step is the next of those that remain, or changes nothing about them. -/
def Advances (step : Step) (before after : List Step) : Prop :=
  before = step :: after ∨ after = before ∧ ∀ steps, before ≠ step :: steps

theorem advances_after (holder : Int) (phase : Phase) (act : Act) :
    Advances (.act holder act) (ending holder phase) (ending holder (phase.after act)) := by
  rcases phase.remaining_after act with passed | ⟨kept, other⟩
  · left
    rw [ending, passed]
    rfl
  · right
    refine ⟨congrArg (List.map _) kept, fun steps same => ?_⟩
    obtain ⟨first, acts, remaining_eq, first_eq, -⟩ := List.map_eq_cons_iff.1 same
    cases first_eq
    exact other acts remaining_eq

/-- What remains is among the steps to come exactly if, after the first of them, what then remains is
among the others. -/
theorem Advances.sublist_iff {step : Step} {before after : List Step}
    (advances : Advances step before after) (steps : List Step) :
    after.Sublist steps ↔ before.Sublist (step :: steps) := by
  rcases advances with rfl | ⟨rfl, other⟩
  · exact List.cons_sublist_cons.symm
  · rw [List.sublist_cons_iff]
    exact ⟨.inl, fun among => among.resolve_right fun ⟨steps, same, _⟩ => other steps same⟩

namespace Secured

variable {site : Site} {holder : Int} {tenant : Tenant}

theorem get?_boot (secured : site.Secured) (found : site.tenants.get? holder = some tenant)
    (boot : Boot) : (site.next (.boot boot)).tenants.get? holder = some tenant := by
  have leads := boot.leads site.host
  rw [Site.next]
  generalize site.host.bootFrom boot = result at leads ⊢
  cases leads with
  | unloaded => exact found
  | refused => exact found
  | unbuilt => exact found
  | @built _ running _ _ _ _ _ holder_eq =>
      have other : holder ≠ running.holder := by
        rw [holder_eq]
        exact (secured.numbered found).2.ne
      simp [other, found]

/-- An application stays on its database, and comes nearer to its end by the steps that remain. -/
theorem get?_next (secured : site.Secured) (found : site.tenants.get? holder = some tenant)
    (step : Step) :
    ∃ later, (site.next step).tenants.get? holder = some later ∧
      later.running.databasePath = tenant.running.databasePath ∧
      Advances step (ending holder tenant.phase) (ending holder later.phase) := by
  have idle (foreign : ∀ act, step ≠ .act holder act) :
      Advances step (ending holder tenant.phase) (ending holder tenant.phase) :=
    .inr ⟨rfl, ending_ne_cons foreign _⟩
  cases step with
  | boot boot => exact ⟨tenant, secured.get?_boot found boot, rfl, idle fun _ same => by cases same⟩
  | act other act =>
      rw [Site.next]
      split
      · rename_i actor actor_found
        obtain rfl := (secured.numbered actor_found).1
        by_cases acting : holder = actor.running.holder
        · subst acting
          cases found.symm.trans actor_found
          exact ⟨tenant.perform act, by simp, rfl, advances_after _ _ act⟩
        · refine ⟨tenant, by simp [acting, found], rfl, idle fun _ same => ?_⟩
          cases same
          exact acting rfl
      · rename_i absent
        refine ⟨tenant, found, rfl, idle fun _ same => ?_⟩
        cases same
        cases found.symm.trans absent

/-- An application has been stopped exactly if the steps that remained until then have been made. -/
theorem get?_run (secured : site.Secured) (found : site.tenants.get? holder = some tenant)
    (steps : List Step) :
    ∃ later, (site.run steps).tenants.get? holder = some later ∧
      later.running.databasePath = tenant.running.databasePath ∧
      (later.phase = .stopped ↔ (ending holder tenant.phase).Sublist steps) := by
  induction steps generalizing site tenant with
  | nil => exact ⟨tenant, found, rfl, by rw [List.sublist_nil, ending_eq_nil_iff]⟩
  | cons step steps induction =>
      obtain ⟨middle, middle_found, middle_path, advances⟩ := secured.get?_next found step
      obtain ⟨later, later_found, later_path, stopped_iff⟩ :=
        induction (secured.next step) middle_found
      exact ⟨later, later_found, later_path.trans middle_path,
        stopped_iff.trans (advances.sublist_iff steps)⟩

/-- The lock of an application is held until the application has been stopped. -/
theorem lock_mem_run_iff (secured : site.Secured) (found : site.tenants.get? holder = some tenant)
    (steps : List Step) :
    ⟨WriterLocks.pathOf tenant.running.databasePath, holder⟩ ∈ (site.run steps).host.locks.held ↔
      ¬(ending holder tenant.phase).Sublist steps := by
  obtain ⟨later, later_found, path_eq, stopped_iff⟩ := secured.get?_run found steps
  rw [(secured.run steps).held_iff, ← stopped_iff]
  constructor
  · rintro ⟨path, occupies, -⟩
    exact ((occupies_iff_of_get? later_found).1 occupies).2
  · exact fun unstopped =>
      ⟨_, (occupies_iff_of_get? later_found).2 ⟨path_eq, unstopped⟩, rfl⟩

end Secured
end Site

/-- Whatever happens on a host whose locks were free at first, no database is occupied by two
applications, and the locks are those of the applications that occupy one.  A boot gets past the lock
of its database exactly if no application that was booted there is still to be stopped; then it comes
to what building the application comes to, and otherwise it fails because of the lock and changes
nothing.  A boot that fails leaves the locks as they are.  An application that has been booted holds
its lock until it has been started and, later, stopped. -/
theorem one_application_per_database (databases : Table String Database) (nextHolder : Int)
    (steps : List Site.Step) :
    let site := (Site.vacant databases nextHolder).run steps
    (∀ path first second, site.Occupies first path → site.Occupies second path → first = second) ∧
    (∀ lock : HeldLock, lock ∈ site.host.locks.held ↔
      ∃ path, site.Occupies lock.holder path ∧ lock.path = WriterLocks.pathOf path) ∧
    (∀ (boot : Boot) (settings : Settings), boot.settings = .ok settings →
      let path := settings.databasePath
      (site.host.Admits path ↔ ∀ holder, ¬site.Occupies holder path) ∧
      (site.host.Admits path → (site.host.bootFrom boot).1 =
        (boot.build settings (site.host.database path) site.host.nextHolder).1) ∧
      (¬site.host.Admits path → site.host.bootFrom boot = (.error .writerLockHeld, site.host))) ∧
    (∀ (boot : Boot) (failure : Failure), (site.host.bootFrom boot).1 = .error failure →
      (site.host.bootFrom boot).2.locks = site.host.locks) ∧
    ∀ (boot : Boot) (running : Running), (site.host.bootFrom boot).1 = .ok running →
      ∀ later, running.lock ∈ ((site.next (.boot boot)).run later).host.locks.held ↔
        ¬[Site.Step.act running.holder .start, .act running.holder .stop].Sublist later := by
  intro site
  have secured : site.Secured := (Site.secured_vacant databases nextHolder).run steps
  refine ⟨fun path first second => secured.alone, secured.held_iff, fun boot settings loaded => ?_,
    fun boot failure => Host.locks_bootFrom_of_error, fun boot running booted later => ?_⟩
  · exact ⟨secured.admits_iff, Host.bootFrom_of_admits loaded, Host.bootFrom_of_not_admits loaded⟩
  · have entered : (site.next (.boot boot)).tenants.get? running.holder =
        some ⟨running, .booted⟩ := by
      rw [Site.next]
      rcases result_eq : site.host.bootFrom boot with ⟨outcome, host⟩
      rw [result_eq] at booted
      cases booted
      simp
    exact (secured.boot boot).lock_mem_run_iff entered later

/-- A boot in an environment that names a database and nothing else. -/
def Boot.sample (path : String) : Boot :=
  .inProcess ⟨[("ERALEDGER_DB_PATH", path)]⟩ .none (Clock.wall (.int 0))

/-- Two applications occupy a database each; a third one is refused on the first database until the
application there has been started and stopped. -/
theorem one_application_per_database_sample :
    let site := (Site.vacant .empty 0).run [.boot (.sample "a.db"), .boot (.sample "b.db")]
    site.host.locks.held = [⟨"a.db.writer.lock", 0⟩, ⟨"b.db.writer.lock", 1⟩] ∧
      site.host.bootFrom (.sample "a.db") = (.error .writerLockHeld, site.host) ∧
      (site.run [.act 0 .start, .act 0 .stop]).host.Admits "a.db" := by
  intro site
  have loaded : (Boot.sample "a.db").settings = .ok { Settings.default with databasePath := "a.db" } :=
    Effect.ok_of_toOption (by decide +kernel)
  obtain ⟨held, freed⟩ :
      site.host.locks.held = [⟨"a.db.writer.lock", 0⟩, ⟨"b.db.writer.lock", 1⟩] ∧
        (site.run [.act 0 .start, .act 0 .stop]).host.locks.held = [⟨"b.db.writer.lock", 1⟩] := by
    decide +kernel
  obtain ⟨-, -, boots, -⟩ := one_application_per_database .empty 0
    [.boot (.sample "a.db"), .boot (.sample "b.db")]
  obtain ⟨-, -, refused⟩ := boots _ _ loaded
  refine ⟨held, refused ?_, ?_⟩
  · rw [Host.admits_iff, WriterLocks.isHeld, held]
    decide
  · rw [Host.admits_iff, WriterLocks.isHeld, freed]
    decide

end Api
end EraRewards
