import EraRewards.Api.App
import EraRewards.Settings.Source
import EraRewards.Storage.WriterLock

/-!
# Hosts and running applications

A host keeps databases by path and the writer locks on them.  An application that boots takes the
lock of its database before it opens the ledger and keeps it until it is shut down; one that fails to
boot leaves the locks as they were.
-/

namespace EraRewards
namespace Api

/-- Databases and the locks on them. -/
structure Host where
  /-- Databases by path. -/
  databases : Table String Database
  /-- Writer locks that are held. -/
  locks : WriterLocks
  /-- Number of the next holder of a lock. -/
  nextHolder : Int

/-- An application that has booted. -/
structure Running where
  /-- The application. -/
  app : App
  /-- What it works with. -/
  node : Node
  /-- Path of its database. -/
  databasePath : String
  /-- The number under which it holds the lock. -/
  holder : Int
  /-- Milliseconds in a tick of its clock. -/
  tickMs : Int

namespace Host

/-- A host without databases. -/
def empty : Host := ⟨.empty, .none, 0⟩

instance : Inhabited Host := ⟨empty⟩

/-- Database at a path; a new one if there is none. -/
def database (host : Host) (path : String) : Database := (host.databases.get? path).getD .empty

/-- The host with a database replaced. -/
def keep (host : Host) (path : String) (db : Database) : Host :=
  { host with databases := host.databases.insert path db }

/-- Opens the ledger that settings describe on a database. -/
def openLedger (env : Environment) (settings : Settings) (db : Database) :
    Except Failure Service × Database :=
  let parameters := do
    settings.toDraft.check
    Parameters.ofValues (.int settings.eraDuration) (.int settings.budget) (.int settings.token)
  match parameters with
  | .ok parameters => Service.start env parameters .bundled db
  | .error failure => (.error failure, db)

/-- A running application on an opened ledger. -/
def assemble (env : Environment) (settings : Settings) (service : Service) (db : Database)
    (clock : Clock) (holder : Int) : Running where
  app := ⟨some service, env⟩
  node :=
    { database := db, clock, sink := .recent (.empty RecentEvents.defaultCapacity),
      metrics := .empty, log := [] }
  databasePath := settings.databasePath
  holder := holder
  tickMs := settings.tickMs

end Host

/-- What a boot finds outside of the application. -/
structure Boot where
  /-- Environment of the process. -/
  environment : Environment
  /-- Clock for a length of a tick. -/
  clock : Int → Clock
  /-- The settings, or why they cannot be loaded. -/
  settings : Except Failure Settings
  /-- Opens the ledger that settings describe on a database. -/
  opening : Settings → Database → Except Failure Service × Database

namespace Boot

/-- A boot from the environment of a process and its files. -/
def inProcess (env : Environment) (files : Files) (clock : Int → Clock) : Boot :=
  ⟨env, clock, Settings.load env files, Host.openLedger env⟩

/-- Builds an application on a database once the lock has been taken. -/
def build (boot : Boot) (settings : Settings) (db : Database) (holder : Int) :
    Except Failure Running × Database :=
  let (opened, db) := boot.opening settings db
  (opened.map fun service =>
    Host.assemble boot.environment settings service db (boot.clock settings.tickMs) holder, db)

end Boot

namespace Host

/-- Boots an application whose settings have been loaded. -/
def bootWith (boot : Boot) (settings : Settings) (host : Host) : Except Failure Running × Host :=
  let path := WriterLocks.pathOf settings.databasePath
  let holder := host.nextHolder
  match host.locks.acquire path holder with
  | .error failure => (.error failure, host)
  | .ok locks =>
    let (built, db) := boot.build settings (host.database settings.databasePath) holder
    let host := { host.keep settings.databasePath db with nextHolder := holder + 1 }
    match built with
    | .ok running => (.ok running, { host with locks })
    | .error failure => (.error failure, { host with locks := locks.release path holder })

/-- Boots an application. -/
def bootFrom (boot : Boot) (host : Host) : Except Failure Running × Host :=
  match boot.settings with
  | .ok settings => host.bootWith boot settings
  | .error failure => (.error failure, host)

/-- Boots an application from its environment. -/
def boot (env : Environment) (files : Files) (clock : Int → Clock)
    (host : Host) : Except Failure Running × Host :=
  host.bootFrom (.inProcess env files clock)

/-- Shuts an application down: its database is kept and its lock given back. -/
def shutDown (running : Running) (host : Host) : Host :=
  let host := host.keep running.databasePath running.node.database
  { host with
    locks := host.locks.release (WriterLocks.pathOf running.databasePath) running.holder }

end Host
end Api
end EraRewards
