import EraRewards.Api.Host
import EraRewards.Environment.Dotenv
import EraRewards.LogLevel

/-!
# Launching a node

A launch completes the environment from a file, loads the settings, sets the level of the log and
boots the application.
-/

namespace EraRewards

/-- A launched node. -/
structure Launch where
  /-- Address to listen on. -/
  host : String
  /-- Port to listen on. -/
  port : Int
  /-- Name of the log level, in lower case. -/
  logLevel : String
  /-- Levels of the log. -/
  levels : LogLevels
  /-- The application. -/
  running : Api.Running

namespace Launch

/-- Launches a node on a host. -/
def start (env : Environment) (files : Files) (clock : Int → Clock)
    (host : Api.Host) : Except Failure Launch × Api.Host :=
  let (found, startup) := Startup.loadDotenv ⟨env, false⟩ "" files
  let env := startup.environment
  let prepared := do
    let _ ← found
    let settings ← Settings.load env files
    let levels ← LogLevels.fresh.configure env (some settings.logLevel)
    return (settings, levels)
  match prepared with
  | .error failure => (.error failure, host)
  | .ok (settings, levels) =>
    let (running, host) := host.boot env files clock
    (running.map fun running =>
      ⟨settings.host, settings.port, Text.lower settings.logLevel, levels, running⟩, host)

end Launch
end EraRewards
