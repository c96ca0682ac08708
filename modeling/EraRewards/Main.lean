import EraRewards.Http.Line
import EraRewards.Launch

/-!
# The command line

A node that is driven through its standard streams.  It is launched from the environment; then every
line of the input is a request, whose member `now` is the time in seconds, and every line of the
output is the response to it.
-/

namespace EraRewards
namespace Main

/-- Variables that a node looks at. -/
def variableNames : List String :=
  Settings.variableNames.map (·.2) ++
    ["ERALEDGER_CONFIG_PATH", "ERALEDGER_DOTENV_PATH", "ERALEDGER_METRICS_ENABLED",
      "ERALEDGER_SIZE_LIMIT_DISABLE", "ERALEDGER_MAX_REQUEST_BYTES", "ERALEDGER_LOG_REQUESTS"]

/-- Variables of the process. -/
def environment : IO Environment := do
  let found ← variableNames.filterMapM fun name => do
    return (← IO.getEnv name).map fun value => (name, value)
  return ⟨found⟩

/-- A file and its text, if it can be read. -/
def fileAt (path : String) : IO (List (String × String)) := do
  try
    return [(path, ← IO.FS.readFile path)]
  catch _ => return []

/-- The files that a launch may look at. -/
def files (env : Environment) : IO Files := do
  let dotenv ← fileAt (Startup.dotenvPath env "")
  let completed := (Startup.loadDotenv ⟨env, false⟩ "" ⟨dotenv, []⟩).2.environment
  let config ← fileAt ((completed.get? "ERALEDGER_CONFIG_PATH").getD "")
  return ⟨dotenv ++ config, []⟩

/-- A running application after a request at a time in seconds, and the reply. -/
def step (running : Api.Running) (line : Value) (requestId : String) :
    Api.Reply × Api.Running :=
  let clock := Clock.wall ((line.member? "now").getD (.int 0)) running.tickMs
  let (reply, node) :=
    (running.app.handle ⟨requestId, 0, 0⟩ (Http.Request.ofValue line)).run
      { running.node with clock }
  (reply, { running with node })

/-- Line for a reply. -/
def replyLine : Api.Reply → String
  | .answered response => Json.write (.plain true) response.toValue
  | .raised failure =>
    Json.write (.plain true) (.object [("status", .int 500), ("raised", .text failure.kind)])

/-- Lines that were logged after the first `count` of them. -/
def newLines (count : Nat) (running : Api.Running) : List String :=
  (running.node.log.drop count).map (LogEntry.line 0)

/-- Answers requests until the input ends; what is logged goes to the standard error stream. -/
partial def serve (input output : IO.FS.Stream) (count : Nat) (running : Api.Running) : IO Unit := do
  let line ← input.getLine
  if line.isEmpty then return ()
  match Json.read line.toList with
  | .error _ =>
    output.putStrLn (replyLine (.raised .malformedJson))
    serve input output count running
  | .ok value =>
    let logged := running.node.log.length
    let (reply, running) := step running value ("request-" ++ toString count)
    for entry in newLines logged running do IO.eprintln entry
    output.putStrLn (replyLine reply)
    output.flush
    serve input output (count + 1) running

end Main
end EraRewards

open EraRewards in
/-- Launches a node and serves it. -/
def main : IO UInt32 := do
  let env ← Main.environment
  let found ← Main.files env
  match (Launch.start env found (Clock.wall (.int 0)) .empty).1 with
  | .error failure =>
    IO.eprintln (failure.kind ++ ": " ++ failure.message)
    return 1
  | .ok launched =>
    let running := launched.running
    let ((), node) := running.app.start.run running.node
    let running := { running with node }
    for entry in Main.newLines 0 running do IO.eprintln entry
    Main.serve (← IO.getStdin) (← IO.getStdout) 0 running
    return 0
