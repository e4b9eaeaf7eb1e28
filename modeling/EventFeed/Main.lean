import EventFeed.Program.Basic

/-!
# EventFeed.Main

The command line.  `gateway` starts the gateway and `listen` a listener;
both take their settings from the environment and from the nearest `.env`
file in the current directory or above it.

The network given to the programs is one without routes: a listener cannot
reach any gateway on it, and a gateway that is ready has nothing to wait
for.
-/

namespace EventFeed

namespace Main

/-- The variables that the programs know. -/
def variableNames : List String := ["LISTEN_ADDR", "EVENT_BUS_CAPACITY", "FEED_HOST", "FEED_PORT",
  "FEED_NAMESPACE", "FEED_EVENT", "FEED_LOG_PATH"]

/-- The environment, as far as the programs know it. -/
def environment : IO Environment := do
  let mut entries := []
  for name in variableNames do
    if let some value ← IO.getEnv name then
      entries := (name, value.toUTF8.toList) :: entries
  return ⟨entries⟩

/-- The directories from a directory up to the root. -/
def upwards (directory : String) : List String :=
  let parts := directory.splitOn "/"
  (List.range parts.length).map fun n => "/".intercalate (parts.take (parts.length - n))

/-- The nearest `.env` file. -/
def dotenvFile : IO (Option (List UInt8)) := do
  for directory in upwards (← IO.currentDir).toString do
    let found ← try
        pure (some (← IO.FS.readBinFile (directory ++ "/.env")).toList)
      catch _ => pure none
    if found.isSome then return found
  return none

/-- Print what a program has to say, and stop as it does. -/
def leave (o : Program.Outcome) : IO UInt32 := do
  (← IO.getStdout).putStr o.output
  (← IO.getStderr).putStr o.errors
  return o.exit.toUInt32

end Main

end EventFeed

open EventFeed

/-- The command line. -/
def main (args : List String) : IO UInt32 := do
  let env ← Main.environment
  let file ← Main.dotenvFile
  match args with
  | ["listen"] =>
    Main.leave (Program.listen (Network.isolated []) (Uuid.ofRandom 0) FileTree.empty env file)
  | ["gateway"] =>
    match Program.gateway (Network.isolated []) FileTree.empty env file with
    | .error o => Main.leave o
    | .ok _ => return 0
  | _ =>
    (← IO.getStderr).putStrLn "usage: eventfeed (gateway | listen)"
    return 2
