import MarketGate.Notice.Json
import MarketGate.Startup

/-!
# The gateway as a program

Starts a gateway from the variables of the process and the settings file `.env`, which is looked for
in the working directory and in those above it.  What the gateway tells goes to the standard
output, one line a notice; why it could not start goes to the error output, and the program then
ends with 1.

Everything is decided by `Startup.begin`.  The network that it is given is `Network.isolated`: this
program has no sockets, so it comes as far as its feed and tells that the feed is out of reach.
-/

namespace MarketGate.Program

/-- The variables that settings are read from. -/
def settingNames : List String :=
  ["LISTEN_ADDR", "HEALTH_ADDR", "FEED_ENDPOINT", "ORDER_STREAM_ID", "EVENT_STREAM_ID",
    "OUTBOUND_QUEUE_CAPACITY", "WRITE_WAIT_MS", "PONG_WAIT_MS", "PING_PERIOD_MS", "IDLE_BACKOFF_MS",
    "POLL_BATCH_SIZE", "FEED_CONNECT_TIMEOUT_MS", "INBOUND_ROUTE"]

/-- The longest pieces of a text that are made of certain characters only. -/
def runs (p : Char → Bool) (cs : List Char) : List String :=
  let step (c : Char) (parts : List (List Char)) : List (List Char) :=
    if p c then
      match parts with
      | part :: others => (c :: part) :: others
      | [] => [[c]]
    else [] :: parts
  ((cs.foldr step []).filter fun part => !part.isEmpty).map String.ofList

/-- All pieces of a settings file that could be names of variables: the names that lines assign to,
those behind a dollar sign, and whatever stands between braces. -/
def mentionedNames (file : Bytes) : List String :=
  let lines := SettingsFile.physicalLines [] (SettingsFile.dropMark file)
  let cs := lines.flatMap fun line => (Utf8.decode? line).getD []
  let isTargetChar (c : Char) : Bool := c.isAlphanum || c.toNat == 0x5f || c.toNat == 0x2e
  let isNoBrace (c : Char) : Bool := c.toNat != 0x7b && c.toNat != 0x7d
  (runs isTargetChar cs ++ runs SettingsFile.isNameChar cs ++ runs isNoBrace cs).eraseDups

/-- How many directories are looked into for a settings file. -/
def searchDepth : Nat := 64

/-- Where a settings file may be, nearest first. -/
def settingsFiles : List String :=
  (List.range searchDepth).map fun depth => String.join (List.replicate depth "../") ++ ".env"

/-- Reads the first settings file that there is. -/
def readSettingsFile : List String → IO (Option Bytes)
  | [] => return none
  | name :: others => do
    try
      return some (← IO.FS.readBinFile name).toList
    catch _ =>
      readSettingsFile others

/-- Reads variables of the process. -/
def readEnvironment (names : List String) : IO Environment := do
  let values ← names.mapM fun name => do
    return (← IO.getEnv name).map fun text => (name, Utf8.ofString text)
  return ⟨values.filterMap id⟩

end MarketGate.Program

open MarketGate in
/-- Starts a gateway, and gives the exit code. -/
def main : IO UInt32 := do
  let file? ← Program.readSettingsFile Program.settingsFiles
  let mentioned := (file?.map Program.mentionedNames).getD []
  let env ← Program.readEnvironment (Program.settingNames ++ mentioned).eraseDups
  let (result, notices) := Startup.begin .isolated env file?
  for notice in notices do
    IO.println notice.line
  match result with
  | .ok _ => return 0
  | .error failure =>
    IO.eprint failure.line
    return 1
