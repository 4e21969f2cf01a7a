import Courier.Json.Printer
import Courier.Service.Life
import Courier.Settings.Text

/-!
# The command line

A dry run of the service with the settings of the environment. Each line of the standard input is a
message. The broker grants everything and the record server keeps everything, but nobody knows any
user; what the broker is asked goes to the standard output, and what goes wrong to the standard
error.

## Main definitions

* `Courier.DryRun.environment`: the settings of the environment.
* `main`.
-/

namespace Courier.DryRun

open Json (Value)

/-- The variables of the environment that are settings. -/
def environment : IO (List (String × String)) := do
  let found ← Settings.schema.mapM fun (name, _) => do
    let var := name.toUpper
    return (← IO.getEnv var).map fun value => (var, value)
  return found.filterMap id

/-- The lines of a stream. -/
partial def lines (input : IO.FS.Stream) : IO (List String) := do
  let line ← input.getLine
  if line.isEmpty then return []
  return String.ofList (line.toList.filter (· != '\n')) :: (← lines input)

/-- Collaborators that grant everything and know nobody. -/
def surroundings (settings : Settings) : Service.Surroundings where
  brokerUrl := settings.brokerUrl
  storeUrl := settings.storeUrl
  lookupAuthority := { host := .name [] }
  token := ⟨""⟩
  moment := ⟨0, 0⟩

/-- A method as a line of output. -/
def methodLine (m : Broker.Method) : String :=
  m.name ++ " " ++ m.arguments.text

/-- A notice as a line of output. -/
def noticeLine (n : Notice) : String :=
  n.level.text ++ " " ++ n.message ++ " "
    ++ (Value.object (n.details.map fun (k, s) => (k, .string s))).text

/-- Run the service and tell what has happened. -/
def run : IO UInt32 := do
  let fail (message : String) (code : Nat) : IO UInt32 := do
    IO.eprintln ("Error: " ++ message)
    return code.toUInt32
  match Settings.load (← environment) with
  | .error e => fail (e.text .environment) 1
  | .ok settings =>
    let start := Service.start settings (surroundings settings)
    match start.result with
    | .error e => fail e.text e.exitCode
    | .ok service =>
      let payloads := (← lines (← IO.getStdin)).map fun line => Text.Utf8.encode line.toList
      let messages := payloads.zipIdx.map fun (payload, slot) => (slot, payload)
      let life := service.live messages [] .idle
      for n in life.service.notices do
        IO.eprintln (noticeLine n)
      for m in life.service.broker.methods do
        IO.println (methodLine m)
      return 0

end Courier.DryRun

/-- A dry run of the service. -/
def main : IO UInt32 :=
  Courier.DryRun.run
