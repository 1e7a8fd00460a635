import NodeAlerts.Alerter.Handle
import NodeAlerts.Family.Cosmos
import NodeAlerts.Family.Kind
import NodeAlerts.Family.Substrate
import NodeAlerts.Settings.Load

/-!
# Command line

`run --chain FAMILY` serves a family of chains with standard input and output in the place of a
broker.  Every line read is a message: its routing key, a space, and its payload.  Every message
published is a line written: its exchange, its routing key, and its text, or for a heartbeat the
name of the component.  Settings are taken from the environment.
-/

namespace NodeAlerts.Main

/-- What the settings are laid over. -/
def baseFile : String := "rabbitmq:\n  uri: stdio\n"

/-- The variables of the environment that are looked up. -/
def variableNames : List String :=
  ["CHAIN_ALERTER__RABBITMQ__ALERT_EXCHANGE", "CHAIN_ALERTER__RABBITMQ__CONFIG_EXCHANGE",
    "CHAIN_ALERTER__RABBITMQ__HEALTH_CHECK_EXCHANGE", "CHAIN_ALERTER__MAX_QUEUE_SIZE"]

/-- The family named by the arguments. -/
def familyOf? : List String → Option ChainFamily
  | ["run", "--chain", name] => ChainFamily.ofName? name false
  | _ => none

/-- The message on a line. -/
def messageOf (tag : Nat) (line : String) : Message :=
  let cs := line.toList
  let key := cs.takeWhile (· ≠ ' ')
  let payload := (cs.dropWhile (· ≠ ' ')).drop 1
  ⟨String.ofList key, (String.ofList payload).toUTF8.toList, tag⟩

/-- The line for a call that published a message. -/
def lineOf? : Call → Option String
  | .publish exchange routingKey (.alert record) _ =>
    some (exchange ++ " " ++ routingKey ++ " " ++ record.write)
  | .publish exchange routingKey (.heartbeat component) _ =>
    some (exchange ++ " " ++ routingKey ++ " " ++ component)
  | _ => none

/-- Handles the lines of the input one by one. -/
partial def serve {M : Type} [DecidableEq M] (input output : IO.FS.Stream) (a : Alerter M)
    (tag : Nat) : IO UInt32 := do
  let line ← input.getLine
  if line.isEmpty then return 0
  let line := String.ofList (line.toList.filter fun c => c ≠ '\n' ∧ c ≠ '\r')
  match a.handle .agreeing (messageOf tag line) with
  | .ok handled =>
    (handled.calls.filterMap lineOf?).forM output.putStrLn
    output.flush
    serve input output handled.alerter (tag + 1)
  | .error _ =>
    IO.eprintln "a counting period starts before the calendar"
    return 1

/-- Serves a family with settings from the environment. -/
def run {M : Type} [DecidableEq M] (family : Family M) : IO UInt32 := do
  let environment ← variableNames.filterMapM fun name => do
    return (← IO.getEnv name).map fun value => (name, value)
  match Settings.load (some baseFile) environment with
  | .ok settings => serve (← IO.getStdin) (← IO.getStdout) (Alerter.new family settings) 1
  | .error _ =>
    IO.eprintln "the settings cannot be read"
    return 1

end NodeAlerts.Main

/-- Serves the family named on the command line. -/
def main (arguments : List String) : IO UInt32 :=
  match NodeAlerts.Main.familyOf? arguments with
  | some .cosmos => NodeAlerts.Main.run NodeAlerts.Cosmos.family
  | some .substrate => NodeAlerts.Main.run NodeAlerts.Substrate.family
  | none => do
    IO.eprintln "usage: run --chain cosmos|substrate"
    return 2
