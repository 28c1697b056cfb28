import LeaderRouting.Duration

/-! What the gateway can be told, and the settings it runs with. -/

namespace LeaderRouting

structure Options where
  /-- How long a request may wait for its response; two seconds unless said. -/
  submitTimeout : Option Duration := none
  /-- How long a request may wait for a leader; for ever unless said. -/
  leaderWaitTimeout : Option Duration := none
  /-- Whether requests in flight fail as soon as their connection is closed. -/
  cancelInFlightOnSwap : Option Bool := none

structure Settings where
  submitTimeout : Duration
  leaderWaitTimeout : Option Duration
  cancelInFlightOnSwap : Bool
  deriving DecidableEq, Repr

inductive OptionsError
  | submitTimeoutZero
  | leaderWaitTimeoutZero
  deriving DecidableEq, Repr

def OptionsError.text : OptionsError → String
  | submitTimeoutZero => "Submit timeout must be greater than zero"
  | leaderWaitTimeoutZero =>
    "Leader wait timeout must be greater than zero, or unset to wait forever"

namespace Settings

def ofOptions (o : Options) : Settings where
  submitTimeout := o.submitTimeout.getD (.ofMillis 2000)
  leaderWaitTimeout := o.leaderWaitTimeout
  cancelInFlightOnSwap := o.cancelInFlightOnSwap.getD false

/-- No timeout may be zero. -/
def validate (o : Options) : Except OptionsError Settings :=
  let s := ofOptions o
  if s.submitTimeout = ⟨0⟩ then .error .submitTimeoutZero
  else if s.leaderWaitTimeout = some ⟨0⟩ then .error .leaderWaitTimeoutZero
  else .ok s

def record (s : Settings) : String :=
  "GatewayOptionsValidated \x7b submit_timeout: " ++ s.submitTimeout.text
    ++ ", leader_wait_timeout: "
    ++ (match s.leaderWaitTimeout with
      | none => "None"
      | some d => "Some(" ++ d.text ++ ")")
    ++ ", cancel_in_flight_on_swap: " ++ (if s.cancelInFlightOnSwap then "true" else "false")
    ++ " \x7d"

end Settings

end LeaderRouting
