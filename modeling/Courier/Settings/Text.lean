import Courier.Binary64.Shortest
import Courier.Settings.Basic

/-!
# What is said about settings

The words for settings that cannot be loaded. A fault of a single variable names where the variables
came from; a fault of the settings as a whole stands for itself.

## Main definitions

* `Settings.Origin`, `Settings.LoadError.text`.
-/

namespace Courier.Settings

/-- Where variables come from. -/
inductive Origin where
  /-- They are given one by one. -/
  | given
  /-- They are those of the environment. -/
  | environment
  deriving DecidableEq, Repr

/-- The words in front of a fault of a single variable. -/
def Origin.heading : Origin → String
  | given => "Invalid configuration value: "
  | environment => "Invalid or missing environmental variable: "

/-- The words for the variable that cannot be read. -/
def unreadable (reason var value : String) : String :=
  reason ++ " while parsing value '" ++ value ++ "' provided by " ++ var

/-- The words for a fault. -/
def LoadError.text (origin : Origin) : LoadError → String
  | duplicate name => origin.heading ++ "duplicate field `" ++ name ++ "`"
  | notNumber reason var value => origin.heading ++ unreadable reason.text var value
  | notFlag var value =>
    origin.heading ++ unreadable "provided string was not `true` or `false`" var value
  | unknownSink value =>
    origin.heading ++ "unknown variant `" ++ value ++ "`, expected `fcm` or `log`"
  | ratioOutOfRange ratio =>
    "CIRCUIT_BREAKER_FAILURE_RATIO must be in (0, 1], got " ++ ratio.plainText
  | zero var => var ++ " must be at least 1"
  | projectMissing => "FCM_PROJECT_ID is required when DELIVERY_SINK=fcm"

end Courier.Settings
