/-
**Identifiers, errors and messages.**

What the modules share: the ids as the text they are stored and published as, what a call raises,
and what it hands to the MQTT client. A message keeps the JSON object its publisher builds.
-/

import ScreenSync.Foundation.Json

namespace ScreenSync.Shared

open ScreenSync.Foundation

abbrev UserId := String
abbrev DeviceId := String

/-- What a call may raise. -/
inductive PyError
  | valueError (message : String)
  | typeError
  | integrityError
  | importError
  | dataError (message : String)
  deriving DecidableEq

/-- One call of `publish(topic, payload, qos)`. -/
structure Message where
  topic : String
  payload : Dict Json
  qos : Nat

end ScreenSync.Shared
