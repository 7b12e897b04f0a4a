/-
**The MQTT publisher.**

`shared/mqtt_client.py` has two clients and two ways to publish. `mqtt_client` is a wrapper, which
only its own `connect` gives a client; it hands a payload on as it is. The module's `publish` uses
the client that `get_mqtt_client` builds when it is first asked for one, and hands on the JSON text
of what it is given. The topics are made of a user's and a device's id.
-/

import ScreenSync.Foundation.JsonText
import ScreenSync.Shared.Message

namespace ScreenSync.Shared

open ScreenSync.Foundation

/-- A value given as a payload. -/
inductive Payload
  | dict (entries : Dict Json)
  | str (text : String)

/-- The value as `json.dumps` sees it. -/
def Payload.toJson : Payload → Json
  | .dict entries => .obj entries
  | .str text => .str text

/-- A client of paho. -/
structure PahoClient where
  clientId : String
  deriving DecidableEq

/-- One call of a client's `publish`. -/
structure Handed where
  client : PahoClient
  topic : String
  payload : Payload
  qos : Nat

/-- paho takes text, bytes, numbers or `None`; a dictionary raises a `TypeError`. -/
def Handed.taken (handed : Handed) : Bool :=
  match handed.payload with
  | .dict _ => false
  | .str _ => true

/-- The clients of the module: `mqtt_client._wrapped` and `_client`. -/
structure MqttClients where
  wrapped : Option PahoClient
  client : Option PahoClient

/-- The clients when the module is loaded. -/
def MqttClients.loaded : MqttClients := ⟨none, none⟩

/-- `MQTTClientWrapper.publish`. -/
def wrapperPublish (clients : MqttClients) (topic : String) (payload : Payload) (qos : Nat) :
    List Handed :=
  match clients.wrapped with
  | none => []
  | some client => [{ client, topic, payload, qos }]

/-- `get_mqtt_client`; `build` is what `_build_client` returns, and `none` if it raises. -/
def getMqttClient (build : Option PahoClient) (clients : MqttClients) :
    Option PahoClient × MqttClients :=
  match clients.client with
  | some client => (some client, clients)
  | none => (build, { clients with client := build })

/-- `publish`. -/
def publish (floats : JsonText.FloatText) (build : Option PahoClient) (clients : MqttClients)
    (topic : String) (payload : Payload) (qos : Nat) : List Handed × MqttClients :=
  match getMqttClient build clients with
  | (none, clients) => ([], clients)
  | (some client, clients) =>
    ([{ client, topic, payload := .str (JsonText.dumps floats payload.toJson), qos }], clients)

/-! ### Topics -/

/-- `topic_budget`, `_budget_topic`. -/
def topicBudget (userId deviceId : String) : String :=
  "screensync/" ++ userId ++ "/" ++ deviceId ++ "/budget/receive"

/-- `topic_enforce`. -/
def topicEnforce (userId deviceId : String) : String :=
  "screensync/" ++ userId ++ "/" ++ deviceId ++ "/control/enforce"

/-- `topic_override_result`. -/
def topicOverrideResult (userId deviceId : String) : String :=
  "screensync/" ++ userId ++ "/" ++ deviceId ++ "/override/result"

/-- `topic_family_override`. -/
def topicFamilyOverride (userId : String) : String :=
  "screensync/" ++ userId ++ "/family/override/request"

theorem topicOverrideResult_inj {first second deviceId : String} :
    topicOverrideResult first deviceId = topicOverrideResult second deviceId ↔
      first = second := by
  unfold topicOverrideResult
  rw [String.append_left_inj, String.append_left_inj, String.append_left_inj,
    String.append_right_inj]

/-! ### Connected clients -/

/-- What a connected client is handed. -/
theorem publish_connected {floats : JsonText.FloatText} {build : Option PahoClient}
    {clients : MqttClients} {client : PahoClient} (connected : clients.client = some client)
    (topic : String) (payload : Payload) (qos : Nat) :
    publish floats build clients topic payload qos =
      ([{ client, topic, payload := .str (JsonText.dumps floats payload.toJson), qos }],
        clients) := by
  unfold publish getMqttClient
  rw [connected]

end ScreenSync.Shared
