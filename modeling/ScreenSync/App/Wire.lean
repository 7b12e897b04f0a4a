/-
**The wire format.**

Four functions publish over MQTT. The engine's two give a dictionary to the wrapper, which hands it
to paho as it is; the other two give the text of their object to `publish`, which hands on the text
of that text. A payload that decodes to its object reaches paho on neither path.

* `publish_dict_decodes` — `publish` is right about a dictionary.
* `sendViaWrapper_undecodable`, `sendDumped_undecodable` — what the two kinds of caller hand over.
* `payload_never_decodes` — for all four, whatever they build.
-/

import ScreenSync.Decision.Engine
import ScreenSync.Override.Quorum
import ScreenSync.Shared.Mqtt
import ScreenSync.Sync.Ingest

namespace ScreenSync.App

open ScreenSync.Foundation ScreenSync.Shared ScreenSync.Decision ScreenSync.Override ScreenSync.Sync

/-! ### The publishers -/

/-- A call of one of the four publishers. -/
inductive Publication
  | enforcement (device : Device) (result : RuleResult) (budget : Option BudgetDict) (now : UtcTime)
  | rebalance (store : Store) (userId : UserId) (today : Date) (now : UtcTime)
      (publishedAt : Nat → UtcTime)
  | familyState (state : SyncState) (userId : UserId) (now : UtcTime)
  | overrideResult (deviceId : DeviceId) (overrideId : String) (approved : Bool)
      (extraSeconds : Int) (call : VoteCall)

/-- The message of a broadcast. -/
def broadcastOf : Sent → Option Message
  | .broadcast message => some message
  | .retry _ _ => none

/-- The messages it builds. -/
def Publication.messages : Publication → List Message
  | .enforcement device result budget now => [publishEnforcement device result budget now]
  | .rebalance store userId today now publishedAt =>
    (triggerRebalance store userId today now publishedAt).2.1
  | .familyState state userId now => (broadcastFamilyState state userId now).filterMap broadcastOf
  | .overrideResult deviceId overrideId approved extraSeconds call =>
    (publishOverrideResult deviceId overrideId approved extraSeconds call).toList

variable (floats : JsonText.FloatText) (build : Option PahoClient) (clients : MqttClients)

/-- `mqtt_client.publish(topic, payload, qos)`. -/
def sendViaWrapper (message : Message) : List Handed :=
  wrapperPublish clients message.topic (.dict message.payload) message.qos

/-- `publish(topic, json.dumps(payload), qos)`. -/
def sendDumped (message : Message) : List Handed × MqttClients :=
  publish floats build clients message.topic
    (.str (JsonText.dumps floats (.obj message.payload))) message.qos

/-- What paho is handed for a message of the publisher. -/
def Publication.send (publication : Publication) (message : Message) : List Handed :=
  match publication with
  | .enforcement .. | .rebalance .. => sendViaWrapper clients message
  | .familyState .. | .overrideResult .. => (sendDumped floats build clients message).1

/-! ### What is handed over -/

/-- The payload is text, and decodes to the object. -/
def Decodes (handed : Handed) (object : Dict Json) : Prop :=
  ∃ text, handed.payload = .str text ∧ JsonText.loads floats text = some (.obj object)

variable {floats build clients}

/-- Paho is handed one payload, and it does not decode to that of the message. -/
def Undecodable (floats : JsonText.FloatText) (sent : List Handed) (message : Message) : Prop :=
  ∃ handed, sent = [handed] ∧ handed.topic = message.topic ∧ ¬ Decodes floats handed message.payload

/-- What `publish` is for: a dictionary goes out as text that decodes to it. -/
theorem publish_dict_decodes {client : PahoClient} (connected : clients.client = some client)
    {message : Message} (proper : JsonText.Proper (.obj message.payload)) :
    ∃ handed, (publish floats build clients message.topic (.dict message.payload) message.qos).1 =
      [handed] ∧ Decodes floats handed message.payload := by
  rw [publish_connected connected]
  exact ⟨_, rfl, _, rfl, JsonText.loads_dumps proper⟩

/-- **A dictionary is not text.** -/
theorem sendViaWrapper_undecodable {client : PahoClient} (connected : clients.wrapped = some client)
    (message : Message) : Undecodable floats (sendViaWrapper clients message) message := by
  unfold sendViaWrapper wrapperPublish
  rw [connected]
  refine ⟨_, rfl, rfl, ?_⟩
  rintro ⟨text, same, -⟩
  cases same

/-- **The text of a text decodes to the text.** -/
theorem sendDumped_undecodable {client : PahoClient} (connected : clients.client = some client)
    (message : Message) :
    Undecodable floats (sendDumped floats build clients message).1 message := by
  unfold sendDumped
  rw [publish_connected connected]
  refine ⟨_, rfl, rfl, ?_⟩
  rintro ⟨text, same, decoded⟩
  obtain rfl := Payload.str.inj same
  rw [Payload.toJson, JsonText.loads_dumps (by trivial)] at decoded
  cases decoded

/-- **No payload decodes to its object**: of whatever message one of the four publishers builds, the
connected clients of paho are handed one payload, which is not the text of that object. -/
theorem payload_never_decodes {wrapped client : PahoClient}
    (connected : clients = ⟨some wrapped, some client⟩) (publication : Publication) :
    ∀ message ∈ publication.messages,
      Undecodable floats (publication.send floats build clients message) message := by
  subst connected
  intro message _
  cases publication with
  | enforcement => exact sendViaWrapper_undecodable rfl message
  | rebalance => exact sendViaWrapper_undecodable rfl message
  | familyState => exact sendDumped_undecodable rfl message
  | overrideResult => exact sendDumped_undecodable rfl message

/-! ### A tablet at bedtime -/

def paho : PahoClient := ⟨"screensync-backend-pub"⟩

/-- The verdict of the bedtime rule, at eleven in the evening. -/
def bedtimeVerdict : RuleResult := ⟨.block, "bedtime_policy", []⟩

def bedtimeBlock : Publication := .enforcement tablet bedtimeVerdict none (someTime 23 0)

def bedtimeMessage : Message := publishEnforcement tablet bedtimeVerdict none (someTime 23 0)

theorem payload_never_decodes_bedtimeBlock :
    Undecodable .fraction (bedtimeBlock.send .fraction none ⟨some paho, some paho⟩ bedtimeMessage)
      bedtimeMessage :=
  payload_never_decodes rfl bedtimeBlock bedtimeMessage (List.mem_singleton_self _)

/-- **A dictionary reaches paho**, where the text of it is due. -/
theorem enforcement_handed_as_dict :
    bedtimeBlock.messages = [bedtimeMessage] ∧ ∃ handed,
      bedtimeBlock.send .fraction none ⟨some paho, some paho⟩ bedtimeMessage = [handed] ∧
        handed.payload = .dict bedtimeMessage.payload ∧
        ¬ Decodes .fraction handed bedtimeMessage.payload := by
  refine ⟨rfl, _, rfl, rfl, ?_⟩
  rintro ⟨text, same, -⟩
  cases same

end ScreenSync.App
