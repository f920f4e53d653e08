import KrustyKms.Client.Coordination

/-!
# The in-memory coordinator

A publisher appends its envelope to the history of the topic and sends it on the topic's broadcast
channel, under two locks and with a third step between them in which the channel is found or made.
-/

namespace KrustyKms.Multisig

open Crypto

def MultisigTopic.key (topic : MultisigTopic) : String :=
  topic.chainId.name ++ ":" ++ addressToHex topic.multisig ++ ":" ++ feltToHex topic.transactionId

namespace InMemory

/-- An envelope with the number of the call that publishes it. The number is not in the source:
it tells equal envelopes of two calls apart. -/
structure Message where
  call : ℕ
  envelope : MultisigCoordinationEnvelope
deriving DecidableEq

def Message.key (message : Message) : String := message.envelope.topic.key

def channelCapacity : ℕ := 128

/-- `broadcast::Receiver`: it starts where the channel stood and counts the messages it is past. -/
structure Receiver where
  channel : ℕ
  start : ℕ
  next : ℕ
deriving DecidableEq

def laggedError (count : ℕ) : KmsError :=
  .multisigError s!"in-memory multisig subscription lagged by {count} messages"

/-- `recv` on a channel on which `sent` was sent, if there is something to receive: messages that
the channel has dropped are reported as one error. -/
def Receiver.recv (receiver : Receiver) (sent : List Message) :
    Option (Result Message × Receiver) :=
  if sent.length - receiver.next > channelCapacity then
    let oldest := sent.length - channelCapacity
    some (.error (laggedError (oldest - receiver.next)), { receiver with next := oldest })
  else
    match sent[receiver.next]? with
    | some message => some (.ok message, { receiver with next := receiver.next + 1 })
    | none => none

/-- Where a call stands. A client subscribes, and reads the history after that; it receives from
its stream at any time from its subscription on. -/
inductive Task where
  | publishing (envelope : MultisigCoordinationEnvelope)
  | refused (error : KmsError)
  | appended (envelope : MultisigCoordinationEnvelope)
  | creatingSender (envelope : MultisigCoordinationEnvelope)
  | sending (envelope : MultisigCoordinationEnvelope) (channel : ℕ)
  | published (envelope : MultisigCoordinationEnvelope)
  | subscribing (topic : MultisigTopic)
  | creating (topic : MultisigTopic)
  | connecting (topic : MultisigTopic) (channel : ℕ)
  | subscribed (topic : MultisigTopic) (receiver : Receiver) (items : List (Result Message))
  | caughtUp (topic : MultisigTopic) (receiver : Receiver) (items : List (Result Message))
      (history : List Message)
deriving DecidableEq

/-- The coordinator and its callers. `acquired` lists the messages in the order in which their
publishers held the lock of the history; the source has no such list. What is sent while nobody
is subscribed is kept in `sent`, where no receiver starts before it. -/
structure State where
  messages : String → List Message
  subscriptions : String → Option ℕ
  nextChannel : ℕ
  sent : ℕ → List Message
  acquired : List Message
  tasks : ℕ → Option Task

namespace State

def initial : State where
  messages := fun _ => []
  subscriptions := fun _ => none
  nextChannel := 0
  sent := fun _ => []
  acquired := []
  tasks := fun _ => none

def setTask (state : State) (i : ℕ) (task : Task) : State :=
  { state with tasks := fun j => if j = i then some task else state.tasks j }

def push (state : State) (message : Message) : State :=
  { state with
    messages := fun key =>
      if key = message.key then state.messages key ++ [message] else state.messages key
    acquired := state.acquired ++ [message] }

def createSender (state : State) (key : String) : ℕ × State :=
  match state.subscriptions key with
  | some channel => (channel, state)
  | none => (state.nextChannel, { state with
      subscriptions := fun other =>
        if other = key then some state.nextChannel else state.subscriptions other
      nextChannel := state.nextChannel + 1 })

def send (state : State) (channel : ℕ) (message : Message) : State :=
  { state with
    sent := fun other =>
      if other = channel then state.sent other ++ [message] else state.sent other }

inductive Action where
  | publish (i : ℕ) (envelope : MultisigCoordinationEnvelope)
  | append (i : ℕ)
  /-- `topic_sender` under the read lock. -/
  | findSender (i : ℕ)
  /-- `topic_sender` under the write lock. -/
  | createSender (i : ℕ)
  | send (i : ℕ)
  | subscribe (i : ℕ) (topic : MultisigTopic)
  | connect (i : ℕ)
  | messages (i : ℕ)
  | receive (i : ℕ)

/-- The state after a step of a call that is at this step. -/
def step [Pedersen] (state : State) : Action → Option State
  | .publish i envelope =>
    match state.tasks i with
    | none =>
      match validateEnvelopePayload envelope with
      | .ok () => some (state.setTask i (.publishing envelope))
      | .error error => some (state.setTask i (.refused error))
    | _ => none
  | .append i =>
    match state.tasks i with
    | some (.publishing envelope) =>
      some ((state.push ⟨i, envelope⟩).setTask i (.appended envelope))
    | _ => none
  | .findSender i =>
    match state.tasks i with
    | some (.appended envelope) =>
      match state.subscriptions envelope.topic.key with
      | some channel => some (state.setTask i (.sending envelope channel))
      | none => some (state.setTask i (.creatingSender envelope))
    | some (.subscribing topic) =>
      match state.subscriptions topic.key with
      | some channel => some (state.setTask i (.connecting topic channel))
      | none => some (state.setTask i (.creating topic))
    | _ => none
  | .createSender i =>
    match state.tasks i with
    | some (.creatingSender envelope) =>
      let created := state.createSender envelope.topic.key
      some (created.2.setTask i (.sending envelope created.1))
    | some (.creating topic) =>
      let created := state.createSender topic.key
      some (created.2.setTask i (.connecting topic created.1))
    | _ => none
  | .send i =>
    match state.tasks i with
    | some (.sending envelope channel) =>
      some ((state.send channel ⟨i, envelope⟩).setTask i (.published envelope))
    | _ => none
  | .subscribe i topic =>
    match state.tasks i with
    | none => some (state.setTask i (.subscribing topic))
    | _ => none
  | .connect i =>
    match state.tasks i with
    | some (.connecting topic channel) =>
      let position := (state.sent channel).length
      some (state.setTask i (.subscribed topic ⟨channel, position, position⟩ []))
    | _ => none
  | .messages i =>
    match state.tasks i with
    | some (.subscribed topic receiver items) =>
      some (state.setTask i (.caughtUp topic receiver items (state.messages topic.key)))
    | _ => none
  | .receive i =>
    match state.tasks i with
    | some (.subscribed topic receiver items) =>
      (receiver.recv (state.sent receiver.channel)).map fun received =>
        state.setTask i (.subscribed topic received.2 (items ++ [received.1]))
    | some (.caughtUp topic receiver items history) =>
      (receiver.recv (state.sent receiver.channel)).map fun received =>
        state.setTask i (.caughtUp topic received.2 (items ++ [received.1]) history)
    | _ => none

def run [Pedersen] (actions : List Action) : Option State := actions.foldlM step initial

end State

end InMemory

end KrustyKms.Multisig
