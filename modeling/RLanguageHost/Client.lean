import RLanguageHost.Channel.Traffic
import RLanguageHost.Frame.Receiver
import RLanguageHost.Json.Reader
import RLanguageHost.Json.Shape

/-!
# Clients

A client exchanges JSON messages with a language server over a channel. It leaves what the messages
say to the editor, except when a server is shut down: then it asks the server to shut down, waits
for the answer, throwing away what arrives before it, and tells the server to exit.

Requests are numbered from one. The number is used up even when the request cannot be sent.
-/

namespace RLanguageHost

/-- The client's end of a channel. -/
structure Client where
  channel : Channel
  receiver : Frame.Receiver := {}
  nextId : Nat := 1
  deriving Repr

namespace Client

/-- Why a call of a client fails. -/
inductive Error where
  /-- The channel or its frames fail; the wording is kept. -/
  | framing (text : String)
  /-- A message is not JSON. -/
  | json (fault : Json.SyntaxError)
  /-- The server answers a request with an error. -/
  | server (method message : String)
  deriving Repr, DecidableEq

def Error.message : Error → String
  | .framing text => "Framing error: " ++ text
  | .json fault => "JSON error: " ++ fault.message
  | .server method message => "Server returned an error for " ++ method ++ ": " ++ message

def Error.ofFrame (e : Frame.Error) : Error :=
  .framing e.message

/-- Whether the client's channel can be used. -/
def isConnected (client : Client) : Bool :=
  client.channel.isConnected

def send (client : Client) (message : Json) : Except Error Client :=
  match Frame.send client.channel message.text with
  | .error e => .error (.ofFrame e)
  | .ok channel => .ok { client with channel }

def requestId (n : Nat) : String :=
  "r-lsp-launcher/" ++ toString n

/-- The members that requests and notifications have in common. -/
def callMembers (method : String) (params : Option Json) : List (String × Json) :=
  [("jsonrpc", .str "2.0"), ("method", .str method)] ++ (params.map ("params", ·)).toList

def request (id method : String) (params : Option Json) : Json :=
  .ofMembers (("id", .str id) :: callMembers method params)

def notification (method : String) (params : Option Json) : Json :=
  .ofMembers (callMembers method params)

/-- Sends a request. The identifier is that of the request, whether or not it could be sent. -/
def sendRequest (client : Client) (method : String) (params : Option Json) :
    String × Except Error Unit × Client :=
  let id := requestId client.nextId
  let client := { client with nextId := client.nextId + 1 }
  match client.send (request id method params) with
  | .error e => (id, .error e, client)
  | .ok client => (id, .ok (), client)

def sendNotification (client : Client) (method : String) (params : Option Json) :
    Except Error Client :=
  client.send (notification method params)

/-- The message that a text is. -/
def decode : Attempt Frame.Error (List Char) → Attempt Error Json
  | .waiting => .waiting
  | .failed e => .failed (.ofFrame e)
  | .done text =>
    match Json.parse (String.ofList text) with
    | .error fault => .failed (.json fault)
    | .ok value => .done value

def receive (client : Client) : Attempt Error Json × Client :=
  let (result, receiver, channel) := client.receiver.receive client.channel
  (decode result, { client with receiver, channel })

/-- Goes on with a call of `receive` that has had to wait. -/
def resume (client : Client) (sight : Channel.Sight) : Attempt Error Json × Client :=
  let (result, receiver, channel) := client.receiver.resume client.channel sight
  (decode result, { client with receiver, channel })

/-- The method of the request that asks a server to shut down. -/
def shutdownMethod : String := "shutdown"

/-- The method of the notification that tells a server to exit. -/
def exitMethod : String := "exit"

def answers (message : Json) (id : String) : Bool :=
  (message.member? "id").bind Json.str? = some id

def reported? (answer : Json) : Option Error :=
  (answer.member? "error").map fun e =>
    .server shutdownMethod (((e.member? "message").bind Json.str?).getD "unknown error")

/-- How much there is to receive before the client has to wait. -/
def backlog (client : Client) : Nat × Nat :=
  (client.channel.incoming.length, client.receiver.queue.length)

theorem exists_text_of_decode {result : Attempt Frame.Error (List Char)} {message : Json}
    (h : decode result = .done message) :
    ∃ text, result = .done text ∧ Json.parse (String.ofList text) = .ok message := by
  unfold decode at h
  split at h
  · cases h
  · cases h
  · next text =>
    split at h
    · cases h
    · next value parsed =>
      cases h
      exact ⟨text, rfl, parsed⟩

theorem backlog_lt_of_receive {client client' : Client} {message : Json}
    (h : client.receive = (.done message, client')) :
    Prod.Lex (· < ·) (· < ·) client'.backlog client.backlog := by
  unfold receive at h
  obtain ⟨decoded, rfl⟩ := Prod.mk.inj h
  obtain ⟨text, received, -⟩ := exists_text_of_decode decoded
  exact Frame.Receiver.backlog_lt_of_receive (Prod.ext received rfl)

/-- Waits for the answer to a request, throwing away all other messages. -/
def awaitAnswer (client : Client) (id : String) : Attempt Error Json × Client :=
  match _h : client.receive with
  | (.waiting, client) => (.waiting, client)
  | (.failed e, client) => (.failed e, client)
  | (.done message, client') =>
    if answers message id then (.done message, client') else awaitAnswer client' id
termination_by client.backlog
decreasing_by exact backlog_lt_of_receive ‹_›

/-- Goes on with a wait for the answer to a request. What comes after a message that is thrown away
is received by another call. -/
def resumeAnswer (client : Client) (sight : Channel.Sight) (id : String) :
    Attempt Error Json × Client :=
  match client.resume sight with
  | (.waiting, client) => (.waiting, client)
  | (.failed e, client) => (.failed e, client)
  | (.done message, client) =>
    if answers message id then (.done message, client) else client.awaitAnswer id

/-- What a shutdown does after its wait for the answer. -/
def concludeShutdown : Attempt Error Json × Client → Attempt Error Unit × Client
  | (.waiting, client) => (.waiting, client)
  | (.failed e, client) => (.failed e, client)
  | (.done answer, client) =>
    match reported? answer with
    | some e => (.failed e, client)
    | none =>
      match client.sendNotification exitMethod none with
      | .error e => (.failed e, client)
      | .ok client => (.done (), client)

/-- Goes on with a shutdown whose request has been sent. -/
def finishShutdown (client : Client) (id : String) : Attempt Error Unit × Client :=
  concludeShutdown (client.awaitAnswer id)

/-- Goes on with a shutdown that has had to wait for the answer. -/
def resumeShutdown (client : Client) (sight : Channel.Sight) (id : String) :
    Attempt Error Unit × Client :=
  concludeShutdown (client.resumeAnswer sight id)

/-- Shuts the server down: a request, its answer, and the notification to exit. -/
def shutdown (client : Client) : Attempt Error Unit × Client :=
  match client.sendRequest shutdownMethod none with
  | (_, .error e, client) => (.failed e, client)
  | (id, .ok (), client) => client.finishShutdown id

def close (client : Client) : Client :=
  { client with channel := client.channel.close }

def frameOf (message : Json) : List Char :=
  Frame.frame message.text

/-!
## A shutdown among others

While a shutdown waits, others work on the channel, and it is looked at again whenever something
may have come for it.
-/

/-- Something that others do with the channel of a client. -/
inductive Elsewhere where
  /-- The reader or the writer makes a move. -/
  | moved (move : Channel.Move)
  | delivered (deliveries : List Channel.Delivery)
  | cancelled

/-- The client afterwards. A move that cannot be made changes nothing. -/
def meanwhile (client : Client) : Elsewhere → Client
  | .moved move =>
    if client.channel.enabled move then { client with channel := client.channel.move move }
    else client
  | .delivered deliveries => { client with channel := client.channel.deliver deliveries }
  | .cancelled => { client with channel := client.channel.cancel }

namespace Handshake

/-- What happens while a call of `shutdown` has not been given up. -/
inductive Turn where
  | elsewhere (what : Elsewhere)
  /-- The call is looked at again. If it has returned, nothing happens. -/
  | look (sight : Channel.Sight)

/-- How a call of `shutdown` stands after a turn, and the client. -/
def turn (id : String) : Attempt Error Unit × Client → Turn → Attempt Error Unit × Client
  | (result, client), .elsewhere what => (result, client.meanwhile what)
  | (.waiting, client), .look sight => client.resumeShutdown sight id
  | (result, client), .look _ => (result, client)

end Handshake

/-- A call of `shutdown` and some turns: how it stands, and the client. -/
def shutdownDuring (client : Client) (turns : List Handshake.Turn) : Attempt Error Unit × Client :=
  turns.foldl (Handshake.turn (requestId client.nextId)) client.shutdown

/-!
## Farewells

A client that shuts its server down asks for it, waits for the answer, tells the server to exit and
closes the channel. The notification to exit is only put into the queue then, and closing cancels
the channel at once: the writer may see that before it has taken the notification, or any of the
messages before it.

A `Farewell` is a client from its first message to the end of the writer, and a `Turn` is anything
that happens meanwhile: the reader and the writer make moves in any order, the peer delivers
anything at any time, and nobody else cancels the channel.
-/

/-- How far a farewell has come. -/
inductive Stage where
  | talking
  /-- The server was asked to shut down by a request with an identifier. -/
  | asked (id : String)
  /-- The shutdown has looked for the answer and waits for it. -/
  | waiting (id : String)
  /-- The shutdown has returned, and the notification to exit is sent. -/
  | granted
  | failed (error : Error)
  | closed
  deriving DecidableEq

/-- A client that talks to its server and shuts it down in the end. -/
structure Farewell where
  client : Client
  stage : Stage := .talking
  /-- The frames that were sent, as far as the channel accepted them. -/
  accepted : List (List Char) := []

namespace Farewell

inductive Turn where
  /-- A move of the channel's reader or writer. -/
  | background (move : Channel.Move)
  | delivered (deliveries : List Channel.Delivery)
  | send (message : Json)
  | receive
  /-- The shutdown begins with its request. -/
  | ask
  /-- The shutdown looks for the answer. -/
  | look (sight : Channel.Sight)
  /-- The client is closed after the shutdown. -/
  | close

/-- A client on a new channel to a peer whose writes and flushes succeed. -/
def start : Farewell where
  client := { channel := {} }

def onChannel (s : Farewell) (channel : Channel) : Farewell :=
  { s with client := { s.client with channel } }

def looked (s : Farewell) (id : String) : Attempt Error Unit × Client → Farewell
  | (.waiting, client) => { s with client, stage := .waiting id }
  | (.failed e, client) => { s with client, stage := .failed e }
  | (.done (), client) =>
    { client, stage := .granted
      accepted := s.accepted ++ [frameOf (notification exitMethod none)] }

/-- The farewell after a turn. A move that cannot be made changes nothing, and neither does a call
while another one has the client. -/
def turn (s : Farewell) : Turn → Farewell
  | .background move =>
    if s.client.channel.enabled move then s.onChannel (s.client.channel.move move) else s
  | .delivered deliveries => s.onChannel (s.client.channel.deliver deliveries)
  | .send message =>
    match s.stage, s.client.send message with
    | .talking, .ok client => { s with client, accepted := s.accepted ++ [frameOf message] }
    | _, _ => s
  | .receive =>
    match s.stage with
    | .talking => { s with client := s.client.receive.2 }
    | _ => s
  | .ask =>
    match s.stage, s.client.sendRequest shutdownMethod none with
    | .talking, (id, .ok (), client) =>
      { client, stage := .asked id
        accepted := s.accepted ++ [frameOf (request id shutdownMethod none)] }
    | .talking, (_, .error e, client) => { s with client, stage := .failed e }
    | _, _ => s
  | .look sight =>
    match s.stage with
    | .asked id => s.looked id (s.client.finishShutdown id)
    | .waiting id => s.looked id (s.client.resumeShutdown sight id)
    | _ => s
  | .close =>
    match s.stage with
    | .granted => { s with client := s.client.close, stage := .closed }
    | _ => s

def run (s : Farewell) (turns : List Turn) : Farewell :=
  turns.foldl turn s

end Farewell

end Client

end RLanguageHost
