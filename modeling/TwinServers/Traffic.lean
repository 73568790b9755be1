import TwinServers.Http.Reply
import TwinServers.Registry
import TwinServers.Server

/-!
# Traffic

Clients talk to both servers over named connections. Each step sends something on one connection;
then the servers run until nothing more can happen, or the step leaves them asleep and what was sent
waits. When they run, they first accept the new connections, those of the chunked server before
those of the bulk server, and then serve every connection, the oldest first. The network holds
whatever is sent, in either direction, until it is read.

The rules by which the servers read requests and write replies are a parameter of all this;
`exchange` is how the traffic goes with those of the program.
-/

namespace TwinServers

/-- A connection as both ends know it. -/
structure Link (rules : Http.Rules) where
  server : Delivery
  /-- The client's address as the server sees it. -/
  client : IpAddress
  accepted : Bool := false
  connection : Http.Connection rules.intake := {}
  /-- What the server has sent and the client has not read. -/
  unread : Bytes := []

/-- The bound servers and the connections to them. -/
structure Traffic (rules : Http.Rules) where
  net : Network
  ports : Ports
  pair : ServerPair
  /-- What the servers write for the date. -/
  date : Bytes
  links : Registry (Link rules) := {}

/-- What the client does with its end after it has sent something. -/
inductive Closing
  | goesOn
  /-- It has nothing more to send, but reads on. -/
  | endsSending
  /-- It closes the connection. -/
  | leaves
  deriving DecidableEq, Repr

namespace Traffic

/-- One step of a client. The first on a connection opens it, to a server at an address. -/
structure Step where
  connection : String
  server : Delivery
  via : IpAddress
  send : Bytes
  closing : Closing := .goesOn
  /-- Whether the servers run. They always do when the client leaves. -/
  wait : Bool := true
  deriving DecidableEq

/-- What a client learns from a step. -/
inductive Answer
  /-- What was sent waits: so many bytes. -/
  | sent (n : Nat)
  /-- What the server wrote since the last answer, and whether it has closed the connection. -/
  | received (wire : Bytes) (closed : Bool) (log : Log)
  | left (log : Log)
  deriving DecidableEq

variable {rules : Http.Rules}

/-- The server of a delivery accepts a connection that is new to it. -/
def accept (t : Traffic rules) (d : Delivery) (l : Link rules) : Link rules × Log :=
  if l.server = d ∧ !l.accepted then
    ({ l with accepted := true }, [(t.pair.server d).entry (.acceptedConnection l.client)])
  else (l, [])

/-- A server serves a connection. -/
def serve (t : Traffic rules) (l : Link rules) : Link rules × Log :=
  let (served, log) := (t.pair.server l.server).serve t.date l.client l.connection
  ({ l with connection := served.connection, unread := l.unread ++ served.wire }, log)

/-- The servers run until nothing more can happen. -/
def run (t : Traffic rules) : Traffic rules × Log :=
  let (links, first) := t.links.mapGather (t.accept .chunked)
  let (links, second) := links.mapGather (t.accept .bulk)
  let (links, third) := links.mapGather t.serve
  ({ t with links }, first ++ second ++ third)

/-- The connection of a step, which is opened if it is not there. -/
def linkFor (t : Traffic rules) (s : Step) : Except IoError (Link rules) :=
  match t.links.get? s.connection with
  | some l => .ok l
  | none =>
    match t.ports.connect t.net s.via (t.pair.server s.server).address.port with
    | .ok (_, client) => .ok { server := s.server, client }
    | .error e => .error (.ofErrno e)

/-- What a client sends is on its way to the server. -/
def deliver (t : Traffic rules) (s : Step) (l : Link rules) : Traffic rules :=
  let connection := l.connection.receive s.send (s.closing != .goesOn)
  { t with links := t.links.insert s.connection { l with connection } }

/-- The client reads what there is to read. A connection that is gone reads as closed. -/
def read (t : Traffic rules) (name : String) (log : Log) : Answer × Traffic rules :=
  match t.links.get? name with
  | some l =>
    (.received l.unread l.connection.closed log,
      { t with links := t.links.insert name { l with unread := [] } })
  | none => (.received [] true log, t)

/-- One step: its answer, and the traffic after it. -/
def step (t : Traffic rules) (s : Step) : Except IoError (Answer × Traffic rules) := do
  let link ← t.linkFor s
  let t := t.deliver s link
  if s.closing = .leaves then
    let (t, log) := t.run
    return (.left log, { t with links := t.links.erase s.connection })
  else if s.wait then
    let (t, log) := t.run
    return t.read s.connection log
  else
    return (.sent s.send.length, t)

/-- The answers to a list of steps, up to the first connection that cannot be made. -/
def answers (t : Traffic rules) : List Step → Except IoError (List Answer)
  | [] => .ok []
  | s :: steps => do
    let (answer, t) ← t.step s
    let rest ← t.answers steps
    return answer :: rest

/-- What the servers are set up with. -/
inductive Setup
  /-- The settings of the program. -/
  | settings (s : Settings)
  /-- A payload of one's own, on fresh ports of the IPv4 loopback address. -/
  | payload (template closing : Bytes) (copies units : UInt64) (declares : Bool)
  deriving DecidableEq

/-- Binds both servers. -/
def Setup.bind (net : Network) : Setup → Action StartError ServerPair
  | .settings s => ServerPair.bind net s
  | .payload template closing copies units declares =>
    match Payload.build template closing copies units with
    | .error e => throw (.size e)
    | .ok p =>
      Kernel.explaining .server
        (ServerPair.bindHandlers net p declares (.v4 .localhost 0) (.v4 .localhost 0))

/-- Why there is no traffic. -/
inductive Failure
  | start (e : StartError)
  | connect (e : IoError)
  deriving DecidableEq

/-- The traffic with servers that were just bound. -/
def opening (rules : Http.Rules) (net : Network) (k : Kernel) (pair : ServerPair) (date : Bytes) :
    Traffic rules where
  net
  ports := k.ports
  pair
  date

/-- Sets up both servers, which then go by the given rules, and takes a list of steps: the log of
the start, the servers, and the answers. -/
def exchangeUnder (rules : Http.Rules) (net : Network) (date : Bytes) (setup : Setup)
    (steps : List Step) : Except Failure (Log × ServerPair × List Answer) :=
  match (setup.bind net).run {} with
  | .error e _ => .error (.start e)
  | .ok pair k =>
    match (opening rules net k pair date).answers steps with
    | .error e => .error (.connect e)
    | .ok answers => .ok (k.log ++ pair.accepting, pair, answers)

/-- The same with the rules of the program. -/
def exchange (net : Network) (date : Bytes) (setup : Setup) (steps : List Step) :
    Except Failure (Log × ServerPair × List Answer) :=
  exchangeUnder .standard net date setup steps

end Traffic

end TwinServers
