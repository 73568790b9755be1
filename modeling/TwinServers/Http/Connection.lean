import TwinServers.Http.Rules

/-!
# Connections

The server's end of a connection. Requests are answered one after the other, for as long as the
rules find another one in what has arrived and the connection stays open.
-/

namespace TwinServers.Http

/-- The state of a connection. -/
structure Connection (intake : Intake) where
  inbox : intake.State := intake.start
  /-- Whether the server has closed the connection. -/
  closed : Bool := false

/-- What comes of serving a connection: what goes out, what was wrong, and the connection after
it. -/
structure Served (intake : Intake) where
  wire : Bytes := []
  fault : Option Fault := none
  connection : Connection intake

namespace Served

variable {intake : Intake}

/-- The end of a connection, with a reply as the last. -/
def last (r : Reply) : Served intake where
  wire := r.wire
  fault := r.fault
  connection := { closed := true }

/-- The same with a reply before it. -/
def after (r : Reply) (s : Served intake) : Served intake := { s with wire := r.wire ++ s.wire }

end Served

variable {rules : Rules}

/-- Answers the requests that have arrived on an open connection. -/
def serveInbox (rules : Rules) (date : Bytes) (h : Handler) (s : rules.intake.State) :
    Served rules.intake :=
  match hs : rules.intake.next s with
  | .waits => { connection := { inbox := s } }
  | .ends fault => .last (rules.output.farewell date fault)
  | .asks request keepAlive rest =>
    let reply := rules.output.reply date request keepAlive (h.respond request)
    if reply.staysOpen then
      have := rules.intake.size_lt hs
      .after reply (serveInbox rules date h rest)
    else
      .last reply
termination_by rules.intake.size s

/-- The same without the proof that there is an end to it. -/
theorem serveInbox_eq (date : Bytes) (h : Handler) (s : rules.intake.State) :
    serveInbox rules date h s =
      match rules.intake.next s with
      | .waits => { connection := { inbox := s } }
      | .ends fault => .last (rules.output.farewell date fault)
      | .asks request keepAlive rest =>
        let reply := rules.output.reply date request keepAlive (h.respond request)
        if reply.staysOpen then .after reply (serveInbox rules date h rest) else .last reply := by
  rw [serveInbox]
  split <;> simp [*]

namespace Connection

/-- More arrives, and perhaps the news that nothing else will. A closed connection takes no
notice. -/
def receive {intake : Intake} (c : Connection intake) (sent : Bytes) (done : Bool) :
    Connection intake :=
  if c.closed then c else { c with inbox := intake.receive c.inbox sent done }

/-- Serves a connection as far as what has arrived allows. -/
def serve (date : Bytes) (h : Handler) (c : Connection rules.intake) : Served rules.intake :=
  if c.closed then { connection := c } else serveInbox rules date h c.inbox

end Connection

end TwinServers.Http
