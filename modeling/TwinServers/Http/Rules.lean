import TwinServers.Response

/-!
# The rules of a connection

The servers leave it to a library how requests are read from a connection and how responses go out
on it. `Rules` is what they need to know of it: an `Intake` finds the requests in what has arrived,
and an `Output` writes the replies. An intake keeps a state for every connection and nothing
besides. `Output.HonoursLengths` is what the servers rely on when they declare the length of a body.
`Rules.standard` are the rules that the program runs with.
-/

namespace TwinServers.Http

/-! ## Requests come in -/

/-- What a server does next on a connection. -/
inductive Turn (σ : Type)
  /-- It waits for more to arrive. -/
  | waits
  /-- It ends the connection, before its time if there is a fault. -/
  | ends (fault : Option Fault)
  /-- It answers a request, and goes on with `rest` if the connection stays open. -/
  | asks (request : Request) (keepAlive : Bool) (rest : σ)
  deriving DecidableEq

/-- How requests come in. -/
structure Intake where
  /-- What has arrived on a connection and is not answered yet. -/
  State : Type
  /-- Nothing has arrived yet. -/
  start : State
  /-- More arrives, and perhaps the news that nothing else will. -/
  receive : State → Bytes → Bool → State
  next : State → Turn State
  /-- Bounds the number of requests that have arrived. -/
  size : State → Nat
  size_lt : ∀ {s request keepAlive rest}, next s = .asks request keepAlive rest → size rest < size s

/-! ## Replies go out -/

/-- How a reply tells where its body ends. -/
inductive Framing
  /-- The response declares the length itself. -/
  | declared (n : Nat)
  /-- The length is known. -/
  | measured (n : Nat)
  /-- The body comes in chunks. -/
  | chunks
  /-- The body ends with the connection. -/
  | untilClose
  /-- There is neither a body nor a line about one. -/
  | absent
  deriving DecidableEq, Repr

/-- How replies go out. -/
structure Output where
  /-- The framing of the reply to a request, from the length that the response declares, if it does,
  and what its body says of its own. -/
  framing : Request → Option Nat → Hint → Framing
  /-- What is wrong with a reply that is framed like this, if it cannot be sent. -/
  fault? : Request → Framing → Option Fault
  /-- The head of a reply, with the date and whether the connection is to stay open. -/
  head : Bytes → Request → Bool → Framing → Bytes
  /-- The frames of a body as they are sent. -/
  body : Request → Framing → List Bytes → Bytes
  /-- Whether the connection can stay open after the reply. -/
  reusable : Request → Framing → Bool
  /-- What a client is told of a fault, with the date. -/
  refusal : Bytes → Fault → Bytes

namespace Output

/-- Whether a declared length settles how a response is framed, unless its body is known to be
empty, and whether its bytes are then sent as they are, however they are divided into frames. -/
structure HonoursLengths (o : Output) : Prop where
  framing_declared : ∀ request n hint,
    hint.atEnd = false → o.framing request (some n) hint = .declared n
  body_declared : ∀ request n frames,
    o.body request (.declared n) frames = o.body request (.declared n) [frames.flatten]

end Output

/-- What goes out in answer to a request, whether the connection stays open after it, and what was
wrong. -/
structure Reply where
  wire : Bytes
  staysOpen : Bool
  fault : Option Fault := none
  deriving DecidableEq, Repr

namespace Output

/-- The reply with a response. If it cannot be sent, the connection ends without it. -/
def reply (o : Output) (date : Bytes) (request : Request) (keepAlive : Bool)
    (response : Response) : Reply :=
  let framing := o.framing request response.declared response.body.hint
  match o.fault? request framing with
  | some fault => { wire := [], staysOpen := false, fault := some fault }
  | none =>
    { wire := o.head date request keepAlive framing ++ o.body request framing response.body.frames
      staysOpen := keepAlive && o.reusable request framing }

/-- The last that is heard of a connection that ends without a request. -/
def farewell (o : Output) (date : Bytes) (fault : Option Fault) : Reply where
  wire := fault.elim [] (o.refusal date)
  staysOpen := false
  fault

end Output

/-- How requests come in and replies go out. -/
structure Rules where
  intake : Intake
  output : Output

end TwinServers.Http
