import TwinServers.Address.Parser
import TwinServers.Http.Decoder
import TwinServers.Listener.Bench
import TwinServers.Main
import TwinServers.Proofs.AcceptLoop.Pacing
import TwinServers.Proofs.AcceptLoop.Runs
import TwinServers.Proofs.AcceptLoop.Streaks
import TwinServers.Proofs.Address.Groups
import TwinServers.Proofs.Address.Numerals
import TwinServers.Proofs.Address.RoundTrip
import TwinServers.Proofs.Backoff
import TwinServers.Proofs.Backoff.Duration
import TwinServers.Proofs.Error
import TwinServers.Proofs.Host.Exclusive
import TwinServers.Proofs.Host.Injection
import TwinServers.Proofs.Host.Records
import TwinServers.Proofs.Listener.AllOrNothing
import TwinServers.Proofs.Listener.Course
import TwinServers.Proofs.Listener.Exclusive
import TwinServers.Proofs.Listener.Fallback
import TwinServers.Proofs.Listener.Rebinding
import TwinServers.Proofs.Numbers
import TwinServers.Proofs.Payload.Limits
import TwinServers.Proofs.Payload.Repetition
import TwinServers.Proofs.Payload.Words
import TwinServers.Proofs.Program.Startup
import TwinServers.Proofs.Response.Declared
import TwinServers.Proofs.Response.Deliveries
import TwinServers.Proofs.Response.Frames
import TwinServers.Proofs.Response.Hints
import TwinServers.Proofs.Server.SharedPort
import TwinServers.Proofs.Session.History
import TwinServers.Proofs.Session.Isolation
import TwinServers.Proofs.Traffic.Indistinguishable
import TwinServers.Proofs.Traffic.Interleaving
import TwinServers.Proofs.Traffic.Requests
import TwinServers.Session
import TwinServers.Traffic
