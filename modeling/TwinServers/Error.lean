import TwinServers.Address.Printer
import TwinServers.Errno

/-!
# Failures of a server

A server fails in two ways: it cannot be bound to its address, or it cannot accept a connection.
Both name the address they are about and the error behind them. `ServerError.report` is what the
program prints when it cannot start: the error, and under `Caused by:` the error behind it.

After a failed accept a server waits before it tries again: 10 ms after the first failure of a
streak, twice as long after each further one, and never more than a second. In `Backoff.pause` the
power of two is taken in 32-bit words, with an exponent of at most 16.
-/

namespace TwinServers

/-- What went wrong with a server. -/
inductive ServerError
  | bind (address : SocketAddress) (source : IoError)
  | accept (address : SocketAddress) (source : IoError)
  deriving DecidableEq

namespace ServerError

/-- The address the error is about. -/
def address : ServerError → SocketAddress
  | .bind a _ => a
  | .accept a _ => a

/-- The error behind it. -/
def source : ServerError → IoError
  | .bind _ e => e
  | .accept _ e => e

/-- What was attempted. -/
def attempt : ServerError → String
  | .bind .. => "Failed to bind "
  | .accept .. => "Failed to accept on "

/-- The text of an error in which the address is written as `address` does. -/
def messageWith (address : SocketAddress → String) (e : ServerError) : String :=
  e.attempt ++ address e.address ++ ": " ++ e.source.text

/-- The text of an error. -/
def message : ServerError → String := messageWith SocketAddress.text

/-- The texts of the errors behind it, from the nearest to the first. -/
def causes (e : ServerError) : List String := [e.source.text]

/-- Every line after the first is moved four blanks to the right. -/
def indent (s : String) : String :=
  String.ofList (s.toList.flatMap fun c => if c = '\n' then "\n    ".toList else [c])

/-- What the program prints about an error that it ends with. -/
def report (e : ServerError) : String :=
  "Error: " ++ e.message ++ "\n\nCaused by:\n    " ++ indent e.source.text

end ServerError

/-! ## The pause after a failed accept -/

namespace Backoff

/-- The shortest pause, in milliseconds. -/
def shortest : Nat := 10

/-- The longest pause, in milliseconds. -/
def longest : Nat := 1000

/-- How often the shortest pause is doubled: once less than there were failures, at most 16
times. -/
def doublings (failures : UInt32) : UInt32 := min (if failures = 0 then 0 else failures - 1) 16

/-- The pause after the given number of failures in a row, in milliseconds. -/
def pause (failures : UInt32) : Nat :=
  min (shortest * ((1 : UInt32) <<< doublings failures).toNat) longest

/-- The text of a pause: in seconds if it is a whole number of them, else in milliseconds. -/
def text (pause : Nat) : String :=
  if pause % 1000 = 0 then toString (pause / 1000) ++ "s" else toString pause ++ "ms"

/-- One more failure. The count stays at its greatest value once it is there. -/
def countFailure (failures : UInt32) : UInt32 :=
  if failures = 0xffffffff then failures else failures + 1

end Backoff

end TwinServers
