import TwinServers.Program

/-!
# The command line

The program takes no arguments. It starts both servers on a host where every port is free, prints
what it logs and ends with the exit code of the start.
-/

namespace TwinServers

/-- Starts the servers and prints what they log. -/
def runProgram : IO UInt32 := do
  match Program.run .loopback {} .none [] [] with
  | .error e =>
    IO.eprintln ("Error: " ++ e.text)
    return 1
  | .ok p =>
    for l in p.lines do
      IO.println l
    if let some e := p.ended then
      IO.eprintln (Program.report e)
    return (p.exitCode?.getD 0).toUInt32

end TwinServers

/-- The entry point. -/
def main : IO UInt32 := TwinServers.runProgram
