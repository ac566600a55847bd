import ServiceStability.CommandLine.Run
/-!
# Main — the program

Reads the arguments and the snapshot file, writes what the run comes to, and exits with its code.
-/
namespace ServiceStability
namespace CommandLine

def readText (path : Text) : IO (Option Text) := do
  try
    let bytes ← IO.FS.readBinFile (String.ofList path)
    return (String.fromUTF8? bytes).map String.toList
  catch _ => return none

def Ending.write (e : Ending) : IO UInt32 := do
  IO.print (String.ofList (e.out.getD []))
  return e.code.toUInt32

end CommandLine
end ServiceStability

open ServiceStability.CommandLine in
def main (args : List String) : IO UInt32 := do
  match Invocation.parse (args.map String.toList) with
  | .error problem => problem.finish.write
  | .ok invocation => (invocation.finish (← readText invocation.command.snapshot)).write
