import Intermediary.Live.Console
import Intermediary.Live.Launch

/-!
# The command line

The program is the proxy, or the console if it is started under the console's
name.
-/

namespace Intermediary

def consoleName : String := "proxy-cli"

def refuse (refusal : Refusal) (help : String) : IO UInt32 := do
  match refusal with
  | .help => IO.println help
  | .misuse => IO.eprintln ("error: these arguments make no sense\n\n" ++ help)
  return refusal.exitCode.toUInt32

def consoleMain (arguments : List String) : IO UInt32 := do
  match Console.ofArguments arguments with
  | .error refusal => refuse refusal Console.help
  | .ok console => Live.runConsole console

def proxyMain (arguments : List String) : IO UInt32 := do
  match CommandLine.ofArguments arguments with
  | .error refusal => refuse refusal CommandLine.help
  | .ok line =>
      let launch <- Live.Launch.fresh
      let result <- (launch.carryOut (Startup.run line)).block
      if let .error error := result then
        IO.eprintln ("Error: " ++ Startup.report error)
      return (Startup.exitCode result).toUInt32

end Intermediary

def main (arguments : List String) : IO UInt32 := do
  let name := (<- IO.appPath).fileStem
  if name = some Intermediary.consoleName then
    Intermediary.consoleMain arguments
  else Intermediary.proxyMain arguments
