import ApiBridge.CommandLine.Execution

namespace ApiBridge.CommandLine

/-- What is shown to those who ask for help, or for nothing that there is. -/
def usageText : String :=
  "Usage: apilinker [OPTIONS] <COMMAND>\n\n" ++
  "Commands:\n" ++
  "  endpoints  List configured endpoints\n" ++
  "  check      Check that the API is reachable\n" ++
  "  fetch      Fetch data from an endpoint (follows pagination)\n" ++
  "  send       Send data to an endpoint (arrays are sent item by item)\n" ++
  "  stream     Stream server-sent events, one JSON line per event\n" ++
  "  consume    Consume server-sent events in chunks and print the summary\n" ++
  "  help       Print this message or the help of the given subcommand(s)\n\n" ++
  "Options:\n" ++
  "  -c, --connector <CONNECTOR>  Connector definition file (YAML)\n" ++
  "  -f, --format <FORMAT>        Output format [default: json] " ++
  "[possible values: json, pretty]\n" ++
  "  -v, --verbose                Verbose output\n" ++
  "  -h, --help                   Print help\n" ++
  "  -V, --version                Print version\n"

def versionText : String := "apilinker 0.1.0\n"

def Invocation.fileNames (invocation : Invocation) : List String :=
  invocation.connector.toList ++
    match invocation.command with
    | .send _ (.file name) => [name]
    | _ => []

def faultText : Fault → String
  | .durationOverflow => "a length of time is too long"
  | .instantOverflow => "an instant is too late"
  | .bucketOverflow => "a rate is too low to be kept"
  | .bufferOverflow => "a buffer is too large"
  | .neverEnds => "the run would never end"

def readFiles : List String → IO Files
  | [] => return []
  | name :: rest => do
      let files ← readFiles rest
      try
        let bytes ← IO.FS.readBinFile name
        return files.put name bytes.toList
      catch _ => return files

end ApiBridge.CommandLine

open ApiBridge ApiBridge.CommandLine in
/-- Runs a command. No request leaves this program: the other side is out of reach, and the clock
stands still. -/
def main (arguments : List String) : IO UInt32 := do
  match Invocation.parse arguments with
  | .error usage =>
      if usage = .version then IO.print versionText
      else if usage.exitCode = 0 then IO.print usageText
      else IO.eprint usageText
      return UInt32.ofNat usage.exitCode
  | .ok invocation =>
      let files ← readFiles invocation.fileNames
      match (invocation.run files).run (Traffic.start .unreachable [] ⟨0⟩) with
      | .error fault =>
          IO.eprintln ("Error: " ++ faultText fault)
          return 101
      | .ok (outcome, _) =>
          IO.print outcome.output
          if let some text := outcome.failureText then IO.eprintln text
          return UInt32.ofNat outcome.exitCode
