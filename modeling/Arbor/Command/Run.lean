import Arbor.Command.Arguments
import Arbor.Command.Host
import Arbor.Rendering
import Arbor.Settings.File

-- A run of the program: settings, then the input, then the rendering, then the output. The first of
-- these that fails ends the run, so that nothing is written unless all before it went well.
namespace Arbor.Command

inductive Failure where
  | configUnread (location : String) (trouble : Trouble)
  | configRefused (location : String)
  | inputUnread (location : Option String) (trouble : Trouble)
  | unrendered (failure : Rendering.Failure)
  | outputUnwritten (location : Option String) (trouble : Trouble)
deriving DecidableEq

namespace Failure

def code : Failure → UInt32
  | .configUnread .. => 64
  | .configRefused _ => 64
  | .unrendered (.refused _) => 65
  | .inputUnread .. => 66
  | .unrendered (.unwritten _) => 74
  | .outputUnwritten .. => 74

def messages : Failure → List String
  | .configUnread location trouble => ["Failed to read config " ++ location, trouble.text]
  | .configRefused location => ["Invalid config " ++ location]
  | .inputUnread (some location) trouble => ["Failed to read input " ++ location, trouble.text]
  | .inputUnread none trouble => ["Failed to read standard input", trouble.text]
  | .unrendered failure => failure.messages
  | .outputUnwritten (some location) trouble =>
    ["Failed to write output " ++ location, trouble.text]
  | .outputUnwritten none trouble => ["Failed to write standard output", trouble.text]

def text (failure : Failure) : String := "Error: " ++ ": ".intercalate failure.messages

end Failure

variable {m : Type → Type} [Monad m]

def readSettings (host : Host m) (config : Option String) : m (Except Failure Settings.Given) :=
  match config with
  | none => pure (.ok .empty)
  | some location => do
    match decode (← host.readFile location) with
    | .error trouble => return .error (.configUnread location trouble)
    | .ok text =>
      match Settings.Given.parse? text with
      | some given => return .ok given
      | none => return .error (.configRefused location)

def inputLocation? (input : Option String) : Option String :=
  input.filter fun location => !Location.isStandardInput location

def readSource (host : Host m) (input : Option String) : m (Except Failure String) := do
  let bytes ← match inputLocation? input with
    | some location => host.readFile location
    | none => host.readInput
  return (decode bytes).mapError (.inputUnread (inputLocation? input))

def writeResult (host : Host m) (output : Option String) (text : String) :
    m (Except Failure Unit) := do
  let written ← match output with
    | some location => host.writeFile location text
    | none => host.writeOutput text
  return written.mapError (.outputUnwritten output)

def Request.rendering (request : Request) (given : Settings.Given) : Rendering :=
  let settings := Settings.ofGiven (given.overlaid request.flags)
  ⟨settings.inputFormat request.input, settings.output, settings.scheme⟩

def run (host : Host m) (request : Request) : m (Except Failure Unit) := do
  match ← readSettings host request.config with
  | .error failure => return .error failure
  | .ok given =>
    match ← readSource host request.input with
    | .error failure => return .error failure
    | .ok source =>
      match (request.rendering given).text source with
      | .error failure => return .error (.unrendered failure)
      | .ok text => writeResult host request.output text

def versionLine : String := "astdot 0.1.0\n"

-- What the help says is free; the exit code and the stream that it goes to are not.
def helpText : String :=
  "Render a syntax tree as a Graphviz DOT graph\n\n" ++
  "Usage: astdot [OPTIONS] [INPUT]\n\n" ++
  "Arguments:\n" ++
  "  [INPUT]  Input file; `-` or omitted reads standard input\n\n" ++
  "Options:\n" ++
  "  -i, --input-format <FORMAT>  sexpr, json or rust (inferred from the extension when omitted)\n" ++
  "  -f, --format <FORMAT>        dot, json or text\n" ++
  "      --ids <SCHEME>           depth or pre-order\n" ++
  "  -o, --output <FILE>          Output file path (default: standard output)\n" ++
  "  -c, --config <FILE>          TOML config file\n" ++
  "  -d, --debug...               Increase log verbosity\n" ++
  "  -h, --help                   Print help\n" ++
  "  -V, --version                Print version\n"

def usageText : String := "error: invalid arguments\n\nUsage: astdot [OPTIONS] [INPUT]\n"

structure Ending where
  code : UInt32
  complaint : Option String
deriving DecidableEq

def carryOut (host : Host m) (arguments : List String) : m Ending := do
  match answer arguments with
  | .refuse => return ⟨2, some usageText⟩
  | .help =>
    discard (host.writeOutput helpText)
    return ⟨0, none⟩
  | .version =>
    discard (host.writeOutput versionLine)
    return ⟨0, none⟩
  | .run request =>
    match ← run host request with
    | .ok () => return ⟨0, none⟩
    | .error failure => return ⟨failure.code, some (failure.text ++ "\n")⟩

end Arbor.Command
