import Arbor.Settings.Basic

-- Arguments of the command line. Options may stand anywhere before `--`; one that takes a value
-- takes it from behind its sign, its letter, or from the next argument.
namespace Arbor.Command

structure Request where
  input : Option String
  output : Option String
  config : Option String
  flags : Settings.Given
  verbosity : Nat
deriving DecidableEq

def Request.empty : Request := ⟨none, none, none, .empty, 0⟩

inductive Setting where
  | inputFormat
  | outputFormat
  | scheme
  | output
  | config
deriving DecidableEq

inductive Switch where
  | debug
  | help
  | version
deriving DecidableEq

def Setting.ofName? (name : String) : Option Setting :=
  if name = "input-format" then some .inputFormat
  else if name = "format" then some .outputFormat
  else if name = "ids" then some .scheme
  else if name = "output" then some .output
  else if name = "config" then some .config
  else none

def Setting.ofLetter? (letter : Char) : Option Setting :=
  if letter = 'i' then some .inputFormat
  else if letter = 'f' then some .outputFormat
  else if letter = 'o' then some .output
  else if letter = 'c' then some .config
  else none

def Switch.ofName? (name : String) : Option Switch :=
  if name = "debug" then some .debug
  else if name = "help" then some .help
  else if name = "version" then some .version
  else none

def Switch.ofLetter? (letter : Char) : Option Switch :=
  if letter = 'd' then some .debug
  else if letter = 'h' then some .help
  else if letter = 'V' then some .version
  else none

def location? (text : String) : Option String := if text = "" then none else some text

def once {α : Type} (old new : Option α) : Option (Option α) :=
  match old, new with
  | none, some value => some (some value)
  | _, _ => none

namespace Request

-- A setting takes one value only, and a format or scheme only one of its names.
def set? (request : Request) (setting : Setting) (value : String) : Option Request :=
  match setting with
  | .inputFormat =>
    (once request.flags.input (InputFormat.ofName? value)).map fun input =>
      { request with flags := { request.flags with input } }
  | .outputFormat =>
    (once request.flags.output (OutputFormat.ofName? value)).map fun output =>
      { request with flags := { request.flags with output } }
  | .scheme =>
    (once request.flags.scheme (Graph.Scheme.ofName? value)).map fun scheme =>
      { request with flags := { request.flags with scheme } }
  | .output =>
    (once request.output (location? value)).map fun output => { request with output }
  | .config =>
    (once request.config (location? value)).map fun config => { request with config }

def place? (request : Request) (argument : String) : Option Request :=
  (once request.input (location? argument)).map fun input => { request with input }

end Request

inductive Answer where
  | run (request : Request)
  | help
  | version
  | refuse
deriving DecidableEq

-- A cluster may leave a setting without its value, which the next argument then gives.
inductive ClusterAnswer where
  | done (request : Request)
  | pending (request : Request) (setting : Setting)
  | stop (answer : Answer)

def readCluster (request : Request) : List Char → ClusterAnswer
  | [] => .done request
  | letter :: rest =>
    match Switch.ofLetter? letter with
    | some .debug => readCluster { request with verbosity := request.verbosity + 1 } rest
    | some .help => .stop .help
    | some .version => .stop .version
    | none =>
      match Setting.ofLetter? letter with
      | none => .stop .refuse
      | some setting =>
        let given (value : List Char) : ClusterAnswer :=
          match request.set? setting (String.ofList value) with
          | some request => .done request
          | none => .stop .refuse
        match rest with
        | [] => .pending request setting
        | '=' :: value => given value
        | value => given value

inductive Shape where
  | divider
  | long (name : String) (value : Option String)
  | cluster (letters : List Char)
  -- A single dash is no option either.
  | plain

def shape (argument : String) : Shape :=
  match argument.toList with
  | ['-', '-'] => .divider
  | '-' :: '-' :: rest =>
    let name := String.ofList (rest.takeWhile (· != '='))
    match rest.dropWhile (· != '=') with
    | [] => .long name none
    | _ :: value => .long name (some (String.ofList value))
  | '-' :: first :: rest => .cluster (first :: rest)
  | _ => .plain

def isValue (argument : String) : Bool :=
  match shape argument with
  | .plain => true
  | _ => false

def readPlain (request : Request) : List String → Answer
  | [] => .run request
  | argument :: rest =>
    match request.place? argument with
    | some request => readPlain request rest
    | none => .refuse

-- The first argument that is wrong, or that asks for help or the version, decides.
def readArguments (request : Request) : List String → Answer
  | [] => .run request
  | argument :: rest =>
    let awaiting (request : Request) (setting : Setting) : Option Request :=
      rest.head?.bind fun value =>
        if isValue value then request.set? setting value else none
    match shape argument with
    | .divider => readPlain request rest
    | .plain =>
      match request.place? argument with
      | some request => readArguments request rest
      | none => .refuse
    | .long name value =>
      match Switch.ofName? name, Setting.ofName? name, value with
      | some .debug, _, none =>
        readArguments { request with verbosity := request.verbosity + 1 } rest
      | some .help, _, none => .help
      | some .version, _, none => .version
      | none, some setting, some value =>
        match request.set? setting value with
        | some request => readArguments request rest
        | none => .refuse
      | none, some setting, none =>
        match awaiting request setting, rest with
        | some request, _ :: rest => readArguments request rest
        | _, _ => .refuse
      | _, _, _ => .refuse
    | .cluster letters =>
      match readCluster request letters with
      | .done request => readArguments request rest
      | .pending request setting =>
        match awaiting request setting, rest with
        | some request, _ :: rest => readArguments request rest
        | _, _ => .refuse
      | .stop answer => answer

def answer (arguments : List String) : Answer := readArguments .empty arguments

end Arbor.Command
