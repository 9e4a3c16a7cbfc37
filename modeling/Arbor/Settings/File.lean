import Arbor.Settings.Basic
import Arbor.Settings.Toml

-- Settings files. Each setting may be given once, by a name of its type; other keys are refused.
namespace Arbor.Settings

def Given.put? (given : Given) (pair : String × String) : Option Given :=
  match pair with
  | (key, value) =>
    if key = "ids" then
      if given.scheme.isSome then none
      else (Graph.Scheme.ofName? value).map fun scheme => { given with scheme := some scheme }
    else if key = "format" then
      if given.output.isSome then none
      else (OutputFormat.ofName? value).map fun output => { given with output := some output }
    else if key = "input_format" then
      if given.input.isSome then none
      else (InputFormat.ofName? value).map fun input => { given with input := some input }
    else none

def Given.ofPairs? (pairs : List (String × String)) : Option Given := pairs.foldlM Given.put? .empty

def Given.parse? (text : String) : Option Given := (Toml.pairs? text).bind ofPairs?

end Arbor.Settings
