import Arbor.Format
import Arbor.Graph.Statement

-- Settings of a run. They may be given in a settings file and by flags, which win; what neither
-- gives has a standard value.
namespace Arbor

namespace Settings

structure Given where
  scheme : Option Graph.Scheme
  output : Option OutputFormat
  input : Option InputFormat
deriving DecidableEq

def Given.empty : Given := ⟨none, none, none⟩

def Given.overlaid (given overlay : Given) : Given where
  scheme := overlay.scheme.or given.scheme
  output := overlay.output.or given.output
  input := overlay.input.or given.input

end Settings

-- The input format may be left to the location of the input.
structure Settings where
  scheme : Graph.Scheme
  output : OutputFormat
  input : Option InputFormat
deriving DecidableEq

namespace Settings

def ofGiven (given : Given) : Settings where
  scheme := given.scheme.getD .standard
  output := given.output.getD .standard
  input := given.input

-- What is set wins over what the location suggests, and the parenthesised notation is the last
-- resort.
def inputFormat (settings : Settings) (location : Option String) : InputFormat :=
  (settings.input.or (location.bind InputFormat.ofLocation?)).getD .sexpr

end Settings

end Arbor
