-- Escaping of labels, so that a label stands between double quotes on one line.
namespace Arbor.Graph

def replaceChar (target : Char) (replacement : List Char) (text : List Char) : List Char :=
  text.flatMap fun c => if c = target then replacement else [c]

-- Backslashes come first: those that the later steps add must not be doubled.
def escapeChars (label : List Char) : List Char :=
  replaceChar '\n' ['\\', 'n'] (replaceChar '"' ['\\', '"'] (replaceChar '\\' ['\\', '\\'] label))

def escape (label : String) : String := String.ofList (escapeChars label.toList)

end Arbor.Graph
