-- What a run needs of the system around it: files, the standard input and the standard output.
namespace Arbor.Command

inductive Trouble where
  | missing
  | directory
  | notDirectory
  | invalidText
  | other (text : String)
deriving DecidableEq

def Trouble.text : Trouble → String
  | .missing => "No such file or directory (os error 2)"
  | .directory => "Is a directory (os error 21)"
  | .notDirectory => "Not a directory (os error 20)"
  | .invalidText => "stream did not contain valid UTF-8"
  | .other text => text

structure Host (m : Type → Type) where
  readFile : (location : String) → m (Except Trouble ByteArray)
  readInput : m (Except Trouble ByteArray)
  writeFile : (location text : String) → m (Except Trouble Unit)
  writeOutput : (text : String) → m (Except Trouble Unit)

def decode (bytes : Except Trouble ByteArray) : Except Trouble String :=
  match bytes with
  | .error trouble => .error trouble
  | .ok bytes =>
    match String.fromUTF8? bytes with
    | some text => .ok text
    | none => .error .invalidText

end Arbor.Command
