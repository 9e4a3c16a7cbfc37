import Arbor.Command.Run

-- The program on a real system.
namespace Arbor.Main

open Command

partial def readToEnd (stream : IO.FS.Stream) (done : ByteArray) : IO ByteArray := do
  let bytes ← stream.read 65536
  if bytes.isEmpty then return done else readToEnd stream (done ++ bytes)

def trouble (error : IO.Error) : Trouble :=
  match error with
  | .noFileOrDirectory .. => .missing
  | .inappropriateType _ 20 _ => .notDirectory
  | .inappropriateType _ 21 _ => .directory
  | error => .other (toString error)

def attempt {α : Type} (action : IO α) : IO (Except Trouble α) := do
  try
    return .ok (← action)
  catch error => return .error (trouble error)

def host : Host IO where
  readFile location := attempt (IO.FS.readBinFile location)
  readInput := attempt do readToEnd (← IO.getStdin) .empty
  writeFile location text := attempt (IO.FS.writeFile location text)
  writeOutput text := attempt do
    let stream ← IO.getStdout
    stream.putStr text
    stream.flush

end Arbor.Main

def main (arguments : List String) : IO UInt32 := do
  let ending ← Arbor.Command.carryOut Arbor.Main.host arguments
  if let some complaint := ending.complaint then
    (← IO.getStderr).putStr complaint
  return ending.code
