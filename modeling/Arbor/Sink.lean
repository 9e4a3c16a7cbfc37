import Arbor.Text.Lossy

-- Places to write bytes to. A write that finds no room either fails or takes nothing, which a writer
-- that must get rid of everything reports as a failure too. A write need not take all that there is
-- room for, so such a writer goes on with what is left.
namespace Arbor

inductive Overflow where
  | fail
  | takeNothing
deriving DecidableEq

structure Sink where
  -- How many bytes it still takes; any number if nothing is said.
  room : Option Nat
  overflow : Overflow
  -- How many bytes it takes at once at most, by what it took before and what it is offered. A sink
  -- that is not full takes one byte at least.
  portion : List (List UInt8) → List UInt8 → Nat
  flushes : Bool
  -- The stretches of bytes that it took, last first.
  taken : List (List UInt8)
  -- How often it was offered bytes when it was full.
  refusals : Nat
  flushed : Nat

namespace Sink

inductive Failure where
  | full
  | tookNothing
  | flushRefused
deriving DecidableEq

def Failure.text : Failure → String
  | .full => "sink full"
  | .tookNothing => "failed to write whole buffer"
  | .flushRefused => "flush refused"

def fresh (room : Option Nat) (overflow : Overflow) (flushes : Bool) : Sink where
  room
  overflow
  portion _ offered := offered.length
  flushes
  taken := []
  refusals := 0
  flushed := 0

-- A sink in memory.
def buffer : Sink := fresh none .fail true

def bytes (sink : Sink) : List UInt8 := sink.taken.reverse.flatten

def text (sink : Sink) : String := Text.decodeLossy sink.bytes

def helping (sink : Sink) (offered : List UInt8) : List UInt8 :=
  let most := max 1 (sink.portion sink.taken offered)
  offered.take (match sink.room with
    | none => most
    | some room => min most room)

def keep (sink : Sink) (stretch : List UInt8) : Sink :=
  { sink with
    room := sink.room.map (· - stretch.length)
    taken := stretch :: sink.taken }

def refuse (sink : Sink) : Sink := { sink with refusals := sink.refusals + 1 }

-- A single write, which tells how many of the bytes were taken.
def offer (sink : Sink) (offered : List UInt8) : Sink × Except Failure Nat :=
  if sink.room = some 0 then
    match sink.overflow with
    | .fail => (sink.refuse, .error .full)
    | .takeNothing => (sink.refuse, .ok 0)
  else (sink.keep (sink.helping offered), .ok (sink.helping offered).length)

-- Writes until all the bytes are taken, or a write fails or takes nothing.
def write (sink : Sink) (bytes : List UInt8) : Sink × Option Failure :=
  match bytes with
  | [] => (sink, none)
  | first :: others =>
    match sink.offer (first :: others) with
    | (sink, .error failure) => (sink, some failure)
    | (sink, .ok 0) => (sink, some .tookNothing)
    | (sink, .ok (count + 1)) => sink.write (others.drop count)
termination_by bytes.length
decreasing_by simp only [List.length_cons, List.length_drop]; omega

def put (sink : Sink) (text : String) : Sink × Option Failure := sink.write text.toUTF8.toList

def flush (sink : Sink) : Sink × Option Failure :=
  ({ sink with flushed := sink.flushed + 1 }, if sink.flushes then none else some .flushRefused)

end Sink

end Arbor
