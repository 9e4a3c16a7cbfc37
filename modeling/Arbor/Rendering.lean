import Arbor.Graph.Drawing
import Arbor.Json.Writer
import Arbor.Outline
import Arbor.Reading

namespace Arbor

-- The scheme matters to graphs only.
def OutputFormat.write (format : OutputFormat) (scheme : Graph.Scheme) (tree : Tree) (sink : Sink) :
    Sink × Option Sink.Failure :=
  match format with
  | .dot => Graph.write scheme tree sink
  | .json => Json.write tree sink
  | .text => Outline.write tree sink

structure Rendering where
  input : InputFormat
  output : OutputFormat
  scheme : Graph.Scheme
deriving DecidableEq

namespace Rendering

inductive Failure where
  | refused (refusal : Refusal)
  | unwritten (failure : Sink.Failure)
deriving DecidableEq

-- The messages from the failure down to what lies beneath it.
def Failure.messages : Failure → List String
  | .refused refusal => refusal.messages
  | .unwritten failure => ["failed to write output: " ++ failure.text, failure.text]

def Failure.message : Failure → String
  | .refused refusal => refusal.message
  | .unwritten failure => "failed to write output: " ++ failure.text

-- The source is read before anything is written, so that a refused one leaves the sink alone.
def into (rendering : Rendering) (source : String) (sink : Sink) : Sink × Option Failure :=
  match rendering.input.read source with
  | .error refusal => (sink, some (.refused refusal))
  | .ok tree =>
    match rendering.output.write rendering.scheme tree sink with
    | (sink, some failure) => (sink, some (.unwritten failure))
    | (sink, none) =>
      match sink.flush with
      | (sink, some failure) => (sink, some (.unwritten failure))
      | (sink, none) => (sink, none)

def text (rendering : Rendering) (source : String) : Except Failure String :=
  match rendering.into source .buffer with
  | (_, some failure) => .error failure
  | (sink, none) => .ok sink.text

end Rendering

end Arbor
