import Arbor.Proofs.Graph.Descent
import Arbor.Proofs.Json.Written
import Arbor.Proofs.Outline
import Arbor.Rendering

-- Rendering into a sink that has only so much room: the sink receives the beginning of the rendered
-- text, and the outcome tells whether that was all of it.
namespace Arbor

def OutputFormat.render (format : OutputFormat) (scheme : Graph.Scheme) (tree : Tree) : String :=
  match format with
  | .dot => Graph.render scheme tree
  | .json => Json.render tree
  | .text => Outline.render tree

theorem OutputFormat.sends_write (format : OutputFormat) (scheme : Graph.Scheme) (tree : Tree) :
    Sink.Sends (format.write scheme tree) (format.render scheme tree) := by
  cases format with
  | dot =>
    rw [render, Graph.render_eq]
    exact Graph.sends_write scheme tree
  | json =>
    rw [render, Json.render_eq_written]
    exact Json.sends_write tree
  | text =>
    rw [render, Outline.render_eq]
    exact Outline.sends_write tree

namespace Rendering

variable {rendering : Rendering} {source : String} {tree : Tree}

-- The sink is flushed once, behind the whole text, and not at all if the text was cut short.
theorem into_of_read (sink : Sink) (found : rendering.input.read source = .ok tree) :
    let bytes := (rendering.output.render rendering.scheme tree).toUTF8.toList
    ∃ after,
      rendering.into source sink = (after,
        if sink.fits bytes.length then
          if sink.flushes then none else some (.unwritten .flushRefused)
        else some (.unwritten sink.failure)) ∧
      after.bytes = sink.bytes ++ sink.start bytes ∧
      after.refusals = sink.refusals + (if sink.fits bytes.length then 0 else 1) ∧
      after.flushed = sink.flushed + if sink.fits bytes.length then 1 else 0 := by
  intro bytes
  obtain ⟨after, wrote, took⟩ :=
    rendering.output.sends_write rendering.scheme tree sink
  rw [into, found]
  dsimp only
  rw [wrote]
  by_cases fit : sink.fits bytes.length = true
  · refine ⟨after.flush.1, ?_, took.bytes, took.refusals, ?_⟩
    · rw [if_pos fit, if_pos fit, ← took.flushes]
      dsimp only [Sink.flush]
      cases after.flushes <;> rfl
    · rw [if_pos fit, Sink.flush, took.flushed]
  · refine ⟨after, ?_, took.bytes, took.refusals, ?_⟩
    · rw [if_neg fit, if_neg fit]
    · rw [if_neg fit, took.flushed, Nat.add_zero]

theorem text_of_read (found : rendering.input.read source = .ok tree) :
    rendering.text source = .ok (rendering.output.render rendering.scheme tree) := by
  obtain ⟨after, done, received, -, -⟩ := into_of_read .buffer found
  have whole : after.bytes = (rendering.output.render rendering.scheme tree).toUTF8.toList := received
  have done : rendering.into source .buffer = (after, none) := done
  rw [text, done]
  dsimp only
  rw [Sink.text, whole, Text.decodeLossy_bytes]

theorem text_of_refusal {refusal : Refusal} (found : rendering.input.read source = .error refusal) :
    rendering.text source = .error (.refused refusal) := by
  rw [text, into, found]

-- A refused source leaves the sink as it was. Otherwise the sink has the beginning of the text, and
-- was flushed only behind all of it; where it was too small, it was found full once, and nobody tried
-- to write to it again.
theorem into_sends_start (rendering : Rendering) (source : String) (sink : Sink) (room : Nat) :
    let limited := { sink with room := some room }
    match rendering.input.read source with
    | .error refusal => rendering.into source limited = (limited, some (.refused refusal))
    | .ok _ =>
      ∃ text after, rendering.text source = .ok text ∧
        rendering.into source limited = (after,
          if text.utf8ByteSize ≤ room then
            if sink.flushes then none else some (.unwritten .flushRefused)
          else some (.unwritten limited.failure)) ∧
        after.bytes = sink.bytes ++ text.toUTF8.toList.take room ∧
        after.refusals = sink.refusals + (if text.utf8ByteSize ≤ room then 0 else 1) ∧
        after.flushed = sink.flushed + if text.utf8ByteSize ≤ room then 1 else 0 := by
  intro limited
  cases found : rendering.input.read source with
  | error refusal => simp only [into, found]
  | ok tree =>
    let text := rendering.output.render rendering.scheme tree
    have fits : limited.fits text.toUTF8.toList.length = decide (text.utf8ByteSize ≤ room) := by
      rw [Text.length_bytes]
      rfl
    obtain ⟨after, outcome, received, refused, flushed⟩ := into_of_read limited found
    rw [fits] at outcome refused flushed
    simp only [decide_eq_true_eq] at outcome refused flushed
    exact ⟨text, after, text_of_read found, outcome, received, refused, flushed⟩

end Rendering

end Arbor
