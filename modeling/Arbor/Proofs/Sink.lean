import Arbor.Proofs.Text.Lossy
import Arbor.Sink

-- What reaches a sink that has only so much room. A writer that is made up of writers stops at the
-- first that fails, so it sends the texts of its parts one after the other, cut where the room ends.
namespace Arbor

namespace Sink

-- How a writer reports that a sink was full.
def failure (sink : Sink) : Failure :=
  match sink.overflow with
  | .fail => .full
  | .takeNothing => .tookNothing

-- Whether there is room for so many bytes.
def fits (sink : Sink) (count : Nat) : Bool := sink.room.all (count ≤ ·)

-- As many of the bytes as there is room for.
def start (sink : Sink) (bytes : List UInt8) : List UInt8 :=
  match sink.room with
  | none => bytes
  | some room => bytes.take room

-- A sink before and after it took these bytes and turned so many offers down, and nothing else
-- happened to it.
structure Took (before : Sink) (gained : List UInt8) (refusals : Nat) (after : Sink) : Prop where
  bytes : after.bytes = before.bytes ++ gained
  room : after.room = before.room.map (· - gained.length)
  overflow : after.overflow = before.overflow
  flushes : after.flushes = before.flushes
  refusals : after.refusals = before.refusals + refusals
  flushed : after.flushed = before.flushed

-- The action gets as much of the text into a sink as there is room for. It fails exactly if that is
-- not all of it, and then it has found the sink full once and has not tried again.
def Sends (action : Sink → Sink × Option Failure) (text : String) : Prop :=
  ∀ sink, let fit := sink.fits text.toUTF8.toList.length
    ∃ after, action sink = (after, if fit then none else some sink.failure) ∧
      Took sink (sink.start text.toUTF8.toList) (if fit then 0 else 1) after

-- Goes on with the second action only if the first did not fail.
def andThen (action further : Sink → Sink × Option Failure) (sink : Sink) : Sink × Option Failure :=
  match action sink with
  | (sink, some failure) => (sink, some failure)
  | (sink, none) => further sink

variable {before middle after : Sink} {gained : List UInt8} {refusals : Nat}

@[simp]
theorem fits_zero (sink : Sink) : sink.fits 0 = true := by
  cases room : sink.room <;> simp [fits, room]

@[simp]
theorem start_nil (sink : Sink) : sink.start [] = [] := by
  cases room : sink.room <;> simp [start, room]

theorem start_of_fits {sink : Sink} {bytes : List UInt8} (fit : sink.fits bytes.length = true) :
    sink.start bytes = bytes := by
  rw [start]
  cases room : sink.room with
  | none => rfl
  | some room =>
    rw [fits, room] at fit
    exact List.take_of_length_le (by simpa using fit)

-- What stands behind bytes that there is no room for does not matter.
theorem full_append {sink : Sink} {bytes : List UInt8} (full : ¬ sink.fits bytes.length = true)
    (rest : List UInt8) :
    ¬ sink.fits (bytes ++ rest).length = true ∧ sink.start (bytes ++ rest) = sink.start bytes := by
  simp only [fits, start] at full ⊢
  cases room : sink.room with
  | none => simp [room] at full
  | some room' =>
    simp only [room, Option.all_some, decide_eq_true_eq] at full ⊢
    refine ⟨by rw [List.length_append]; omega, ?_⟩
    exact List.take_append_of_le_length (by omega)

theorem Took.nothing (sink : Sink) : Took sink [] 0 sink where
  bytes := by simp
  room := by cases sink.room <;> rfl
  overflow := rfl
  flushes := rfl
  refusals := rfl
  flushed := rfl

theorem Took.refuse (sink : Sink) : Took sink [] 1 sink.refuse where
  bytes := by simp [Sink.bytes, Sink.refuse]
  room := by cases room : sink.room <;> simp [Sink.refuse, room]
  overflow := rfl
  flushes := rfl
  refusals := rfl
  flushed := rfl

theorem Took.more {later : List UInt8} {further : Nat} (first : Took before gained refusals middle)
    (second : Took middle later further after) :
    Took before (gained ++ later) (refusals + further) after where
  bytes := by rw [second.bytes, first.bytes, List.append_assoc]
  room := by
    rw [second.room, first.room]
    cases before.room with
    | none => rfl
    | some room => simp [Nat.sub_add_eq]
  overflow := second.overflow.trans first.overflow
  flushes := second.flushes.trans first.flushes
  refusals := by rw [second.refusals, first.refusals, Nat.add_assoc]
  flushed := second.flushed.trans first.flushed

theorem Took.failure (took : Took before gained refusals after) : after.failure = before.failure := by
  simp only [Sink.failure, took.overflow]

-- Behind bytes that there was room for, the rest goes on as if all had been written at once.
theorem Took.fits_rest (took : Took before gained refusals after)
    (fit : before.fits gained.length = true) (count : Nat) :
    after.fits count = before.fits (gained.length + count) := by
  rw [fits, took.room, fits]
  cases room : before.room with
  | none => rfl
  | some room =>
    rw [fits, room] at fit
    simp only [Option.all_some, decide_eq_true_eq, Option.map_some] at fit ⊢
    rw [decide_eq_decide]
    omega

theorem Took.start_rest (took : Took before gained refusals after)
    (fit : before.fits gained.length = true) (rest : List UInt8) :
    before.start (gained ++ rest) = gained ++ after.start rest := by
  rw [start, start, took.room]
  cases room : before.room with
  | none => rfl
  | some room =>
    rw [fits, room] at fit
    simp only [Option.all_some, decide_eq_true_eq, Option.map_some] at fit ⊢
    rw [List.take_append, List.take_of_length_le fit]

-- A sink that is not full takes the beginning of what it is offered, and has room for it.
theorem helping_cons {sink : Sink} (space : sink.room ≠ some 0) (first : UInt8)
    (others : List UInt8) :
    ∃ count ≤ others.length, sink.helping (first :: others) = first :: others.take count ∧
      sink.fits (count + 1) = true := by
  let most := max 1 (sink.portion sink.taken (first :: others))
  have least : 1 ≤ most := Nat.le_max_left _ _
  have cut (size : Nat) (some : 1 ≤ size) :
      (first :: others).take size = first :: others.take (min (size - 1) others.length) := by
    obtain ⟨fewer, rfl⟩ := Nat.exists_eq_add_of_le' some
    rw [List.take_succ_cons, Nat.add_sub_cancel, ← List.take_eq_take_min]
  cases room : sink.room with
  | none =>
    refine ⟨min (most - 1) others.length, Nat.min_le_right _ _, ?_, by simp [fits, room]⟩
    simp only [helping, room]
    exact cut most least
  | some room' =>
    have some : 1 ≤ min most room' := by
      have : room' ≠ 0 := fun none => space (none ▸ room)
      omega
    refine ⟨min (min most room' - 1) others.length, Nat.min_le_right _ _, ?_, ?_⟩
    · simp only [helping, room]
      exact cut _ some
    · simp only [fits, room, Option.all_some, decide_eq_true_eq]
      omega

theorem Took.keep (sink : Sink) (stretch : List UInt8) : Took sink stretch 0 (sink.keep stretch) where
  bytes := by simp [Sink.keep, Sink.bytes]
  room := rfl
  overflow := rfl
  flushes := rfl
  refusals := rfl
  flushed := rfl

theorem write_full {sink : Sink} (full : sink.room = some 0) (first : UInt8)
    (others : List UInt8) : sink.write (first :: others) = (sink.refuse, some sink.failure) := by
  rw [write, offer, if_pos full, failure]
  cases sink.overflow <;> rfl

-- One write that takes something; what it did not take is still to be written.
theorem write_step {sink : Sink} (space : sink.room ≠ some 0) (first : UInt8)
    (others : List UInt8) :
    ∃ count, sink.fits (first :: others.take count).length = true ∧
      sink.write (first :: others) =
        (sink.keep (first :: others.take count)).write (others.drop count) := by
  obtain ⟨count, short, helped, fit⟩ := helping_cons space first others
  have size : (others.take count).length = count := List.length_take_of_le short
  refine ⟨count, by rwa [List.length_cons, size], ?_⟩
  rw [write, offer, if_neg space, helped, List.length_cons, size]

-- A write takes all that there is room for, however little the sink takes at once.
theorem write_took (sink : Sink) (bytes : List UInt8) :
    ∃ after, sink.write bytes =
        (after, if sink.fits bytes.length then none else some sink.failure) ∧
      Took sink (sink.start bytes) (if sink.fits bytes.length then 0 else 1) after := by
  match bytes with
  | [] => exact ⟨sink, by simp [write], by simpa using Took.nothing sink⟩
  | first :: others =>
    by_cases full : sink.room = some 0
    · refine ⟨sink.refuse, ?_, ?_⟩
      · rw [write_full full]
        simp [fits, full]
      · simpa [start, fits, full] using Took.refuse sink
    · obtain ⟨count, fit, wrote⟩ := write_step full first others
      have took := Took.keep sink (first :: others.take count)
      have whole : first :: others = (first :: others.take count) ++ others.drop count := by simp
      obtain ⟨after, rest, more⟩ := write_took (sink.keep _) (others.drop count)
      rw [took.fits_rest fit] at rest more
      refine ⟨after, ?_, ?_⟩
      · rw [wrote, rest, took.failure, whole, List.length_append]
      · have both := took.more more
        rwa [Nat.zero_add, ← took.start_rest fit, ← List.length_append, ← whole] at both
termination_by bytes.length
decreasing_by simp only [List.length_cons, List.length_drop]; omega

variable {action further : Sink → Sink × Option Failure} {text later : String}

theorem Sends.of_eq (sends : Sends action text) (same : ∀ sink, further sink = action sink) :
    Sends further text :=
  funext same ▸ sends

theorem sends_nothing : Sends (fun sink => (sink, none)) "" := by
  intro sink
  exact ⟨sink, by simp, by simpa using Took.nothing sink⟩

theorem sends_put (text : String) : Sends (·.put text) text :=
  fun sink => write_took sink text.toUTF8.toList

theorem Sends.append (first : Sends action text) (second : Sends further later) :
    Sends (andThen action further) (text ++ later) := by
  intro sink
  rw [Text.bytes_append]
  obtain ⟨middle, acted, took⟩ := first sink
  by_cases fit : sink.fits text.toUTF8.toList.length = true
  · rw [if_pos fit, start_of_fits fit] at took
    rw [if_pos fit] at acted
    obtain ⟨after, rest, more⟩ := second middle
    rw [took.fits_rest fit] at rest more
    refine ⟨after, ?_, ?_⟩
    · rw [andThen, acted, List.length_append, ← took.failure]
      exact rest
    · have both := took.more more
      rwa [Nat.zero_add, ← took.start_rest fit, ← List.length_append] at both
  · obtain ⟨tight, same⟩ := full_append fit later.toUTF8.toList
    rw [if_neg fit] at took acted
    refine ⟨middle, ?_, ?_⟩
    · rw [andThen, acted, if_neg tight]
    · rwa [if_neg tight, same]

-- A sink without a limit takes everything, and one in memory shows it as it was.
theorem Sends.unlimited (sends : Sends action text) (sink : Sink) :
    ∃ after, action { sink with room := none } = (after, none) ∧
      Took { sink with room := none } text.toUTF8.toList 0 after := by
  obtain ⟨after, acted, took⟩ := sends { sink with room := none }
  exact ⟨after, acted, took⟩

theorem Sends.text_buffer (sends : Sends action text) : (action .buffer).1.text = text := by
  obtain ⟨after, acted, took⟩ := sends.unlimited .buffer
  have whole : after.bytes = text.toUTF8.toList := took.bytes
  have same : action .buffer = (after, none) := acted
  rw [same, Sink.text, whole, Text.decodeLossy_bytes]

end Sink

end Arbor
