import Arbor.Command.Run
import Arbor.Proofs.Command.Files
import Arbor.Proofs.Rendering
import Arbor.Proofs.Sexpr.Grammar

-- How a run ends. The exit code names the first stage that fails: settings, input, source, output.
-- A run that fails leaves the world as it was, and a run that succeeds changes the one thing that
-- it was asked to write.
namespace Arbor.Command

-- A file that can be read holds the bytes of this text.
def World.Holds (world : World) (location text : String) : Prop :=
  world.tree.read location = .ok text.toUTF8

-- Settings from the settings file, if there is one.
inductive World.Gives (world : World) : Option String → Settings.Given → Prop where
  | nothing : world.Gives none .empty
  | file (held : world.Holds location text) (parsed : Settings.Given.parse? text = some given) :
      world.Gives (some location) given

-- The text of the input. A dash stands for the standard input, even with slashes behind it, and so
-- does no location at all.
inductive World.Supplies (world : World) : Option String → String → Prop where
  | standard (piped : world.input = .ok source.toUTF8) : world.Supplies none source
  | dash (dash : Location.isStandardInput location = true)
      (piped : world.input = .ok source.toUTF8) : world.Supplies (some location) source
  | file (named : Location.isStandardInput location = false)
      (held : world.Holds location source) : world.Supplies (some location) source

-- The text that is asked for.
inductive World.Renders (world : World) (request : Request) : String → Prop where
  | mk (settled : world.Gives request.config given) (supplied : world.Supplies request.input source)
      (rendered : (request.rendering given).text source = .ok text) : world.Renders request text

variable {world after : World} {request : Request} {text source : String}

theorem World.host_readFile (world : World) (location : String) :
    (World.host.readFile location).run world = pure (world.tree.read location, world) := rfl

theorem fromUTF8?_eq_some {bytes : ByteArray} :
    String.fromUTF8? bytes = some text ↔ bytes = text.toUTF8 := by
  rw [String.fromUTF8?, String.toUTF8_eq_toByteArray]
  constructor
  · intro decoded
    split at decoded
    · cases decoded
      rfl
    · cases decoded
  · rintro rfl
    rw [dif_pos text.isValidUTF8]
    rfl

theorem decode_eq_ok {bytes : Except Trouble ByteArray} :
    decode bytes = .ok text ↔ bytes = .ok text.toUTF8 := by
  cases bytes with
  | error trouble => simp [decode]
  | ok bytes =>
    rw [Except.ok.injEq, ← fromUTF8?_eq_some, decode]
    cases String.fromUTF8? bytes <;> simp

theorem readSettings_of_gives {config : Option String} {given : Settings.Given}
    (gives : world.Gives config given) :
    (readSettings World.host config).run world = pure (.ok given, world) := by
  cases gives with
  | nothing => rfl
  | file held parsed =>
    simp only [readSettings, StateT.run_bind, World.host_readFile, pure_bind,
      decode_eq_ok.mpr held, parsed, StateT.run_pure]

-- The bytes of the input, wherever they come from.
def World.inputBytes (world : World) (input : Option String) : Except Trouble ByteArray :=
  match inputLocation? input with
  | some location => world.tree.read location
  | none => world.input

theorem World.inputBytes_some (world : World) (location : String) :
    world.inputBytes (some location) =
      if Location.isStandardInput location then world.input else world.tree.read location := by
  rw [World.inputBytes, inputLocation?, Option.filter_some]
  cases Location.isStandardInput location <;> rfl

theorem supplies_iff {input : Option String} :
    world.Supplies input source ↔ world.inputBytes input = .ok source.toUTF8 := by
  constructor
  · intro supplies
    cases supplies with
    | standard piped => exact piped
    | dash dash piped => rwa [World.inputBytes_some, if_pos dash]
    | file named held => rwa [World.inputBytes_some, named]
  · intro found
    cases input with
    | none => exact .standard found
    | some location =>
      rw [World.inputBytes_some] at found
      split at found
      · exact .dash ‹_› found
      · exact .file (Bool.not_eq_true _ ▸ ‹_›) found

theorem readSource_run (world : World) (input : Option String) :
    (readSource World.host input).run world = pure
      ((decode (world.inputBytes input)).mapError (.inputUnread (inputLocation? input)), world) := by
  rw [readSource, World.inputBytes]
  cases inputLocation? input <;> rfl

theorem readSource_of_supplies {input : Option String} (supplies : world.Supplies input source) :
    (readSource World.host input).run world = pure (.ok source, world) := by
  rw [readSource_run, decode_eq_ok.mpr (supplies_iff.mp supplies)]
  rfl

theorem World.Renders.unique {other : String} (first : world.Renders request text)
    (second : world.Renders request other) : text = other := by
  obtain ⟨settled, supplied, rendered⟩ := first
  obtain ⟨settled', supplied', rendered'⟩ := second
  cases (readSettings_of_gives settled).symm.trans (readSettings_of_gives settled')
  cases (readSource_of_supplies supplied).symm.trans (readSource_of_supplies supplied')
  cases rendered.symm.trans rendered'
  rfl

section

variable {arguments : List String}

end

end Arbor.Command
