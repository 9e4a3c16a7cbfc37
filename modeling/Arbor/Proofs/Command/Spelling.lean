import Arbor.Command.Run
import Arbor.Command.World
import Arbor.Proofs.Settings.Precedence

-- Command lines that spell one request. Options may stand in any order and each in several ways;
-- the arguments are read back to the request that they spell, and how verbose it is asked to be
-- makes no difference to what is done.
namespace Arbor.Command

-- The long name of a setting.
def Setting.name : Setting → String
  | .inputFormat => "input-format"
  | .outputFormat => "format"
  | .scheme => "ids"
  | .output => "output"
  | .config => "config"

-- The letter of a setting. One of them has none.
def Setting.letter? : Setting → Option Char
  | .inputFormat => some 'i'
  | .outputFormat => some 'f'
  | .scheme => none
  | .output => some 'o'
  | .config => some 'c'

-- What a request gives a setting, as a text.
def Request.value? (request : Request) : Setting → Option String
  | .inputFormat => request.flags.input.map InputFormat.name
  | .outputFormat => request.flags.output.map OutputFormat.name
  | .scheme => request.flags.scheme.map Graph.Scheme.name
  | .output => request.output
  | .config => request.config

def Request.raised (request : Request) (count : Nat) : Request :=
  { request with verbosity := request.verbosity + count }

-- A text that is a value in whatever way it is given: it is not empty and begins neither with an
-- equals sign nor with a dash, unless the dash is all of it.
def Sayable (text : String) : Prop :=
  text = "-" ∨ ∃ c rest, text.toList = c :: rest ∧ c ≠ '-' ∧ c ≠ '='

-- A dash, letters that raise the verbosity, and what follows them.
def dashed (count : Nat) (more : List Char) : String :=
  String.ofList ('-' :: (List.replicate count 'd' ++ more))

-- A setting with its value, in one argument or two. Letters that raise the verbosity may stand in
-- front of the setting's own letter.
inductive Clause (setting : Setting) (value : String) : Nat → List String → Prop where
  | long : Clause setting value 0 ["--" ++ setting.name, value]
  | longEquals : Clause setting value 0 ["--" ++ setting.name ++ "=" ++ value]
  | short (count : Nat) (own : setting.letter? = some letter) :
      Clause setting value count [dashed count [letter], value]
  | shortEquals (count : Nat) (own : setting.letter? = some letter) :
      Clause setting value count [dashed count (letter :: '=' :: value.toList)]
  | joined (count : Nat) (own : setting.letter? = some letter) :
      Clause setting value count [dashed count (letter :: value.toList)]

-- The arguments of a command line, with the verbosity, the settings in order and the input that they
-- give. The input stands anywhere among the options, or last behind two dashes.
inductive Line : Nat → List (Setting × String) → Option String → List String → Prop where
  | nothing : Line 0 [] none []
  | divided (sayable : Sayable location) : Line 0 [] (some location) ["--", location]
  | input (sayable : Sayable location) (more : Line level pairs none rest) :
      Line level pairs (some location) (location :: rest)
  | debug (more : Line level pairs input rest) : Line (1 + level) pairs input ("--debug" :: rest)
  | cluster (count : Nat) (more : Line level pairs input rest) :
      Line (count + 1 + level) pairs input (dashed (count + 1) [] :: rest)
  | setting (clause : Clause setting value count words) (sayable : Sayable value)
      (more : Line level pairs input rest) :
      Line (count + level) ((setting, value) :: pairs) input (words ++ rest)

-- A command line gives what a request asks for: its settings in some order, each once.
inductive Spells (request : Request) (arguments : List String) : Prop where
  | mk (line : Line request.verbosity pairs request.input arguments)
      (once : (pairs.map Prod.fst).Nodup)
      (chosen : ∀ setting value, (setting, value) ∈ pairs ↔ request.value? setting = some value)

variable {done next target : Request} {setting : Setting} {value location : String} {letter : Char}
  {count level : Nat} {letters name : List Char} {words rest arguments : List String}
  {pairs : List (Setting × String)} {input : Option String}

theorem Request.eq_of_values {left right : Request}
    (values : ∀ setting, left.value? setting = right.value? setting)
    (input : left.input = right.input) (verbosity : left.verbosity = right.verbosity) :
    left = right := by
  obtain ⟨_, _, _, ⟨_, _, _⟩, _⟩ := left
  obtain ⟨_, _, _, ⟨_, _, _⟩, _⟩ := right
  simp only [Request.mk.injEq, Settings.Given.mk.injEq]
  exact ⟨input, values .output, values .config,
    ⟨(Option.map_inj_right fun _ _ => Graph.Scheme.name_inj.mp).mp (values .scheme),
      (Option.map_inj_right fun _ _ => OutputFormat.name_inj.mp).mp (values .outputFormat),
      (Option.map_inj_right fun _ _ => InputFormat.name_inj.mp).mp (values .inputFormat)⟩,
    verbosity⟩

theorem once_free {α : Type} {old new : Option α} {value : α} (free : old = none)
    (found : new = some value) (put : Option α → Request) :
    (once old new).map put = some (put (some value)) := by
  rw [free, found]
  rfl

theorem location?_filled (filled : location ≠ "") : location? location = some location :=
  if_neg filled

-- A setting that is still free takes any value that some request gives it, and nothing else changes.
theorem Request.exists_set? (free : done.value? setting = none)
    (chosen : target.value? setting = some value) (filled : value ≠ "") :
    ∃ next, done.set? setting value = some next ∧ next.input = done.input ∧
      next.verbosity = done.verbosity ∧
      ∀ other, next.value? other = if other = setting then some value else done.value? other := by
  cases setting with
  | inputFormat =>
    obtain ⟨format, -, rfl⟩ := Option.map_eq_some_iff.mp chosen
    have named := InputFormat.ofName?_eq_some_iff.mpr (rfl : format.name = format.name)
    exact ⟨_, once_free (Option.map_eq_none_iff.mp free) named _, rfl, rfl,
      fun other => by cases other <;> rfl⟩
  | outputFormat =>
    obtain ⟨format, -, rfl⟩ := Option.map_eq_some_iff.mp chosen
    have named := OutputFormat.ofName?_eq_some_iff.mpr (rfl : format.name = format.name)
    exact ⟨_, once_free (Option.map_eq_none_iff.mp free) named _, rfl, rfl,
      fun other => by cases other <;> rfl⟩
  | scheme =>
    obtain ⟨scheme, -, rfl⟩ := Option.map_eq_some_iff.mp chosen
    have named := Graph.Scheme.ofName?_eq_some_iff.mpr (rfl : scheme.name = scheme.name)
    exact ⟨_, once_free (Option.map_eq_none_iff.mp free) named _, rfl, rfl,
      fun other => by cases other <;> rfl⟩
  | output =>
    exact ⟨_, once_free free (location?_filled filled) _, rfl, rfl,
      fun other => by cases other <;> rfl⟩
  | config =>
    exact ⟨_, once_free free (location?_filled filled) _, rfl, rfl,
      fun other => by cases other <;> rfl⟩

theorem Sayable.cons (sayable : Sayable value) : ∃ c rest, value.toList = c :: rest ∧ c ≠ '=' := by
  rcases sayable with rfl | ⟨c, rest, same, -, noEquals⟩
  · exact ⟨'-', [], rfl, by decide⟩
  · exact ⟨c, rest, same, noEquals⟩

theorem Sayable.filled (sayable : Sayable value) : value ≠ "" := by
  rintro rfl
  obtain ⟨c, rest, same, -⟩ := sayable.cons
  cases same

theorem Sayable.shape (sayable : Sayable value) : shape value = .plain := by
  rcases sayable with rfl | ⟨c, rest, same, noDash, -⟩
  · rfl
  · simp [Command.shape, same, noDash]

theorem shape_of_name {argument : String} {behind : List Char}
    (text : argument.toList = '-' :: '-' :: (name ++ behind)) (filled : name ≠ [])
    (free : name.all (· != '=') = true) (ends : ∀ c ∈ behind.head?, (c != '=') = false) :
    shape argument = .long (String.ofList name) (behind.tail?.map String.ofList) := by
  have inside := List.all_eq_true.mp free
  have taken := Settings.Toml.takeWhile_run inside ends
  have left := Settings.Toml.dropWhile_run inside ends
  obtain ⟨c, more, rfl⟩ := List.exists_cons_of_ne_nil filled
  rw [shape, text]
  simp only [List.cons_append] at taken left ⊢
  rw [taken, left]
  cases behind <;> rfl

theorem Setting.name_plain (setting : Setting) :
    setting.name.toList ≠ [] ∧ setting.name.toList.all (· != '=') = true := by
  cases setting <;> exact ⟨nofun, rfl⟩

theorem shape_long (setting : Setting) : shape ("--" ++ setting.name) = .long setting.name none := by
  obtain ⟨filled, free⟩ := setting.name_plain
  have text : ("--" ++ setting.name).toList = '-' :: '-' :: (setting.name.toList ++ []) := by
    rw [String.toList_append, List.append_nil]
    rfl
  rw [shape_of_name text filled free nofun, String.ofList_toList]
  rfl

theorem shape_longEquals (setting : Setting) (value : String) :
    shape ("--" ++ setting.name ++ "=" ++ value) = .long setting.name (some value) := by
  obtain ⟨filled, free⟩ := setting.name_plain
  have text : ("--" ++ setting.name ++ "=" ++ value).toList =
      '-' :: '-' :: (setting.name.toList ++ '=' :: value.toList) := by
    simp only [String.toList_append, List.append_assoc]
    rfl
  have ends : ∀ c ∈ ('=' :: value.toList).head?, (c != '=') = false := by
    rintro c ⟨⟩
    rfl
  rw [shape_of_name text filled free ends, String.ofList_toList, List.tail?_cons, Option.map_some,
    String.ofList_toList]

theorem Setting.of_letter (own : setting.letter? = some letter) :
    letter ≠ '-' ∧ Switch.ofLetter? letter = none ∧ Setting.ofLetter? letter = some setting := by
  cases setting <;> cases own <;> decide

theorem Setting.of_name (setting : Setting) :
    Switch.ofName? setting.name = none ∧ Setting.ofName? setting.name = some setting := by
  cases setting <;> exact ⟨rfl, rfl⟩

theorem shape_cluster (noDash : letter ≠ '-') (more : List Char) :
    shape (String.ofList ('-' :: letter :: more)) = .cluster (letter :: more) := by
  rw [shape, String.toList_ofList]
  simp [noDash]

theorem shape_raise (count : Nat) (letters : List Char) :
    shape (dashed (count + 1) letters) = .cluster (List.replicate (count + 1) 'd' ++ letters) :=
  shape_cluster (by decide) (List.replicate count 'd' ++ letters)

theorem shape_letter (own : setting.letter? = some letter) (count : Nat) (more : List Char) :
    shape (dashed count (letter :: more)) =
      .cluster (List.replicate count 'd' ++ letter :: more) := by
  cases count with
  | zero => exact shape_cluster (Setting.of_letter own).1 more
  | succ count => exact shape_raise count (letter :: more)

theorem readCluster_replicate (done : Request) (count : Nat) (letters : List Char) :
    readCluster done (List.replicate count 'd' ++ letters) =
      readCluster (done.raised count) letters := by
  induction count generalizing done with
  | zero => rfl
  | succ count ih =>
    have debug : Switch.ofLetter? 'd' = some .debug := rfl
    rw [List.replicate_succ, List.cons_append, readCluster, debug]
    simp only [ih, Request.raised, Nat.add_assoc, Nat.add_comm 1 count]

-- Behind its letter a setting waits for the next argument, or takes what stands there.
theorem readCluster_letter (own : setting.letter? = some letter) :
    readCluster done [letter] = .pending done setting := by
  obtain ⟨-, noSwitch, known⟩ := Setting.of_letter own
  simp [readCluster, noSwitch, known]

theorem readCluster_value (own : setting.letter? = some letter) (sayable : Sayable value)
    (set : done.set? setting value = some next)
    (behind : letters = '=' :: value.toList ∨ letters = value.toList) :
    readCluster done (letter :: letters) = .done next := by
  obtain ⟨-, noSwitch, known⟩ := Setting.of_letter own
  rcases behind with rfl | rfl
  · simp [readCluster, noSwitch, known, set]
  · obtain ⟨c, more, text, noEquals⟩ := sayable.cons
    have whole : String.ofList (c :: more) = value := by rw [← text, String.ofList_toList]
    rw [text]
    simp [readCluster, noSwitch, known, noEquals, whole, set]

theorem readArguments_cluster {argument : String} (shaped : shape argument = .cluster letters)
    (read : readCluster done letters = .done next) (rest : List String) :
    readArguments done (argument :: rest) = readArguments next rest := by
  rw [readArguments, shaped]
  simp only [read]

-- A setting is read in whatever way it is written.
theorem Clause.read (clause : Clause setting value count words) (sayable : Sayable value)
    (set : (done.raised count).set? setting value = some next) (rest : List String) :
    readArguments done (words ++ rest) = readArguments next rest := by
  have isValue : isValue value = true := by rw [Command.isValue, sayable.shape]
  obtain ⟨noSwitch, named⟩ := setting.of_name
  cases clause with
  | long =>
    have set : done.set? setting value = some next := set
    rw [List.cons_append, readArguments, shape_long]
    simp [noSwitch, named, isValue, set]
  | longEquals =>
    have set : done.set? setting value = some next := set
    rw [List.singleton_append, readArguments, shape_longEquals]
    simp [noSwitch, named, set]
  | short _ own =>
    rw [List.cons_append, readArguments, shape_letter own]
    simp [readCluster_replicate, readCluster_letter own, isValue, set]
  | shortEquals _ own =>
    refine readArguments_cluster (shape_letter own _ _) ?_ rest
    rw [readCluster_replicate, readCluster_value own sayable set (.inl rfl)]
  | joined _ own =>
    refine readArguments_cluster (shape_letter own _ _) ?_ rest
    rw [readCluster_replicate, readCluster_value own sayable set (.inr rfl)]

theorem Request.place?_eq (sayable : Sayable location) (free : done.input = none) :
    done.place? location = some { done with input := some location } :=
  once_free free (location?_filled sayable.filled) _

theorem readArguments_location (sayable : Sayable location) (free : done.input = none)
    (rest : List String) :
    readArguments done (location :: rest) =
      readArguments { done with input := some location } rest := by
  rw [readArguments, sayable.shape]
  simp only [Request.place?_eq sayable free]

theorem readArguments_divider (sayable : Sayable location) (free : done.input = none) :
    readArguments done ["--", location] = .run { done with input := some location } := by
  have plain : readArguments done ["--", location] = readPlain done [location] := rfl
  rw [plain]
  simp only [readPlain, Request.place?_eq sayable free]

theorem readArguments_debug (done : Request) (rest : List String) :
    readArguments done ("--debug" :: rest) = readArguments (done.raised 1) rest :=
  rfl

theorem readArguments_raise (done : Request) (count : Nat) (rest : List String) :
    readArguments done (dashed (count + 1) [] :: rest) =
      readArguments (done.raised (count + 1)) rest :=
  readArguments_cluster (shape_raise count []) (readCluster_replicate done (count + 1) []) rest

-- What is still to come of a request when part of its command line has been read: every setting is
-- either among the pairs ahead, and free, or has been given its value.
structure Remains (target : Request) (level : Nat) (pairs : List (Setting × String))
    (input : Option String) (done : Request) : Prop where
  verbosity : done.verbosity + level = target.verbosity
  place : done.input.or input = target.input
  vacant : input ≠ none → done.input = none
  once : (pairs.map Prod.fst).Nodup
  chosen : ∀ pair ∈ pairs, target.value? pair.1 = some pair.2
  given : ∀ setting, done.value? setting =
    if setting ∈ pairs.map Prod.fst then none else target.value? setting

theorem Remains.finished (remains : Remains target 0 [] none done) : done = target := by
  refine Request.eq_of_values (fun setting => ?_) ?_ remains.verbosity
  · simpa using remains.given setting
  · simpa using remains.place

theorem Remains.raise (remains : Remains target (count + level) pairs input done) :
    Remains target level pairs input (done.raised count) where
  verbosity := (Nat.add_assoc ..).trans remains.verbosity
  place := remains.place
  vacant := remains.vacant
  once := remains.once
  chosen := remains.chosen
  given setting := by
    rw [← remains.given setting]
    cases setting <;> rfl

theorem Remains.placed (remains : Remains target level pairs (some location) done) :
    Remains target level pairs none { done with input := some location } where
  verbosity := remains.verbosity
  place := by
    rw [← remains.place, remains.vacant (by simp)]
    rfl
  vacant := nofun
  once := remains.once
  chosen := remains.chosen
  given setting := by
    rw [← remains.given setting]
    cases setting <;> rfl

theorem Remains.exists_set? (remains : Remains target level ((setting, value) :: pairs) input done)
    (filled : value ≠ "") :
    ∃ next, done.set? setting value = some next ∧ Remains target level pairs input next := by
  have chosen := remains.chosen (setting, value) List.mem_cons_self
  obtain ⟨new, once⟩ := List.nodup_cons.mp remains.once
  have free : done.value? setting = none := by
    rw [remains.given setting, List.map_cons, if_pos List.mem_cons_self]
  obtain ⟨next, set, input, verbosity, values⟩ := Request.exists_set? free chosen filled
  refine ⟨next, set, ?_, ?_, ?_, once, ?_, ?_⟩
  · rw [verbosity, remains.verbosity]
  · rw [input, remains.place]
  · rw [input]
    exact remains.vacant
  · intro pair member
    exact remains.chosen pair (List.mem_cons_of_mem _ member)
  · intro other
    rw [values other, remains.given other]
    by_cases same : other = setting
    · rw [if_pos same, if_neg (same ▸ new), same, chosen]
    · simp only [same, if_false, List.map_cons, List.mem_cons, false_or]

-- The induction is on the command line; each of its parts takes the request one step on.
theorem Line.read (line : Line level pairs input arguments)
    (remains : Remains target level pairs input done) :
    readArguments done arguments = .run target := by
  induction line generalizing done with
  | nothing => exact congrArg Answer.run remains.finished
  | divided sayable =>
    rw [readArguments_divider sayable (remains.vacant (by simp)), remains.placed.finished]
  | input sayable _ ih =>
    rw [readArguments_location sayable (remains.vacant (by simp)), ih remains.placed]
  | debug _ ih =>
    rw [readArguments_debug, ih remains.raise]
  | cluster count _ ih =>
    rw [readArguments_raise, ih remains.raise]
  | setting clause sayable _ ih =>
    obtain ⟨next, set, further⟩ := remains.raise.exists_set? sayable.filled
    rw [clause.read sayable set, ih further]

theorem Request.value?_empty (setting : Setting) : Request.empty.value? setting = none := by
  cases setting <;> rfl

theorem Spells.answer_eq (spells : Spells target arguments) : answer arguments = .run target := by
  obtain @⟨pairs, line, once, chosen⟩ := spells
  have ahead : ∀ setting, setting ∉ pairs.map Prod.fst → target.value? setting = none := by
    intro setting absent
    rw [Option.eq_none_iff_forall_ne_some]
    intro value given
    exact absent (List.mem_map_of_mem ((chosen setting value).mpr given))
  refine line.read ⟨Nat.zero_add _, rfl, fun _ => rfl, once, fun pair => (chosen pair.1 pair.2).mp, ?_⟩
  intro setting
  rw [Request.value?_empty]
  split
  · rfl
  · rw [ahead setting ‹_›]

-- Two command lines that spell one request, however verbose each asks to be, are one and the same
-- program, whatever the system around it is: no argument is refused, and all that is read and written,
-- the exit code and the complaint are the same.
theorem spelling_irrelevant {request : Request} {first second : List String} {level other : Nat}
    (spelled : Spells { request with verbosity := level } first)
    (respelled : Spells { request with verbosity := other } second) :
    answer first = .run { request with verbosity := level } ∧
      ∀ (m : Type → Type) [Monad m] (host : Host m), carryOut host first = carryOut host second := by
  refine ⟨spelled.answer_eq, fun m _ host => ?_⟩
  rw [carryOut, carryOut, spelled.answer_eq, respelled.answer_eq]
  rfl

-- A cluster with its value joined to it, and the same without the letters that raise the verbosity.
theorem spelling_irrelevant_cluster :
    answer ["-ddftext", "t.rs", "--output=o"] =
        .run ⟨some "t.rs", some "o", none, ⟨none, some .text, none⟩, 2⟩ ∧
      carryOut World.host ["-ddftext", "t.rs", "--output=o"] =
        carryOut World.host ["--output", "o", "-f", "text", "--", "t.rs"] := by
  let request : Request := ⟨some "t.rs", some "o", none, ⟨none, some .text, none⟩, 0⟩
  have location : Sayable "t.rs" := .inr ⟨'t', ".rs".toList, rfl, by decide, by decide⟩
  have output : Sayable "o" := .inr ⟨'o', [], rfl, by decide, by decide⟩
  have format : Sayable "text" := .inr ⟨'t', "ext".toList, rfl, by decide, by decide⟩
  have spelled : Spells { request with verbosity := 2 } ["-ddftext", "t.rs", "--output=o"] := by
    refine @Spells.mk _ _ [(.outputFormat, "text"), (.output, "o")] ?_ (by decide) ?_
    · exact .setting (.joined 2 (rfl : Setting.letter? .outputFormat = some 'f')) format <|
        .input location (.setting .longEquals output .nothing)
    · intro setting value
      cases setting <;> simp [request, Request.value?, OutputFormat.name, eq_comm]
  have respelled : Spells { request with verbosity := 0 }
      ["--output", "o", "-f", "text", "--", "t.rs"] := by
    refine @Spells.mk _ _ [(.output, "o"), (.outputFormat, "text")] ?_ (by decide) ?_
    · exact .setting .long output <|
        .setting (.short 0 (rfl : Setting.letter? .outputFormat = some 'f')) format (.divided location)
    · intro setting value
      cases setting <;> simp [request, Request.value?, OutputFormat.name, eq_comm]
  obtain ⟨asked, same⟩ := spelling_irrelevant spelled respelled
  exact ⟨asked, same (StateM World) World.host⟩

end Arbor.Command
