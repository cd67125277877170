import CallScript.CommandLine
import CallScript.Proofs.BuildStages
import CallScript.Proofs.LongestPrefix

/-!
# The name of a file in place of a command

A file name that stands where a command is expected asks for the file to be run. General options
before it are read as before the command `run`; whatever stands behind it is not read at all.

* `CommandLine.ReadsOptions.options`: well-formed options are read wherever they stand.
* `CommandLine.ofArguments_file`, `CommandLine.ofArguments_options_run`,
  `CommandLine.ofArguments_run_options`: what is asked for.
* `CommandLine.runRequest_eq_iff`: which options make no difference.
* `CommandLine.run_file`: what running the command line with the name of a file shows.
-/

namespace CallScript.CommandLine

/-! ## General options -/

inductive Setting where
  | target (value : Target)
  | toolchain (program : String)
  | scratch (directory : String)

namespace Setting

def name : Setting → String
  | .target _ => "target"
  | .toolchain _ => "toolchain"
  | .scratch _ => "scratch-dir"

def slot : Setting → Slot
  | .target _ => .target
  | .toolchain _ => .toolchain
  | .scratch _ => .scratch

def value : Setting → String
  | .target value => value.name
  | .toolchain program => program
  | .scratch directory => directory

end Setting

/-- A general option. Its value stands behind an equals sign or in an argument of its own. -/
inductive GeneralOption where
  | valued (setting : Setting) (attached : Bool)
  | verbose

namespace GeneralOption

def name : GeneralOption → String
  | .valued setting _ => setting.name
  | .verbose => "verbose"

def args : GeneralOption → List String
  | .valued setting true => ["--" ++ setting.name ++ "=" ++ setting.value]
  | .valued setting false => ["--" ++ setting.name, setting.value]
  | .verbose => ["--verbose"]

/-- The value is none that is refused, and as an argument of its own it does not look like an
option. -/
def IsWellFormed : GeneralOption → Prop
  | .valued setting attached =>
      setting.value ≠ "" ∧ (attached = false → shape setting.value = .plain)
  | .verbose => True

def put (level : Level) : GeneralOption → Level
  | .valued (.target value) _ => { level with target? := some value }
  | .valued (.toolchain program) _ => { level with toolchain? := some program }
  | .valued (.scratch directory) _ => { level with scratch? := some directory }
  | .verbose => { level with verbose := true }

def IsFree (level : Level) : GeneralOption → Prop
  | .valued (.target _) _ => level.target? = none
  | .valued (.toolchain _) _ => level.toolchain? = none
  | .valued (.scratch _) _ => level.scratch? = none
  | .verbose => level.verbose = false

variable {level : Level} {option other : GeneralOption}

theorem IsFree.put (free : option.IsFree level) (differ : option.name ≠ other.name) :
    option.IsFree (other.put level) := by
  rcases option with ⟨⟨_⟩ | ⟨_⟩ | ⟨_⟩, _⟩ | _ <;> rcases other with ⟨⟨_⟩ | ⟨_⟩ | ⟨_⟩, _⟩ | _ <;>
    first | exact free | exact absurd rfl differ

theorem store_setting {setting : Setting} {attached : Bool}
    (free : (valued setting attached).IsFree level) (some_value : setting.value ≠ "") :
    level.store setting.slot setting.value = .ok ((valued setting attached).put level) := by
  obtain ⟨target?, toolchain?, scratch?, output?, file?, verbose⟩ := level
  cases setting with
  | target value =>
      obtain rfl : target? = none := free
      cases value <;> rfl
  | toolchain program =>
      obtain rfl : toolchain? = none := free
      have fills : Level.fill none program = .ok (some program) := by
        simpa [Level.fill, Setting.value] using some_value
      simp [Level.store, Setting.slot, Setting.value, fills]
      rfl
  | scratch directory =>
      obtain rfl : scratch? = none := free
      have fills : Level.fill none directory = .ok (some directory) := by
        simpa [Level.fill, Setting.value] using some_value
      simp [Level.store, Setting.slot, Setting.value, fills]
      rfl

end GeneralOption

def valuesOf (options : List GeneralOption) : Level :=
  options.foldl GeneralOption.put .empty

/-- Options that can be read one after the other: each is well formed, and none is repeated. -/
structure Readable (options : List GeneralOption) : Prop where
  wellFormed : ∀ option ∈ options, option.IsWellFormed
  nodup : (options.map GeneralOption.name).Nodup

/-! ## Reading options -/

namespace Progress

/-- The values read so far can be looked at, and no value is missing. -/
structure Holds (progress : Progress) (level : Level) : Prop where
  settles : progress.settle = .ok level
  complete : progress.awaited? = none

variable {progress : Progress} {level next : Level} {slot : Slot} {value : String}

theorem Holds.start : Holds .start .empty := ⟨rfl, rfl⟩

theorem Holds.ofLevel (level : Level) : Holds ⟨level, none⟩ level := ⟨rfl, rfl⟩

theorem Holds.ofPending (stores : level.store slot value = .ok next) :
    Holds ⟨level, some ⟨slot, some value⟩⟩ next := ⟨stores, rfl⟩

end Progress

theorem shape_name (setting : Setting) :
    shape ("--" ++ setting.name) = .long setting.name none := by
  cases setting <;> dsimp only [Setting.name] <;> decide

theorem shape_attached (setting : Setting) (value : String) :
    shape ("--" ++ setting.name ++ "=" ++ value) = .long setting.name (some value) := by
  have nameHasNone : setting.name.toList.all (· ≠ '=') = true := by
    cases setting <;> dsimp only [Setting.name] <;> decide
  have noSign : ∀ c ∈ setting.name.toList, decide (c ≠ '=') = true :=
    List.all_eq_true.mp nameHasNone
  have signNext : ∀ next ∈ ('=' :: value.toList).head?, decide (next ≠ '=') = false := by simp
  have taken := (longest_span noSign signNext).1
  have letters : ("--" ++ setting.name ++ "=" ++ value).toList =
      '-' :: '-' :: (setting.name.toList ++ '=' :: value.toList) := by
    simp [String.toList_append]
  rw [shape, letters]
  split
  · next same => simp at same
  · next text _ same =>
      obtain rfl : _ = text := by simpa using same
      simp only [taken, List.drop_left, String.ofList_toList]
  · next same => simp at same
  · next others _ same =>
      cases same
      exact absurd rfl (others _)
  · next others => exact (others _ rfl).elim

/-- A reader that meets options as they are met at a place. -/
structure ReadsOptions {α : Type} (place : Place)
    (read : Progress → List String → Except Refusal α) : Prop where
  long : ∀ {arg name : String} {attached? : Option String}, shape arg = .long name attached? →
    ∀ progress args,
      read progress (arg :: args) = place.meetLong progress name attached? >>= (read · args)
  value : ∀ {arg : String} {progress : Progress} {slot : Slot}, shape arg = .plain →
    progress.awaited? = some slot →
    ∀ args, read progress (arg :: args) = read ⟨progress.level, some ⟨slot, some arg⟩⟩ args

theorem readsOptions_front : ReadsOptions .front readFront where
  long isLong progress args := by rw [readFront, isLong]
  value isPlain awaited args := by rw [readFront, isPlain, awaited]

theorem readsOptions_behind (command : CommandName) (taken : Bool) :
    ReadsOptions (.behind command) (readBehind command · taken false) where
  long isLong progress args := by rw [readBehind, isLong]
  value isPlain awaited args := by rw [readBehind, isPlain, awaited]

section

variable {α : Type} {place : Place} {read : Progress → List String → Except Refusal α}
  {progress : Progress} {level : Level}

theorem meetLong_setting (place : Place) (progress : Progress) (setting : Setting)
    (attached? : Option String) :
    place.meetLong progress setting.name attached? =
      progress.meetOption setting.slot attached? := by
  cases setting <;> rfl

theorem meetLong_verbose (place : Place) (holds : progress.Holds level)
    (free : level.verbose = false) :
    place.meetLong progress "verbose" none = .ok ⟨{ level with verbose := true }, none⟩ := by
  have meets : place.meetLong progress "verbose" none = progress.meetVerbose := rfl
  rw [meets, Progress.meetVerbose, holds.settles]
  dsimp only [bind, Except.bind]
  rw [free]
  rfl

theorem ReadsOptions.option (reads : ReadsOptions place read) (holds : progress.Holds level)
    {option : GeneralOption} (wellFormed : option.IsWellFormed) (free : option.IsFree level)
    (rest : List String) :
    ∃ next, Progress.Holds next (option.put level) ∧
      read progress (option.args ++ rest) = read next rest := by
  cases option with
  | verbose =>
      refine ⟨⟨{ level with verbose := true }, none⟩, .ofLevel _, ?_⟩
      have isLong : shape "--verbose" = .long "verbose" none := by decide
      rw [GeneralOption.args, List.singleton_append, reads.long isLong,
        meetLong_verbose place holds free]
      rfl
  | valued setting attached =>
      obtain ⟨some_value, plain⟩ := wellFormed
      have stores := GeneralOption.store_setting free some_value
      cases attached with
      | true =>
          refine ⟨⟨(GeneralOption.valued setting true).put level, none⟩, .ofLevel _, ?_⟩
          rw [GeneralOption.args, List.singleton_append,
            reads.long (shape_attached setting setting.value), meetLong_setting,
            Progress.meetOption, holds.settles]
          dsimp only [bind, Except.bind]
          rw [stores]
          rfl
      -- a value that is an argument of its own is looked at with the next argument only
      | false =>
          refine ⟨⟨level, some ⟨setting.slot, some setting.value⟩⟩, .ofPending stores, ?_⟩
          rw [GeneralOption.args, List.cons_append, List.singleton_append,
            reads.long (shape_name setting), meetLong_setting, Progress.meetOption, holds.settles]
          exact reads.value (plain rfl) rfl rest

theorem ReadsOptions.options (reads : ReadsOptions place read) {options : List GeneralOption}
    (readable : Readable options) (holds : progress.Holds level)
    (free : ∀ option ∈ options, option.IsFree level) (rest : List String) :
    ∃ next, Progress.Holds next (options.foldl GeneralOption.put level) ∧
      read progress (options.flatMap GeneralOption.args ++ rest) = read next rest := by
  induction options generalizing progress level with
  | nil => exact ⟨progress, holds, rfl⟩
  | cons option options ih =>
      obtain ⟨single, nodup⟩ := List.nodup_cons.mp readable.nodup
      obtain ⟨middle, holdsOption, readOption⟩ := reads.option holds
        (readable.wellFormed option (by simp)) (free option (by simp))
        (options.flatMap GeneralOption.args ++ rest)
      have others : Readable options :=
        ⟨fun other member => readable.wellFormed other (List.mem_cons_of_mem option member), nodup⟩
      obtain ⟨next, holdsAll, readAll⟩ := ih others holdsOption fun other member =>
        (free other (List.mem_cons_of_mem option member)).put fun same =>
          single (same ▸ List.mem_map_of_mem member)
      refine ⟨next, holdsAll, ?_⟩
      rw [List.flatMap_cons, List.append_assoc, readOption, readAll]

end

/-! ## Reading the name of a file -/

section

variable {file : String} {progress : Progress} {level : Level}

theorem shape_plain (noOption : file.toList.head? ≠ some '-') : shape file = .plain := by
  rw [shape]
  split <;> simp_all

theorem ofText?_of_extension {extension : String} (named : Path.extension? file = some extension) :
    CommandName.ofText? file = none := by
  by_contra command
  obtain ⟨name, found⟩ := Option.ne_none_iff_exists'.mp command
  have same := List.find?_some found
  rw [beq_iff_eq] at same
  subst same
  cases name <;> exact absurd named (by decide +revert)

theorem readFront_file (holds : progress.Holds level) {extension : String}
    (named : Path.extension? file = some extension) (noOption : file.toList.head? ≠ some '-')
    (behind : List String) :
    readFront progress (file :: behind) = .ok (combine level .empty (.external file)) := by
  have noHelp : file ≠ "help" := by
    rintro rfl
    exact absurd named (by decide +revert)
  rw [readFront, shape_plain noOption, holds.complete]
  dsimp only
  rw [ofText?_of_extension named]
  dsimp only
  rw [if_neg noHelp, holds.settles]
  rfl

theorem readFront_run (holds : progress.Holds level) (args : List String) :
    readFront progress ("run" :: args) = (do
      let behind ← readBehind .run .start false false args
      let action ← actionOf .run behind
      .ok (combine level behind action)) := by
  have isPlain : shape "run" = .plain := by decide
  have isCommand : CommandName.ofText? "run" = some .run := by decide
  rw [readFront, isPlain, holds.complete]
  dsimp only
  rw [isCommand]
  dsimp only
  rw [holds.settles]
  rfl

theorem store_file {extension : String} (named : Path.extension? file = some extension) :
    Level.empty.store .file file = .ok { Level.empty with file? := some file } := by
  have some_file : file ≠ "" := by
    rintro rfl
    exact absurd named (by decide +revert)
  have fills : Level.fill none file = .ok (some file) := by simpa [Level.fill] using some_file
  simp only [Level.store, Level.empty, fills]
  rfl

theorem readBehind_run_file (noOption : file.toList.head? ≠ some '-') (args : List String) :
    readBehind .run .start false false (file :: args) =
      readBehind .run ⟨.empty, some ⟨.file, some file⟩⟩ true false args := by
  rw [readBehind, shape_plain noOption]
  rfl

end

/-! ## Requests for a file to be run -/

namespace GeneralOption

theorem isFree_empty (option : GeneralOption) : option.IsFree .empty := by
  rcases option with ⟨⟨_⟩ | ⟨_⟩ | ⟨_⟩, _⟩ | _ <;> rfl

theorem IsFree.withFile {level : Level} {option : GeneralOption} (free : option.IsFree level)
    (file : String) : option.IsFree { level with file? := some file } := by
  rcases option with ⟨⟨_⟩ | ⟨_⟩ | ⟨_⟩, _⟩ | _ <;> exact free

theorem put_withFile (level : Level) (option : GeneralOption) (file : String) :
    option.put { level with file? := some file } =
      { option.put level with file? := some file } := by
  rcases option with ⟨⟨_⟩ | ⟨_⟩ | ⟨_⟩, _⟩ | _ <;> rfl

end GeneralOption

theorem foldl_put_withFile (options : List GeneralOption) (level : Level) (file : String) :
    options.foldl GeneralOption.put { level with file? := some file } =
      { options.foldl GeneralOption.put level with file? := some file } := by
  induction options generalizing level with
  | nil => rfl
  | cons option options ih => rw [List.foldl_cons, GeneralOption.put_withFile, ih, List.foldl_cons]

/-- The values ask for what is done without them. -/
structure Level.IsDefault (level : Level) : Prop where
  target : level.target?.getD default = default
  toolchain : level.toolchain? = none
  scratch : level.scratch? = none
  verbose : level.verbose = false

namespace GeneralOption

def IsGiven (level : Level) : GeneralOption → Prop
  | .valued (.target value) _ => level.target? = some value
  | .valued (.toolchain program) _ => level.toolchain? = some program
  | .valued (.scratch directory) _ => level.scratch? = some directory
  | .verbose => level.verbose = true

/-- The option asks for what is done without it. -/
def IsDefault : GeneralOption → Prop
  | .valued (.target value) _ => value = default
  | .valued (.toolchain _) _ | .valued (.scratch _) _ | .verbose => False

theorem isGiven_put (level : Level) (option : GeneralOption) :
    option.IsGiven (option.put level) := by
  rcases option with ⟨⟨_⟩ | ⟨_⟩ | ⟨_⟩, _⟩ | _ <;> rfl

theorem IsGiven.put {level : Level} {option other : GeneralOption} (given : option.IsGiven level)
    (differ : option.name ≠ other.name) : option.IsGiven (other.put level) := by
  rcases option with ⟨⟨_⟩ | ⟨_⟩ | ⟨_⟩, _⟩ | _ <;> rcases other with ⟨⟨_⟩ | ⟨_⟩ | ⟨_⟩, _⟩ | _ <;>
    first | exact given | exact absurd rfl differ

theorem IsGiven.foldl {level : Level} {option : GeneralOption} {options : List GeneralOption}
    (given : option.IsGiven level) (differ : ∀ other ∈ options, option.name ≠ other.name) :
    option.IsGiven (options.foldl GeneralOption.put level) := by
  induction options generalizing level with
  | nil => exact given
  | cons other options ih =>
      rw [List.forall_mem_cons] at differ
      exact ih (given.put differ.1) differ.2

theorem IsGiven.isDefault {level : Level} {option : GeneralOption} (given : option.IsGiven level)
    (values : level.IsDefault) : option.IsDefault := by
  rcases option with ⟨⟨value⟩ | ⟨program⟩ | ⟨directory⟩, _⟩ | _
  · exact (congrArg (Option.getD · default) given).symm.trans values.target
  · exact nomatch values.toolchain.symm.trans given
  · exact nomatch values.scratch.symm.trans given
  · exact nomatch values.verbose.symm.trans given

theorem IsDefault.put {level : Level} {option : GeneralOption} (isDefault : option.IsDefault)
    (values : level.IsDefault) : (option.put level).IsDefault := by
  rcases option with ⟨⟨value⟩ | ⟨_⟩ | ⟨_⟩, _⟩ | _
  · exact ⟨isDefault, values.toolchain, values.scratch, values.verbose⟩
  all_goals exact isDefault.elim

end GeneralOption

theorem Readable.isGiven {options : List GeneralOption} (readable : Readable options)
    {option : GeneralOption} (member : option ∈ options) : option.IsGiven (valuesOf options) := by
  obtain ⟨before, behind, rfl⟩ := List.append_of_mem member
  have nodup := readable.nodup
  rw [List.map_append, List.map_cons, List.nodup_append, List.nodup_cons] at nodup
  rw [valuesOf, List.foldl_append, List.foldl_cons]
  refine (GeneralOption.isGiven_put _ option).foldl fun other inBehind same => ?_
  exact nodup.2.1.1 (same ▸ List.mem_map_of_mem inBehind)

def runRequest (file : String) (options : List GeneralOption) : Request :=
  combine (valuesOf options) .empty (.run file)

section

variable {file extension : String} {options : List GeneralOption}

theorem runRequest_eq_iff_isDefault :
    runRequest file options = runRequest file [] ↔ (valuesOf options).IsDefault := by
  simp only [runRequest, combine, valuesOf, List.foldl_nil, Level.empty, Request.mk.injEq,
    Options.mk.injEq, Option.none_or, Option.getD_none, Bool.or_false, true_and]
  exact ⟨fun ⟨⟨target, toolchain, scratch⟩, verbose⟩ => ⟨target, toolchain, scratch, verbose⟩,
    fun values => ⟨⟨values.target, values.toolchain, values.scratch⟩, values.verbose⟩⟩

/-- Options make a difference unless each asks for what is done without it. -/
theorem runRequest_eq_iff (readable : Readable options) :
    runRequest file options = runRequest file [] ↔ ∀ option ∈ options, option.IsDefault := by
  rw [runRequest_eq_iff_isDefault]
  refine ⟨fun values option member => ?_, fun defaults => ?_⟩
  · exact (readable.isGiven member).isDefault values
  · have start : Level.empty.IsDefault := ⟨rfl, rfl, rfl, rfl⟩
    exact List.foldlRecOn options GeneralOption.put start fun level values option member =>
      (defaults option member).put values

theorem ofArguments_file (named : Path.extension? file = some extension)
    (noOption : file.toList.head? ≠ some '-') (readable : Readable options)
    (behind : List String) :
    Request.ofArguments (options.flatMap GeneralOption.args ++ file :: behind) =
      .ok { runRequest file options with action := .external file } := by
  obtain ⟨next, holds, read⟩ := readsOptions_front.options readable .start
    (fun option _ => option.isFree_empty) (file :: behind)
  rw [Request.ofArguments, read, readFront_file holds named noOption]
  rfl

theorem ofArguments_options_run (named : Path.extension? file = some extension)
    (noOption : file.toList.head? ≠ some '-') (readable : Readable options) :
    Request.ofArguments (options.flatMap GeneralOption.args ++ ["run", file]) =
      .ok (runRequest file options) := by
  obtain ⟨next, holds, read⟩ := readsOptions_front.options readable .start
    (fun option _ => option.isFree_empty) ["run", file]
  rw [Request.ofArguments, read, readFront_run holds, readBehind_run_file noOption, readBehind,
    (Progress.Holds.ofPending (store_file named)).settles]
  rfl

theorem ofArguments_run_options (named : Path.extension? file = some extension)
    (noOption : file.toList.head? ≠ some '-') (readable : Readable options) :
    Request.ofArguments ("run" :: file :: options.flatMap GeneralOption.args) =
      .ok (runRequest file options) := by
  obtain ⟨next, holds, read⟩ := (readsOptions_behind .run true).options readable
    (.ofPending (store_file named)) (fun option _ => option.isFree_empty.withFile file) []
  rw [List.append_nil] at read
  rw [Request.ofArguments, readFront_run .start, readBehind_run_file noOption, read, readBehind,
    holds.settles, foldl_put_withFile]
  simp only [runRequest, valuesOf, combine, actionOf, bind, Except.bind, Level.empty,
    Option.or_none, Option.none_or, Bool.false_or, Bool.or_false]

end

/-! ## What running the command line shows -/

theorem execute_external (terminal : Terminal) {file : String}
    (named : Path.extension? file = some "mob") (request : Request) :
    execute terminal { request with action := .external file } =
      execute terminal { request with action := .run file } := by
  have performs : perform terminal { request with action := .external file } =
      perform terminal { request with action := .run file } := if_pos named
  funext tree
  simp only [execute, performs, filterText]

/-- Options before the name of a file are heeded as before the command. What stands behind the name
is ignored, whereas the command heeds options behind it too. -/
theorem run_file (terminal : Terminal) (tree : FileTree) {file : String}
    {options : List GeneralOption} (named : Path.extension? file = some "mob")
    (noOption : file.toList.head? ≠ some '-') (readable : Readable options) :
    let args := options.flatMap GeneralOption.args
    run terminal (args ++ [file]) tree = run terminal (args ++ ["run", file]) tree ∧
      run terminal ("run" :: file :: args) tree = run terminal (args ++ ["run", file]) tree ∧
      (∀ behind, run terminal (file :: behind) tree = run terminal ["run", file] tree) ∧
      ((∀ option ∈ options, option.IsDefault) →
        run terminal (file :: args) tree = run terminal ("run" :: file :: args) tree) := by
  intro args
  have none_readable : Readable [] := ⟨by simp, by simp⟩
  have behindFile (behind : List String) :
      Request.ofArguments (file :: behind) =
        .ok { runRequest file [] with action := .external file } :=
    ofArguments_file named noOption none_readable behind
  have runAlone : Request.ofArguments ["run", file] = .ok (runRequest file []) :=
    ofArguments_options_run named noOption none_readable
  -- the name of a file ends the options, so that what is behind it is not even read
  have ignores (behind : List String) :
      run terminal (file :: behind) tree = run terminal ["run", file] tree := by
    simp only [run, behindFile, runAlone]
    exact congrFun (execute_external terminal named (runRequest file [])) tree
  refine ⟨?_, ?_, ignores, fun defaults => ?_⟩
  · simp only [run, args, ofArguments_file named noOption readable,
      ofArguments_options_run named noOption readable]
    exact congrFun (execute_external terminal named (runRequest file options)) tree
  · simp only [run, args, ofArguments_run_options named noOption readable,
      ofArguments_options_run named noOption readable]
  · rw [ignores]
    simp only [run, args, runAlone, ofArguments_run_options named noOption readable,
      (runRequest_eq_iff readable).mpr defaults]

namespace Sample

def terminal : Terminal where
  host :=
    { Compiler.Sample.host "mob_run_" with
      launch := fun command _ =>
        if command.program = "go" then .error (.os .noEntry)
        else .ok ⟨Compiler.Sample.built "mob_run_", .success, []⟩ }
  logFilter? := none
  platform := "linux x86_64"

def options : List GeneralOption := [.valued (.target .go) false]

theorem readable : Readable options :=
  ⟨by simp [options, GeneralOption.IsWellFormed, Setting.value]; decide, by simp [options]⟩

end Sample

theorem run_file_sample :
    (Path.extension? "in.mob" = some "mob" ∧ "in.mob".toList.head? ≠ some '-' ∧
      Readable Sample.options) ∧
    run Sample.terminal ["--target", "go", "in.mob"] Compiler.Sample.tree =
      run Sample.terminal ["--target", "go", "run", "in.mob"] Compiler.Sample.tree ∧
    run Sample.terminal ["in.mob", "--target", "go"] Compiler.Sample.tree =
      run Sample.terminal ["run", "in.mob"] Compiler.Sample.tree := by
  have named : Path.extension? "in.mob" = some "mob" := by decide
  have noOption : "in.mob".toList.head? ≠ some '-' := by decide
  obtain ⟨front, _, ignores, _⟩ :=
    run_file Sample.terminal Compiler.Sample.tree named noOption Sample.readable
  exact ⟨⟨named, noOption, Sample.readable⟩, front, ignores ["--target", "go"]⟩

/-- The file is built for Rust although the options behind it ask for Go. -/
theorem not_all_options_heeded :
    ¬∀ (terminal : Terminal) (tree : FileTree) (file : String) (options : List GeneralOption),
      Path.extension? file = some "mob" → file.toList.head? ≠ some '-' → Readable options →
      run terminal (file :: options.flatMap GeneralOption.args) tree =
        run terminal ("run" :: file :: options.flatMap GeneralOption.args) tree := by
  intro same
  have codes := congrArg (·.1.code) (same Sample.terminal Compiler.Sample.tree "in.mob"
    Sample.options (by decide) (by decide) Sample.readable)
  exact absurd codes (by decide +kernel)

end CallScript.CommandLine
