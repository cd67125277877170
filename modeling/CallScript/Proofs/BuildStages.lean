import CallScript.Proofs.TemporaryDirectory

/-!
# Stages of a build

What a job does to a tree, apart from what it logs, and with it the stages of compiling and of
compiling and running: which of them is the first to fail, and what the ones before it have done.

* `Job.Runs.bind`, `Job.Runs.stop`: a job in sequence.
* `Compiler.buildIn_runs`: the stages up to the end of the toolchain.
* `Compiler.perform_runs`: all stages between making a temporary directory and taking it away.
-/

namespace CallScript

/-! ## Jobs apart from what they log -/

def Event.command? : Event → Option Command
  | .started command => some command
  | _ => none

def World.commands (world : World) : List Command := world.events.filterMap Event.command?

namespace Job

def result {α : Type} : Except Failure α → World → EStateM.Result Failure World α
  | .ok value, world => .ok value world
  | .error failure, world => .error failure world

/-- From one tree, whatever has happened before, the job comes to a result, leaves another tree and
has started commands. -/
def Runs {α : Type} (job : Job α) (tree : FileTree) (outcome : Except Failure α) (after : FileTree)
    (commands : List Command) : Prop :=
  ∀ events, ∃ more, job ⟨tree, events⟩ = result outcome ⟨after, events ++ more⟩ ∧
    more.filterMap Event.command? = commands

variable {α β : Type} {job : Job α} {next : α → Job β} {tree middle after : FileTree}
  {outcome : Except Failure β} {commands further : List Command} {value : α} {failure : Failure}

namespace Runs

theorem bind (first : Runs job tree (.ok value) middle commands)
    (second : Runs (next value) middle outcome after further) :
    Runs (job >>= next) tree outcome after (commands ++ further) := by
  intro events
  obtain ⟨more, ran, started⟩ := first events
  obtain ⟨last, ranOn, startedOn⟩ := second (events ++ more)
  refine ⟨more ++ last, ?_, by rw [List.filterMap_append, started, startedOn]⟩
  change EStateM.bind job next _ = _
  rw [EStateM.bind, ran, ← List.append_assoc]
  exact ranOn

theorem bindQuiet (first : Runs job tree (.ok value) middle commands)
    (second : Runs (next value) middle outcome after []) :
    Runs (job >>= next) tree outcome after commands :=
  List.append_nil commands ▸ first.bind second

theorem stop (first : Runs job tree (.error failure) after commands) :
    Runs (job >>= next) tree (.error failure) after commands := by
  intro events
  obtain ⟨more, ran, started⟩ := first events
  refine ⟨more, ?_, started⟩
  change EStateM.bind job next _ = _
  rw [EStateM.bind, ran]
  rfl

theorem pure (tree : FileTree) (value : α) : Runs (Pure.pure value) tree (.ok value) tree [] :=
  fun events => ⟨[], by rw [List.append_nil]; rfl, rfl⟩

theorem throw (tree : FileTree) (failure : Failure) :
    Runs (MonadExcept.throw failure : Job α) tree (.error failure) tree [] :=
  fun events => ⟨[], by rw [List.append_nil]; rfl, rfl⟩

theorem logAll (tree : FileTree) (records : List Log.Record) :
    Runs (Job.logAll records) tree (.ok ()) tree [] :=
  fun events => ⟨records.map .logged, rfl, by simp [Event.command?, Function.comp_def]⟩

theorem log (tree : FileTree) (level : Log.Level) (origin message : String) :
    Runs (Job.log level origin message) tree (.ok ()) tree [] := .logAll tree _

theorem afterLog {level : Log.Level} {origin message : String} {next : Unit → Job β}
    (second : Runs (next ()) tree outcome after commands) :
    Runs (Job.log level origin message >>= next) tree outcome after commands :=
  (Runs.log tree level origin message).bind second

theorem query_ok {cause : IoError → Failure} {operation : FileTree → Except IoError α}
    (answered : operation tree = .ok value) :
    Runs (Job.query cause operation) tree (.ok value) tree [] :=
  fun events => ⟨[], by rw [Job.query, answered, List.append_nil]; rfl, rfl⟩

theorem query_error {cause : IoError → Failure} {operation : FileTree → Except IoError α}
    {error : IoError} (refused : operation tree = .error error) :
    Runs (Job.query cause operation) tree (.error (cause error)) tree [] :=
  fun events => ⟨[], by rw [Job.query, refused, List.append_nil]; rfl, rfl⟩

theorem change_ok {cause : IoError → Failure} {operation : FileTree → Except IoError FileTree}
    (changed : operation tree = .ok after) :
    Runs (Job.change cause operation) tree (.ok ()) after [] :=
  fun events => ⟨[], by rw [Job.change, changed, List.append_nil]; rfl, rfl⟩

theorem change_error {cause : IoError → Failure} {operation : FileTree → Except IoError FileTree}
    {error : IoError} (refused : operation tree = .error error) :
    Runs (Job.change cause operation) tree (.error (cause error)) tree [] :=
  fun events => ⟨[], by rw [Job.change, refused, List.append_nil]; rfl, rfl⟩

theorem attempt_ok {cause : IoError → Failure}
    {operation : FileTree → EStateM.Result IoError FileTree Unit}
    (changed : operation tree = .ok () after) :
    Runs (Job.attempt cause operation) tree (.ok ()) after [] :=
  fun events => ⟨[], by rw [Job.attempt, changed, List.append_nil]; rfl, rfl⟩

theorem attempt_error {cause : IoError → Failure}
    {operation : FileTree → EStateM.Result IoError FileTree Unit} {error : IoError}
    (refused : operation tree = .error error after) :
    Runs (Job.attempt cause operation) tree (.error (cause error)) after [] :=
  fun events => ⟨[], by rw [Job.attempt, refused, List.append_nil]; rfl, rfl⟩

theorem start_ok {host : Host} {cause : IoError → Failure} {command : Command}
    {completion : Completion} (launched : host.launch command tree = .ok completion) :
    Runs (Job.start host cause command) tree (.ok completion.status) completion.tree [command] :=
  fun events => ⟨.started command :: completion.written.map fun part => .wrote part.1 part.2,
    by rw [Job.start, launched]; rfl, by simp [Event.command?, Function.comp_def]⟩

theorem start_error {host : Host} {cause : IoError → Failure} {command : Command} {error : IoError}
    (refused : host.launch command tree = .error error) :
    Runs (Job.start host cause command) tree (.error (cause error)) tree [] :=
  fun events => ⟨[], by rw [Job.start, refused, List.append_nil]; rfl, rfl⟩

end Runs
end Job

/-! ## The stages -/

namespace Compiler

open FileTree

def emitted (host : Host) (options : Options) (source : String) (tree : FileTree) :
    Except Failure String :=
  match tree.readText host.directory (Octets.ofText source) with
  | .error cause => .error (.unreadable source cause)
  | .ok text =>
      match (Reading.ofTokens (Token.scan text)).program with
      | .error error => .error (.unparsable error)
      | .ok program => .ok (program.render options.target)

def buildCommand (host : Host) (options : Options) (directory : BuildDirectory) : Command :=
  (toolchain host options).buildCommand (directory.entry options.target.sourceFileName)
    (directory.entry binaryName)

/-- How building in a directory comes out, with the tree it leaves and the commands it started. -/
inductive Built (host : Host) (options : Options) (source : String) (directory : BuildDirectory)
    (tree : FileTree) : Except Failure String → FileTree → List Command → Prop
  | notEmitted {failure : Failure} (emits : emitted host options source tree = .error failure) :
      Built host options source directory tree (.error failure) tree []
  | notWritten {code : String} {cause : IoError}
      (emits : emitted host options source tree = .ok code)
      (writes : tree.writeText host.directory (directory.entry options.target.sourceFileName) code =
        .error cause) :
      Built host options source directory tree (.error (.scratch cause)) tree []
  | notStarted {code : String} {written : FileTree} {cause : IoError}
      (emits : emitted host options source tree = .ok code)
      (writes : tree.writeText host.directory (directory.entry options.target.sourceFileName) code =
        .ok written)
      (starts : host.launch (buildCommand host options directory) written = .error cause) :
      Built host options source directory tree
        (.error (.toolchainUnavailable (toolchain host options).program cause)) written []
  | failed {code : String} {written : FileTree} {completion : Completion}
      (emits : emitted host options source tree = .ok code)
      (writes : tree.writeText host.directory (directory.entry options.target.sourceFileName) code =
        .ok written)
      (starts : host.launch (buildCommand host options directory) written = .ok completion)
      (fails : completion.status ≠ .success) :
      Built host options source directory tree
        (.error (.toolchainFailed (toolchain host options).program completion.status))
        completion.tree [buildCommand host options directory]
  | built {code : String} {written : FileTree} {completion : Completion}
      (emits : emitted host options source tree = .ok code)
      (writes : tree.writeText host.directory (directory.entry options.target.sourceFileName) code =
        .ok written)
      (starts : host.launch (buildCommand host options directory) written = .ok completion)
      (succeeds : completion.status = .success) :
      Built host options source directory tree (.ok (directory.entry binaryName)) completion.tree
        [buildCommand host options directory]

theorem emitFile_runs (host : Host) (options : Options) (source : String) (tree : FileTree) :
    (emitFile host options source).Runs tree (emitted host options source tree) tree [] := by
  unfold emitFile emitted
  refine .afterLog ?_
  cases read : tree.readText host.directory (Octets.ofText source) with
  | error cause => exact .stop (.query_error read)
  | ok text =>
      refine .bind (.query_ok read) (.afterLog (.bind (.logAll tree _) ?_))
      dsimp only
      cases (Reading.ofTokens (Token.scan text)).program with
      | error error => exact .throw tree _
      | ok program => exact .afterLog (.pure tree _)

theorem build_runs {host : Host} {toolchain : Toolchain} {source output : String} {tree : FileTree}
    {completion : Completion}
    (starts : host.launch (toolchain.buildCommand source output) tree = .ok completion) :
    (toolchain.buildAt host source output).Runs tree
      (if completion.status = .success then .ok ()
        else .error (.toolchainFailed toolchain.program completion.status))
      completion.tree [toolchain.buildCommand source output] := by
  refine .afterLog (.bind (.start_ok starts) ?_)
  split
  · exact .pure completion.tree ()
  · exact .throw completion.tree _

theorem build_runs_of_error {host : Host} {toolchain : Toolchain} {source output : String}
    {tree : FileTree} {cause : IoError}
    (starts : host.launch (toolchain.buildCommand source output) tree = .error cause) :
    (toolchain.buildAt host source output).Runs tree
      (.error (.toolchainUnavailable toolchain.program cause)) tree [] :=
  .afterLog (.stop (.start_error starts))

theorem buildIn_runs (host : Host) (options : Options) (source : String)
    (directory : BuildDirectory) (tree : FileTree) :
    ∃ outcome after commands, Built host options source directory tree outcome after commands ∧
      (buildIn host options source directory).Runs tree outcome after commands := by
  unfold buildIn
  have emitRuns := emitFile_runs host options source tree
  cases emits : emitted host options source tree with
  | error failure =>
      rw [emits] at emitRuns
      exact ⟨_, _, _, .notEmitted emits, .stop emitRuns⟩
  | ok code =>
      rw [emits] at emitRuns
      cases writes : tree.writeText host.directory
          (directory.entry options.target.sourceFileName) code with
      | error cause =>
          exact ⟨_, _, _, .notWritten emits writes, .bind emitRuns (.stop (.change_error writes))⟩
      | ok written =>
          cases starts : host.launch (buildCommand host options directory) written with
          | error cause =>
              exact ⟨_, _, _, .notStarted emits writes starts,
                .bind emitRuns (.bind (.change_ok writes)
                  (.afterLog (.stop (build_runs_of_error starts))))⟩
          | ok completion =>
              have built := build_runs starts
              by_cases succeeds : completion.status = .success
              · rw [if_pos succeeds] at built
                exact ⟨_, _, _, .built emits writes starts succeeds,
                  .bind emitRuns (.bind (.change_ok writes) (.afterLog (.bind built (.pure _ _))))⟩
              · rw [if_neg succeeds] at built
                exact ⟨_, _, _, .failed emits writes starts succeeds,
                  .bind emitRuns (.bind (.change_ok writes) (.afterLog (.stop built)))⟩

/-! ## What the toolchain finds -/

/-- A temporary directory has been made at a location, and nothing is changed outside of it. -/
structure Prepared (host : Host) (path : String) (start tree : FileTree) (place : Location) :
    Prop where
  holds : BuildDirectory.Holds host path tree place
  agree : AgreeOutside (Below place) start tree

section Prepared

variable {host : Host} {options : Options} {source path name : String} {directory : BuildDirectory}
  {start made after : FileTree} {place : Location} {outcome : Except Failure String}
  {commands : List Command}

theorem Prepared.make (simple : Path.IsSimpleName name) (ends : Path.EndsIn path name)
    (makes : BuildDirectory.make host path start = .ok (directory, made))
    (fresh : ∀ place, start.named? host.directory path = some place →
      start.get? place = none → ∀ below, Below place below → start.get? below = none) :
    directory = ⟨path⟩ ∧ ∃ place, start.named? host.directory path = some place ∧
      Prepared host path start made place ∧
      ∀ name, made.get? (place ++ [name]) = none := by
  obtain ⟨rfl, place, named, absent, changeable, rfl⟩ := BuildDirectory.make_eq_ok makes
  have gone := fresh place named absent
  refine ⟨rfl, place, named, ⟨BuildDirectory.holds_put simple ends gone named changeable,
    .put start _ ⟨[], by simp⟩⟩, fun name => ?_⟩
  rw [get?_put, if_neg (by simp), if_neg (by simp), gone _ ⟨[name], rfl⟩]

theorem isSimpleName_binaryName : Path.IsSimpleName binaryName :=
  ⟨by decide, by decide, by decide⟩

theorem isSimpleName_sourceFileName (target : Target) :
    Path.IsSimpleName target.sourceFileName := by
  cases target <;> exact ⟨by decide, by decide, by decide⟩

theorem isEntryName_binaryName : IsEntryName binaryName :=
  ⟨isSimpleName_binaryName.proper, by decide⟩

theorem isEntryName_sourceFileName (target : Target) : IsEntryName target.sourceFileName :=
  ⟨(isSimpleName_sourceFileName target).proper, by cases target <;> decide⟩

theorem Prepared.writeText {text : String} {tree written : FileTree}
    (prepared : Prepared host path start tree place) (simple : Path.IsSimpleName name)
    (ends : Path.EndsIn path name) {target : Target}
    (absent : tree.get? (place ++ [target.sourceFileName]) = none)
    (writes : tree.writeText host.directory (Path.join path target.sourceFileName) text =
      .ok written) : Prepared host path start written place := by
  obtain ⟨node, isFile, rfl⟩ := prepared.holds.writeText simple ends
    (isSimpleName_sourceFileName target) (isEntryName_sourceFileName target).2 absent writes
  exact ⟨prepared.holds.put simple ends isFile absent,
    prepared.agree.trans (.put tree node ⟨[target.sourceFileName], rfl⟩)⟩

/-- A build that starts no toolchain fails and has changed nothing outside its directory; otherwise
the toolchain is started in a tree in which nothing else is changed. -/
theorem Built.cases_started (builds : Built host options source ⟨path⟩ made outcome after commands)
    (simple : Path.IsSimpleName name) (ends : Path.EndsIn path name)
    (prepared : Prepared host path start made place)
    (empty : ∀ name, made.get? (place ++ [name]) = none) :
    (∃ failure, outcome = .error failure ∧ commands = [] ∧ Prepared host path start after place) ∨
      ∃ written completion, Prepared host path start written place ∧
        host.launch (buildCommand host options ⟨path⟩) written = .ok completion ∧
        after = completion.tree ∧ commands = [buildCommand host options ⟨path⟩] ∧
        ∀ binary, outcome = .ok binary →
          completion.status = .success ∧ binary = Path.join path binaryName := by
  cases builds with
  | notEmitted emits => exact .inl ⟨_, rfl, rfl, prepared⟩
  | notWritten emits writes => exact .inl ⟨_, rfl, rfl, prepared⟩
  | notStarted emits writes starts =>
      exact .inl ⟨_, rfl, rfl, prepared.writeText simple ends (empty _) writes⟩
  | failed emits writes starts fails =>
      exact .inr ⟨_, _, prepared.writeText simple ends (empty _) writes, starts, rfl, rfl, nofun⟩
  | built emits writes starts succeeds =>
      refine .inr ⟨_, _, prepared.writeText simple ends (empty _) writes, starts, rfl, rfl, ?_⟩
      rintro binary same
      cases same
      exact ⟨succeeds, rfl⟩

end Prepared

/-! ## Whole operations -/

theorem makeDirectory_eq_ok {host : Host} {options : Options} {kind : String} {tree : FileTree}
    {made : BuildDirectory × FileTree} :
    makeDirectory host options kind tree = .ok made ↔
      (Path.isAbsolute (scratchRoot host options) = true ∨ ∃ path, host.current = .ok path) ∧
        BuildDirectory.make host (temporaryPath host options kind) tree = .ok made := by
  unfold makeDirectory
  cases Path.isAbsolute (scratchRoot host options) with
  | true => simp
  | false =>
      cases host.current with
      | error cause => simp [bind, Except.bind]
      | ok path => simp [bind, Except.bind]

theorem withDirectory_runs_of_error {α : Type} {host : Host} {options : Options} {kind : String}
    {job : BuildDirectory → Job α} {tree : FileTree} {cause : IoError}
    (refused : makeDirectory host options kind tree = .error cause) :
    (withDirectory host options kind job).Runs tree (.error (.scratch cause)) tree [] := by
  intro events
  refine ⟨[], ?_, rfl⟩
  delta withDirectory
  rw [refused, List.append_nil]
  rfl

theorem withDirectory_runs {α : Type} {host : Host} {options : Options} {kind : String}
    {job : BuildDirectory → Job α} {tree made after : FileTree} {directory : BuildDirectory}
    {outcome : Except Failure α} {commands : List Command}
    (makes : makeDirectory host options kind tree = .ok (directory, made))
    (runs : (job directory).Runs made outcome after commands) :
    (withDirectory host options kind job).Runs tree outcome (directory.remove host after)
      commands := by
  intro events
  have body : Job.Runs (do
      Job.log .debug origin ("created build directory " ++ Octets.shown directory.path)
      job directory) made outcome after commands := .afterLog runs
  obtain ⟨more, ran, started⟩ := body events
  refine ⟨more, ?_, started⟩
  delta withDirectory
  rw [makes]
  dsimp only
  rw [ran]
  cases outcome <;> rfl

/-- What is done in a new directory comes out as the job says, if the directory can be made. -/
theorem withDirectory_cases {α : Type} {host : Host} {options : Options} {kind : String}
    {job : BuildDirectory → Job α}
    {Ends : BuildDirectory → FileTree → Except Failure α → FileTree → List Command → Prop}
    (inside : ∀ directory made, ∃ outcome after commands,
      Ends directory made outcome after commands ∧
        (job directory).Runs made outcome after commands) (tree : FileTree) :
    (∃ cause, (withDirectory host options kind job).Runs tree (.error (.scratch cause)) tree []) ∨
      ∃ directory made outcome after commands,
        makeDirectory host options kind tree = .ok (directory, made) ∧
        Ends directory made outcome after commands ∧
        (withDirectory host options kind job).Runs tree outcome (directory.remove host after)
          commands := by
  cases makes : makeDirectory host options kind tree with
  | error cause => exact .inl ⟨cause, withDirectory_runs_of_error makes⟩
  | ok done =>
      obtain ⟨directory, made⟩ := done
      obtain ⟨outcome, after, commands, ends, runs⟩ := inside directory made
      exact .inr ⟨directory, made, outcome, after, commands, rfl, ends,
        withDirectory_runs makes runs⟩

inductive Operation where
  | compile (source output : String)
  | run (source : String)

namespace Operation

def source : Operation → String
  | .compile source _ => source
  | .run source => source

def kind : Operation → String
  | .compile _ _ => "mob_compile_"
  | .run _ => "mob_run_"

def perform (host : Host) (options : Options) : Operation → Job Unit
  | .compile source output => Compiler.compile host options source output
  | .run source => compileAndRun host options source

theorem isSimpleName_kind (operation : Operation) {suffix : String}
    (alphanumeric : suffix.toList.all Char.isAlphanum = true) :
    Path.IsSimpleName (operation.kind ++ suffix) := by
  have compile : Path.IsSimpleName "mob_compile_" := ⟨by decide, by decide, by decide⟩
  have run : Path.IsSimpleName "mob_run_" := ⟨by decide, by decide, by decide⟩
  cases operation with
  | compile => exact compile.append (by decide) alphanumeric
  | run => exact run.append (by decide) alphanumeric

end Operation

/-- How an operation comes out that has made a directory, with the tree it leaves before that is
taken away and the commands it has started. -/
inductive Performed (host : Host) (options : Options) (directory : BuildDirectory)
    (tree : FileTree) : Operation → Except Failure Unit → FileTree → List Command → Prop
  | stopped {operation : Operation} {failure : Failure} {after : FileTree} {commands : List Command}
      (builds : Built host options operation.source directory tree (.error failure) after
        commands) :
      Performed host options directory tree operation (.error failure) after commands
  | unmoved {source output target binary : String} {left after : FileTree} {commands : List Command}
      {cause : IoError} (absolute : host.absolute output = .ok target)
      (builds : Built host options source directory tree (.ok binary) left commands)
      (moves : left.moveFile host.breaks host.directory binary target = .error cause after) :
      Performed host options directory tree (.compile source output) (.error (.scratch cause)) after
        commands
  | moved {source output target binary : String} {left after : FileTree} {commands : List Command}
      (absolute : host.absolute output = .ok target)
      (builds : Built host options source directory tree (.ok binary) left commands)
      (moves : left.moveFile host.breaks host.directory binary target = .ok () after) :
      Performed host options directory tree (.compile source output) (.ok ()) after commands
  | notStarted {source binary : String} {after : FileTree} {commands : List Command}
      {cause : IoError}
      (builds : Built host options source directory tree (.ok binary) after commands)
      (starts : host.launch ⟨binary, []⟩ after = .error cause) :
      Performed host options directory tree (.run source) (.error (.programUnavailable cause)) after
        commands
  | ran {source binary : String} {left : FileTree} {commands : List Command}
      {completion : Completion}
      (builds : Built host options source directory tree (.ok binary) left commands)
      (starts : host.launch ⟨binary, []⟩ left = .ok completion) :
      Performed host options directory tree (.run source)
        (if completion.status = .success then .ok () else .error (.programFailed completion.status))
        completion.tree (commands ++ [⟨binary, []⟩])

/-- An operation fails before anything is changed, or works in a temporary directory that is taken
away in the end. -/
theorem perform_runs (host : Host) (options : Options) (operation : Operation) (tree : FileTree) :
    (∃ cause, (operation.perform host options).Runs tree (.error (.scratch cause)) tree []) ∨
      ∃ directory made outcome after commands,
        makeDirectory host options operation.kind tree = .ok (directory, made) ∧
        Performed host options directory made operation outcome after commands ∧
        (operation.perform host options).Runs tree outcome (directory.remove host after)
          commands := by
  -- one way to come out for each thing that can fail inside the directory
  cases operation with
  | run source =>
      refine withDirectory_cases (fun directory made => ?_) tree
      obtain ⟨outcome, left, commands, builds, runs⟩ :=
        buildIn_runs host options source directory made
      cases outcome with
      | error failure => exact ⟨_, _, _, .stopped builds, .stop runs⟩
      | ok binary =>
          cases starts : host.launch ⟨binary, []⟩ left with
          | error cause =>
              exact ⟨_, _, _, .notStarted builds starts,
                .bindQuiet runs (.afterLog (.stop (.start_error starts)))⟩
          | ok completion =>
              refine ⟨_, _, _, .ran builds starts,
                .bind runs (.afterLog (.bind (.start_ok starts) ?_))⟩
              split
              · exact .pure completion.tree ()
              · exact .throw completion.tree _
  | compile source output =>
      cases absolute : host.absolute output with
      | error cause => exact .inl ⟨cause, .stop (.query_error absolute)⟩
      | ok target =>
          refine Or.imp
            (fun ⟨cause, runs⟩ => ⟨cause, .bind (.query_ok absolute) runs⟩)
            (fun ⟨directory, made, outcome, after, commands, makes, performed, runs⟩ =>
              ⟨directory, made, outcome, after, commands, makes, performed,
                .bind (.query_ok absolute) runs⟩)
            (withDirectory_cases (fun directory made => ?_) tree)
          obtain ⟨outcome, left, commands, builds, runs⟩ :=
            buildIn_runs host options source directory made
          cases outcome with
          | error failure => exact ⟨_, _, _, .stopped builds, .stop runs⟩
          | ok binary =>
              cases moves : left.moveFile host.breaks host.directory binary target with
              | error cause after =>
                  exact ⟨_, _, _, .unmoved absolute builds moves,
                    .bindQuiet runs (.stop (.attempt_error moves))⟩
              | ok _ moved =>
                  exact ⟨_, _, _, .moved absolute builds moves,
                    .bindQuiet runs (.bind (.attempt_ok moves) (.log moved _ _ _))⟩

/-! ## A small machine -/

namespace Sample

def folder : Inode := ⟨.directory, 0o755, true, 0⟩

def file (text : String) : Inode := ⟨.file text.toUTF8, 0o755, true, 0⟩

def tree : FileTree where
  names := [(["w"], 0), (["tmp"], 1), (["w", "in.mob"], 2)]
  nodes := [folder, folder, file "print(1)"]
  now := 0
  sound := by decide

def built (kind : String) : FileTree where
  names := (["tmp", kind ++ "a1"], 3) :: (["tmp", kind ++ "a1", "program"], 4) :: tree.names
  nodes := tree.nodes ++ [folder, file "binary"]
  now := 0
  sound := by simp [tree]

/-- The surroundings in which every program succeeds and leaves a tree. -/
def machine (left : FileTree) : Host where
  directory := ["w"]
  scratchRoot := "/tmp"
  rustCompiler? := none
  suffix := "a1"
  launch _ _ := .ok ⟨left, .success, []⟩

def host (kind : String) : Host := machine (built kind)

end Sample

end Compiler
end CallScript
