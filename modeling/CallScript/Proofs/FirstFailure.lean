import CallScript.Proofs.LeftBehind
import CallScript.Proofs.Way

/-!
# The first stage that fails

Compiling and running go through their stages in order, and the first one that fails decides the
outcome: none of those behind it has any effect. The toolchain is started only for a file that holds
exactly what is emitted for the source.

* `Compiler.Invocation.Course`: stages one after the other, up to the first that fails.
* `Compiler.Invocation.runs_course`: an operation is the course of its stages.
* `Compiler.Invocation.takes_course`: what the course says about the outcome.
-/

namespace CallScript

/-! ## The name of the executable -/

namespace Path

theorem fileName?_join (directory : String) {name : String} (simple : IsSimpleName name) :
    fileName? (join directory name) = some name := by
  have last := (endsIn_join directory simple).pieces simple
  obtain ⟨front, split⟩ := List.getLast?_eq_some_iff.mp last
  have proper := simple.proper
  simp only [List.mem_cons, List.not_mem_nil, or_false, not_or] at proper
  simp [fileName?, names, split, proper]

end Path

theorem crateName_entry (directory : BuildDirectory) :
    crateName (Octets.shown ((Path.fileName? (directory.entry Compiler.binaryName)).getD "")) =
      "program" := by
  rw [BuildDirectory.entry, Path.fileName?_join directory.path Compiler.isSimpleName_binaryName]
  decide +kernel

def Job.outcome {α : Type} : EStateM.Result Failure World α → Except Failure α
  | .ok value _ => .ok value
  | .error failure _ => .error failure

theorem Job.outcome_result {α : Type} (outcome : Except Failure α) (world : World) :
    Job.outcome (Job.result outcome world) = outcome := by
  cases outcome <;> rfl

namespace Compiler

open FileTree Refusal

/-! ## Stages -/

inductive Stage where
  | outputPath (output : String)
  | directory
  | frontEnd
  | generatedFile
  | toolchainStart
  | toolchainStatus
  | move
  | programStart
  | programStatus
deriving DecidableEq

namespace Operation

/-- What leads to a temporary directory. -/
def firstStages : Operation → List Stage
  | .compile _ output => [.outputPath output, .directory]
  | .run _ => [.directory]

/-- What leads from the source to an executable in the temporary directory. -/
def buildStages : List Stage := [.frontEnd, .generatedFile, .toolchainStart, .toolchainStatus]

/-- What is done with the executable. -/
def lastStages : Operation → List Stage
  | .compile _ _ => [.move]
  | .run _ => [.programStart, .programStatus]

def stages (operation : Operation) : List Stage :=
  operation.firstStages ++ (buildStages ++ operation.lastStages)

end Operation

/-- What has been reached between two stages. What is not known yet is empty. -/
structure Situation where
  tree : FileTree
  target : String
  code : String
  /-- The status of the program that was started last. -/
  status : ExitStatus

namespace Situation

def start (tree : FileTree) : Situation := ⟨tree, "", "", .success⟩

def ended (s : Situation) (completion : Completion) : Situation :=
  { s with tree := completion.tree, status := completion.status }

end Situation

/-- What the result of an operation leads to. -/
def advance {α ε : Type} (cause : ε → Failure) (result : Except ε α) (next : α → Situation) :
    Except Failure Situation :=
  match result with
  | .ok value => .ok (next value)
  | .error error => .error (cause error)

section

variable {α ε : Type} {cause : ε → Failure} {result : Except ε α} {next : α → Situation}

theorem advance_ok {value : α} (h : result = .ok value) :
    advance cause result next = .ok (next value) := by
  rw [h]
  rfl

theorem advance_error {error : ε} (h : result = .error error) :
    advance cause result next = .error (cause error) := by
  rw [h]
  rfl

theorem advance_eq_ok {s : Situation} :
    advance cause result next = .ok s ↔ ∃ value, result = .ok value ∧ next value = s := by
  cases result <;> simp [advance]

end

namespace Invocation

def generated (i : Invocation) : String := i.directory.entry i.options.target.sourceFileName

def toolchain (i : Invocation) : Toolchain := Compiler.toolchain i.host i.options

def emits (i : Invocation) (tree : FileTree) : Except Failure String :=
  Job.outcome (emitFile i.host i.options i.operation.source (.ofTree tree))

def command? (i : Invocation) : Stage → Option Command
  | .toolchainStart => some (i.toolchain.buildCommand i.generated i.binary)
  | .programStart => some ⟨i.binary, []⟩
  | _ => none

def moves (i : Invocation) (s : Situation) : EStateM.Result IoError FileTree Unit :=
  s.tree.moveFile i.host.breaks i.host.directory i.binary s.target

def pass (i : Invocation) (stage : Stage) (s : Situation) : Except Failure Situation :=
  match stage with
  | .outputPath output =>
      advance .scratch (i.host.absolute output)
        fun target => { s with target := target }
  | .directory =>
      advance .scratch (makeDirectory i.host i.options i.operation.kind s.tree)
        fun made => { s with tree := made.2 }
  | .frontEnd => advance id (i.emits s.tree) fun code => { s with code := code }
  | .generatedFile =>
      advance .scratch (s.tree.writeText i.host.directory i.generated s.code)
        fun tree => { s with tree := tree }
  | .toolchainStart =>
      advance (.toolchainUnavailable i.toolchain.program)
        (i.host.launch (i.toolchain.buildCommand i.generated i.binary) s.tree) s.ended
  | .toolchainStatus =>
      if s.status = .success then .ok s
      else .error (.toolchainFailed i.toolchain.program s.status)
  | .move => advance .scratch (doneBy (i.moves s)) fun tree => { s with tree := tree }
  | .programStart => advance .programUnavailable (i.host.launch ⟨i.binary, []⟩ s.tree) s.ended
  | .programStatus => if s.status = .success then .ok s else .error (.programFailed s.status)

/-- What a stage that fails has come to. Only a copy that breaks off changes anything. -/
def stopped (i : Invocation) (stage : Stage) (s : Situation) : Situation :=
  match stage with
  | .move => { s with tree := leftBy (i.moves s) }
  | _ => s

def passes (i : Invocation) (stages : List Stage) (s : Situation) : Except Failure Situation :=
  stages.foldlM (fun s stage => i.pass stage s) s

/-- How stages one after the other come out, with what has been reached and the stages that have
been passed: the first one that fails decides, or all are passed. -/
inductive Course (i : Invocation) (stages : List Stage) (s : Situation) :
    Except Failure Unit → Situation → List Stage → Prop
  | fails {passed rest : List Stage} {stage : Stage} {reached : Situation} {failure : Failure}
      (order : stages = passed ++ stage :: rest) (before : i.passes passed s = .ok reached)
      (refused : i.pass stage reached = .error failure) :
      Course i stages s (.error failure) (i.stopped stage reached) passed
  | ends {reached : Situation} (before : i.passes stages s = .ok reached) :
      Course i stages s (.ok ()) reached stages

variable {i : Invocation} {stage : Stage} {rest passed : List Stage} {s next reached : Situation}
  {outcome : Except Failure Unit} {failure : Failure}

theorem pass_move_ok {moved : FileTree} (moves : i.moves s = .ok () moved) :
    i.pass .move s = .ok { s with tree := moved } := by
  rw [pass, moves, doneBy, advance]

theorem pass_move_error {cause : IoError} {after : FileTree}
    (moves : i.moves s = .error cause after) :
    i.pass .move s = .error (.scratch cause) ∧ i.stopped .move s = { s with tree := after } := by
  rw [pass, stopped, moves, doneBy, advance, leftBy]
  exact ⟨rfl, rfl⟩

theorem passes_cons (passesStage : i.pass stage s = .ok next) (stages : List Stage) :
    i.passes (stage :: stages) s = i.passes stages next := by
  rw [passes, List.foldlM_cons, passesStage]
  rfl

theorem passes_cons_eq_ok {stages : List Stage} :
    i.passes (stage :: stages) s = .ok reached ↔
      ∃ next, i.pass stage s = .ok next ∧ i.passes stages next = .ok reached := by
  rw [passes, List.foldlM_cons]
  exact bind_eq_ok

namespace Course

theorem stop (refused : i.pass stage s = .error failure) :
    i.Course (stage :: rest) s (.error failure) (i.stopped stage s) [] :=
  .fails rfl rfl refused

theorem cons (passesStage : i.pass stage s = .ok next)
    (behind : i.Course rest next outcome reached passed) :
    i.Course (stage :: rest) s outcome reached (stage :: passed) := by
  cases behind with
  | fails order before refused =>
      refine .fails (by rw [order, List.cons_append]) ?_ refused
      rw [passes_cons passesStage, before]
  | ends before => exact .ends (by rw [passes_cons passesStage, before])

theorem of_nil (course : i.Course [] s outcome reached passed) :
    outcome = .ok () ∧ reached = s := by
  cases course with
  | fails order => simp at order
  | ends before =>
      cases before
      exact ⟨rfl, rfl⟩

theorem of_error (course : i.Course (stage :: rest) s outcome reached passed)
    (refused : i.pass stage s = .error failure) :
    outcome = .error failure ∧ reached = i.stopped stage s ∧ passed = [] := by
  cases course with
  | @fails passed rest stage reached failure order before stops =>
      cases passed with
      | nil =>
          obtain ⟨rfl, rfl⟩ := List.cons.inj order
          cases before
          cases refused.symm.trans stops
          exact ⟨rfl, rfl, rfl⟩
      | cons first passed =>
          obtain ⟨rfl, rfl⟩ := List.cons.inj order
          obtain ⟨next, passesStage, -⟩ := passes_cons_eq_ok.mp before
          cases refused.symm.trans passesStage
  | ends before =>
      obtain ⟨next, passesStage, -⟩ := passes_cons_eq_ok.mp before
      cases refused.symm.trans passesStage

theorem of_ok (course : i.Course (stage :: rest) s outcome reached passed)
    (passesStage : i.pass stage s = .ok next) :
    ∃ behind, passed = stage :: behind ∧ i.Course rest next outcome reached behind := by
  cases course with
  | @fails passed rest stage reached failure order before stops =>
      cases passed with
      | nil =>
          obtain ⟨rfl, rfl⟩ := List.cons.inj order
          cases before
          cases passesStage.symm.trans stops
      | cons first passed =>
          obtain ⟨rfl, rfl⟩ := List.cons.inj order
          rw [passes_cons passesStage] at before
          exact ⟨passed, rfl, .fails rfl before stops⟩
  | ends before =>
      rw [passes_cons passesStage] at before
      exact ⟨rest, rfl, .ends before⟩

end Course

/-! ## An operation is the course of its stages -/

theorem emits_eq (i : Invocation) (tree : FileTree) :
    i.emits tree = emitted i.host i.options i.operation.source tree := by
  obtain ⟨more, ran, -⟩ := emitFile_runs i.host i.options i.operation.source tree []
  rw [emits, World.ofTree, ran, Job.outcome_result]

/-- Building is the course of its stages, up to the first of them that fails or on to the stages
behind them. -/
theorem course_of_built {outcome : Except Failure String} {after : FileTree}
    {commands : List Command} (rest : List Stage)
    (builds : Built i.host i.options i.operation.source i.directory s.tree outcome after commands) :
    (∃ failure reached passed, outcome = .error failure ∧
      i.Course (Operation.buildStages ++ rest) s (.error failure) reached passed ∧
      reached.tree = after ∧ passed.filterMap i.command? = commands) ∨
    ∃ next, outcome = .ok i.binary ∧ next.tree = after ∧ next.target = s.target ∧
      Operation.buildStages.filterMap i.command? = commands ∧
      ∀ {outcome reached passed}, i.Course rest next outcome reached passed →
        i.Course (Operation.buildStages ++ rest) s outcome reached
          (Operation.buildStages ++ passed) := by
  simp only [Operation.buildStages, List.cons_append, List.nil_append]
  have passEmit {code : String}
      (emits : emitted i.host i.options i.operation.source s.tree = .ok code) :
      i.pass .frontEnd s = .ok { s with code := code } :=
    advance_ok ((i.emits_eq s.tree).trans emits)
  have passWrite {code : String} {written : FileTree}
      (writes : s.tree.writeText i.host.directory i.generated code = .ok written) :
      i.pass .generatedFile { s with code := code } =
        .ok { s with code := code, tree := written } :=
    advance_ok writes
  have passStart {code : String} {written : FileTree} {completion : Completion}
      (starts : i.host.launch (i.toolchain.buildCommand i.generated i.binary) written =
        .ok completion) :
      i.pass .toolchainStart { s with code := code, tree := written } =
        .ok (Situation.ended { s with code := code, tree := written } completion) :=
    advance_ok starts
  -- one way to come out for each stage that can fail, and one for all of them passed
  cases builds with
  | @notEmitted failure emits =>
      have refused : i.pass .frontEnd s = .error failure :=
        advance_error ((i.emits_eq s.tree).trans emits)
      exact .inl ⟨failure, s, [], rfl, .stop refused, rfl, rfl⟩
  | @notWritten code cause emits writes =>
      have refused : i.pass .generatedFile { s with code := code } = .error (.scratch cause) :=
        advance_error writes
      exact .inl ⟨_, _, _, rfl, .cons (passEmit emits) (.stop refused), rfl, rfl⟩
  | @notStarted code _ cause emits writes starts =>
      have refused : i.pass .toolchainStart { s with code := code, tree := after } =
          .error (.toolchainUnavailable i.toolchain.program cause) := advance_error starts
      exact .inl ⟨_, _, _, rfl, .cons (passEmit emits) (.cons (passWrite writes) (.stop refused)),
        rfl, rfl⟩
  | failed emits writes starts fails =>
      exact .inl ⟨_, _, _, rfl, .cons (passEmit emits) (.cons (passWrite writes)
        (.cons (passStart starts) (.stop (if_neg fails)))), rfl, rfl⟩
  | @built code written completion emits writes starts succeeds =>
      refine .inr ⟨Situation.ended { s with code := code, tree := written } completion, rfl, rfl,
        rfl, rfl, fun behind => ?_⟩
      exact .cons (passEmit emits) (.cons (passWrite writes)
        (.cons (passStart starts) (.cons (if_pos succeeds) behind)))

/-- The tree that is left: the temporary directory is taken away if it has been made. -/
def left (i : Invocation) (passed : List Stage) (reached : Situation) : FileTree :=
  if .directory ∈ passed then i.directory.remove i.host reached.tree else reached.tree

theorem left_cons (other : stage ≠ .directory) :
    i.left (stage :: passed) reached = i.left passed reached := by
  simp [left, Ne.symm other]

theorem left_of_mem (made : .directory ∈ passed) :
    i.left passed reached = i.directory.remove i.host reached.tree := if_pos made

theorem runs_course_of_withDirectory (i : Invocation) (job : String → Job Unit) {rest : List Stage}
    (follows : ∀ next : Situation, next.target = s.target → ∃ outcome reached passed,
      i.Course rest next outcome reached passed ∧
      (job i.binary).Runs next.tree outcome reached.tree (passed.filterMap i.command?)) :
    ∃ outcome reached passed,
      i.Course (.directory :: (Operation.buildStages ++ rest)) s outcome reached passed ∧
      (withDirectory i.host i.options i.operation.kind fun directory =>
        buildIn i.host i.options i.operation.source directory >>= job).Runs s.tree outcome
          (i.left passed reached) (passed.filterMap i.command?) := by
  cases makes : makeDirectory i.host i.options i.operation.kind s.tree with
  | error cause =>
      have refused : i.pass .directory s = .error (.scratch cause) := advance_error makes
      exact ⟨_, s, [], .stop refused, withDirectory_runs_of_error makes⟩
  | ok done =>
      obtain ⟨directory, made⟩ := done
      obtain rfl : directory = i.directory :=
        (BuildDirectory.make_eq_ok (makeDirectory_eq_ok.mp makes).2).1
      have passMake : i.pass .directory s = .ok { s with tree := made } := advance_ok makes
      obtain ⟨_, after, commands, builds, runs⟩ :=
        buildIn_runs i.host i.options i.operation.source i.directory made
      obtain ⟨failure, reached, passed, rfl, course, rfl, started⟩ |
          ⟨next, rfl, rfl, sameTarget, started, course⟩ :=
        i.course_of_built (s := { s with tree := made }) rest builds
      · refine ⟨_, reached, _, .cons passMake course, ?_⟩
        rw [left_of_mem (by simp), List.filterMap_cons_none rfl, started]
        exact withDirectory_runs makes (.stop runs)
      · obtain ⟨outcome, reached, passed, behind, ends⟩ := follows next sameTarget
        refine ⟨_, reached, _, .cons passMake (course behind), ?_⟩
        rw [left_of_mem (by simp), List.filterMap_cons_none rfl, List.filterMap_append, started]
        exact withDirectory_runs makes (.bind runs ends)

theorem runs_course_of_move (i : Invocation) (s : Situation) (message : String) {target : String}
    (isTarget : s.target = target) :
    ∃ outcome reached passed, i.Course [.move] s outcome reached passed ∧
      Job.Runs (do
        Job.attempt .scratch fun tree =>
          tree.moveFile i.host.breaks i.host.directory i.binary target
        Job.log .info origin message) s.tree outcome reached.tree
          (passed.filterMap i.command?) := by
  subst isTarget
  cases moves : s.tree.moveFile i.host.breaks i.host.directory i.binary s.target with
  | error cause after =>
      obtain ⟨refused, isStopped⟩ := pass_move_error (i := i) moves
      refine ⟨_, i.stopped .move s, [], .stop refused, .stop ?_⟩
      rw [isStopped]
      exact .attempt_error moves
  | ok _ moved =>
      exact ⟨_, { s with tree := moved }, _, .cons (pass_move_ok moves) (.ends rfl),
        .bind (.attempt_ok moves) (.log moved .info origin message)⟩

theorem runs_course_of_program (i : Invocation) (s : Situation) (message : String) :
    ∃ outcome reached passed, i.Course [.programStart, .programStatus] s outcome reached passed ∧
      Job.Runs (do
        Job.log .debug origin message
        let status ← Job.start i.host .programUnavailable ⟨i.binary, []⟩
        unless status = .success do
          throw (.programFailed status)) s.tree outcome reached.tree
          (passed.filterMap i.command?) := by
  cases starts : i.host.launch ⟨i.binary, []⟩ s.tree with
  | error cause =>
      have refused : i.pass .programStart s = .error (.programUnavailable cause) :=
        advance_error starts
      exact ⟨_, s, [], .stop refused, .afterLog (.stop (.start_error starts))⟩
  | ok completion =>
      have passStart : i.pass .programStart s = .ok (s.ended completion) := advance_ok starts
      by_cases succeeds : completion.status = .success
      · refine ⟨_, s.ended completion, _, .cons passStart (.cons (if_pos succeeds) (.ends rfl)),
          .afterLog (.bind (.start_ok starts) ?_)⟩
        rw [if_pos succeeds]
        exact .pure completion.tree ()
      · refine ⟨_, s.ended completion, _, .cons passStart (.stop (if_neg succeeds)),
          .afterLog (.bind (.start_ok starts) ?_)⟩
        rw [if_neg succeeds]
        exact .throw completion.tree _

/-- An operation is the course of its stages, with the temporary directory taken away at the end. -/
theorem runs_course (i : Invocation) (tree : FileTree) :
    ∃ outcome reached passed,
      i.Course i.operation.stages (.start tree) outcome reached passed ∧
      (i.operation.perform i.host i.options).Runs tree outcome (i.left passed reached)
        (passed.filterMap i.command?) := by
  obtain ⟨host, options, operation⟩ := i
  cases operation with
  | run source =>
      let i : Invocation := ⟨host, options, .run source⟩
      let job (binary : String) : Job Unit := do
        Job.log .debug origin ("executing " ++ Octets.shown binary)
        let status ← Job.start host .programUnavailable ⟨binary, []⟩
        unless status = .success do
          throw (.programFailed status)
      exact i.runs_course_of_withDirectory (s := .start tree) job
        fun next _ => runs_course_of_program i next ("executing " ++ Octets.shown i.binary)
  | compile source output =>
      let i : Invocation := ⟨host, options, .compile source output⟩
      let s := Situation.start tree
      cases absolute : host.absolute output with
      | error cause =>
          have refused : i.pass (.outputPath output) s = .error (.scratch cause) :=
            advance_error absolute
          exact ⟨_, s, [], .stop refused, .stop (.query_error absolute)⟩
      | ok target =>
          have passOutput : i.pass (.outputPath output) s = .ok { s with target := target } :=
            advance_ok absolute
          let message := "built " ++ source ++ " -> " ++ Octets.shown target
          let job (binary : String) : Job Unit := do
            Job.attempt .scratch fun tree =>
              tree.moveFile host.breaks host.directory binary target
            Job.log .info origin message
          obtain ⟨outcome, reached, passed, course, runs⟩ :=
            i.runs_course_of_withDirectory (s := { s with target := target }) job
              fun next isTarget => runs_course_of_move i next message isTarget
          refine ⟨outcome, reached, _, .cons passOutput course, ?_⟩
          rw [left_cons (by simp), List.filterMap_cons_none rfl]
          exact .bind (.query_ok absolute) runs

/-! ## What the toolchain is given -/

/-- The temporary name is new: neither the current directory nor the source path nor a link has
it. -/
structure NameIsNew (i : Invocation) (tree : FileTree) : Prop where
  directory : i.operation.kind ++ i.host.suffix ∉ i.host.directory
  source : i.operation.kind ++ i.host.suffix ∉
    Path.pieces (Octets.ofText i.operation.source)
  links : tree.LinksAvoid (i.operation.kind ++ i.host.suffix)

end Invocation

end Compiler

namespace FileTree

theorem readText_congr {tree other : FileTree} {directory : Location} {path : String}
    (way : AgreeAt (tree.way directory path true) tree other)
    (ends : ∀ place, tree.resolve directory path true = .ok place →
      other.get? place = tree.get? place) :
    other.readText directory path = tree.readText directory path := by
  rw [readText, readText]
  cases octetPath : pathOf path with
  | error cause => rfl
  | ok octets =>
      obtain rfl := pathOf_eq_ok octetPath
      have sameBytes : other.readBytes directory path =
          tree.readBytes directory path := by
        rw [readBytes, readBytes, find, find, resolve_congr way]
        cases resolved : tree.resolve directory path true with
        | error cause => rfl
        | ok place =>
            change at? other place >>= _ = at? tree place >>= _
            rw [at?, at?, ends place resolved]
      dsimp only [bind, Except.bind]
      rw [sameBytes]

end FileTree

namespace Compiler

open FileTree Refusal

namespace Invocation

variable {i : Invocation} {start : FileTree} {made given : Situation}

/-- Where the front end and the toolchain start. -/
structure Hands (i : Invocation) (start : FileTree) (made : Situation) : Prop where
  /-- The front end finds everything as it was, but for a new temporary directory. -/
  kept : AgreeOutside (i.InTemporary start) start made.tree
  /-- It emits what is emitted without that directory, or fails as it would. -/
  emits : i.NameIsNew start → i.emits made.tree = i.emits start
  /-- The toolchain finds a file with exactly what has been emitted. -/
  file : ∀ given, i.passes [.frontEnd, .generatedFile] made = .ok given →
    i.emits made.tree = .ok given.code ∧
      given.tree.readText i.host.directory i.generated = .ok given.code ∧
      AgreeOutside (i.InTemporary start) start given.tree

theorem make_of_passes (passes : i.passes i.operation.firstStages (.start start) = .ok made) :
    BuildDirectory.make i.host i.directory.path start = .ok (i.directory, made.tree) := by
  have ofDirectory {s : Situation} (passes : i.passes [.directory] s = .ok made) :
      BuildDirectory.make i.host i.directory.path s.tree = .ok (i.directory, made.tree) := by
    obtain ⟨next, passMake, ends⟩ := passes_cons_eq_ok.mp passes
    cases ends
    rw [pass, advance_eq_ok] at passMake
    obtain ⟨⟨directory, tree⟩, makes, rfl⟩ := passMake
    have makes := (makeDirectory_eq_ok.mp makes).2
    obtain rfl : directory = i.directory := (BuildDirectory.make_eq_ok makes).1
    exact makes
  generalize i.operation = operation at passes
  cases operation with
  | run source => exact ofDirectory (s := .start start) passes
  | compile source output =>
      obtain ⟨next, passOutput, passes⟩ := passes_cons_eq_ok.mp passes
      rw [pass, advance_eq_ok] at passOutput
      obtain ⟨target, -, rfl⟩ := passOutput
      exact ofDirectory (s := ⟨start, target, "", .success⟩) passes

theorem hands (isTree : start.IsTree)
    (alphanumeric : i.host.suffix.toList.all Char.isAlphanum = true)
    (passes : i.passes i.operation.firstStages (.start start) = .ok made) : i.Hands start made := by
  have simple := i.operation.isSimpleName_kind alphanumeric
  have ends : Path.EndsIn i.directory.path (i.operation.kind ++ i.host.suffix) :=
    Path.endsIn_join _ simple
  obtain ⟨-, place, named, prepared, empty⟩ := Prepared.make simple ends (make_of_passes passes)
    fun place _ absent below isBelow => isTree.absent_below absent isBelow
  have namedAtStart : (World.ofTree start).tree.named? i.host.directory i.directory.path =
      some place := named
  have inside (other : Location) : Below place other → i.InTemporary start other :=
    (inTemporary_iff namedAtStart other).mpr
  have kept : AgreeOutside (i.InTemporary start) start made.tree := prepared.agree.mono inside
  have sourceSimple := isSimpleName_sourceFileName i.options.target
  have isName := isEntryName_sourceFileName i.options.target
  refine ⟨kept, fun isNew => ?_, fun given building => ?_⟩
  -- reading the source does not lead through the new directory
  · obtain ⟨above, split⟩ := last_of_endsIn simple ends named
    have outside (other : Location) (unmet : i.operation.kind ++ i.host.suffix ∉ other) :
        made.tree.get? other = start.get? other :=
      (prepared.agree other fun below => unmet (below.subset (by simp [split]))).1
    rw [emits_eq, emits_eq, emitted, emitted, readText_congr]
    · exact fun other onWay => outside other
        (not_mem_of_way isNew.links isNew.directory isNew.source other onWay)
    · exact fun other resolved => outside other
        (not_mem_of_resolve isNew.links isNew.directory isNew.source resolved)
  · obtain ⟨next, passEmit, building⟩ := passes_cons_eq_ok.mp building
    rw [pass, advance_eq_ok] at passEmit
    obtain ⟨code, emits, rfl⟩ := passEmit
    obtain ⟨last, passWrite, ended⟩ := passes_cons_eq_ok.mp building
    cases ended
    rw [pass, advance_eq_ok] at passWrite
    obtain ⟨written, writes, rfl⟩ := passWrite
    refine ⟨emits, prepared.holds.readText simple ends sourceSimple isName (empty _) writes, ?_⟩
    exact (prepared.writeText simple ends (empty _) writes).agree.mono inside

theorem buildCommand_args (i : Invocation) :
    (i.options.target = .rust → (i.toolchain.buildCommand i.generated i.binary).args =
      ["--edition", "2021", "--crate-name", "program", "-o", i.binary, i.generated]) ∧
    (i.options.target = .go → (i.toolchain.buildCommand i.generated i.binary).args =
      ["build", "-o", i.binary, i.generated]) := by
  have sameTarget : i.toolchain.target = i.options.target := by
    rw [toolchain, Compiler.toolchain]
    cases i.options.toolchain? <;> cases i.options.target <;> rfl
  refine ⟨fun isRust => ?_, fun isGo => ?_⟩
  · simp only [Toolchain.buildCommand, sameTarget, isRust]
    rw [binary, crateName_entry]
  · simp only [Toolchain.buildCommand, sameTarget, isGo]

theorem commands_of_passed (passed_first : passed <+: i.operation.stages) :
    passed.filterMap i.command? <+:
      [i.toolchain.buildCommand i.generated i.binary, ⟨i.binary, []⟩] := by
  refine (passed_first.filterMap i.command?).trans ?_
  rw [Operation.stages, List.filterMap_append]
  cases i.operation with
  | compile => exact ⟨[⟨i.binary, []⟩], rfl⟩
  | run => exact ⟨[], rfl⟩

theorem Course.prefix {stages : List Stage} (course : i.Course stages s outcome reached passed) :
    passed <+: stages := by
  cases course with
  | fails order => exact ⟨_, order.symm⟩
  | ends => exact List.prefix_refl _

/-- The outcome of an operation is the failure of the first stage that fails, or success if none
does, and what it leaves is what the stages up to there have come to. The toolchain is started at
most once, with fixed arguments, and finds exactly what is emitted for the source. -/
theorem takes_course (i : Invocation) (before : World) (isTree : before.tree.IsTree)
    (alphanumeric : i.host.suffix.toList.all Char.isAlphanum = true) :
    (∃ outcome reached passed,
      i.Course i.operation.stages (.start before.tree) outcome reached passed ∧
      i.result before = Job.result outcome (i.after before) ∧
      (i.after before).tree = i.left passed reached ∧
      (i.after before).commands = before.commands ++ passed.filterMap i.command? ∧
      passed.filterMap i.command? <+:
        [i.toolchain.buildCommand i.generated i.binary, ⟨i.binary, []⟩]) ∧
    (∀ made, i.passes i.operation.firstStages (.start before.tree) = .ok made →
      i.Hands before.tree made) ∧
    (i.options.target = .rust → (i.toolchain.buildCommand i.generated i.binary).args =
      ["--edition", "2021", "--crate-name", "program", "-o", i.binary, i.generated]) ∧
    (i.options.target = .go → (i.toolchain.buildCommand i.generated i.binary).args =
      ["build", "-o", i.binary, i.generated]) := by
  refine ⟨?_, fun made => i.hands isTree alphanumeric, i.buildCommand_args⟩
  obtain ⟨outcome, reached, passed, course, runs⟩ := i.runs_course before.tree
  obtain ⟨tree, commands, result⟩ := after_of_runs runs
  exact ⟨outcome, reached, passed, course, result, tree, commands,
    commands_of_passed course.prefix⟩

end Invocation

/-- On a machine where the source is missing and the toolchain cannot be started, a run fails for
want of the source. -/
theorem takes_course_sample :
    let i : Invocation :=
      ⟨{ Sample.host "mob_run_" with launch := fun _ _ => .error (.os .noEntry) }, default,
        .run "gone.mob"⟩
    Sample.tree.IsTree ∧ i.host.suffix.toList.all Char.isAlphanum = true ∧
    ∃ reached passed,
      i.Course i.operation.stages (.start Sample.tree)
        (.error (.unreadable "gone.mob" (.os .noEntry))) reached passed ∧
      (i.after (.ofTree Sample.tree)).commands = passed.filterMap i.command? := by
  intro i
  have isTree : Sample.tree.IsTree := isTree_of_names (by decide)
  have alphanumeric : i.host.suffix.toList.all Char.isAlphanum = true := by decide
  have fails : Job.outcome (i.result (.ofTree Sample.tree)) =
      .error (.unreadable "gone.mob" (.os .noEntry)) := by decide +kernel
  obtain ⟨⟨outcome, reached, passed, course, result, -, commands, -⟩, -⟩ :=
    i.takes_course (.ofTree Sample.tree) isTree alphanumeric
  rw [result, Job.outcome_result] at fails
  exact ⟨isTree, alphanumeric, reached, passed, fails ▸ course, commands⟩

end Compiler
end CallScript
