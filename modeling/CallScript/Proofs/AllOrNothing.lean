import CallScript.Proofs.BuildStages

/-!
# All or nothing

Compiling either puts what the toolchain has built at the output path or leaves the entry there as
it was, whichever stage fails. The toolchain may do anything to the tree but touch the output.

* `Compiler.compile_delivers_or_keeps`: the executable is delivered, or the entry is kept.
-/

namespace CallScript.Compiler

open FileTree

def buildDirectory (host : Host) (options : Options) : BuildDirectory :=
  ⟨temporaryPath host options "mob_compile_"⟩

def executablePath (host : Host) (options : Options) : String :=
  (buildDirectory host options).entry binaryName

/-- The locations of the temporary directory's name and below it. -/
def InBuild (host : Host) (place : Location) : Prop := "mob_compile_" ++ host.suffix ∈ place

instance (host : Host) (place : Location) : Decidable (InBuild host place) :=
  inferInstanceAs (Decidable (_ ∈ place))

def outputAt? (host : Host) (output : String) (tree : FileTree) : Option Inode :=
  (host.absolute output).toOption.bind (tree.entryAt? host.directory)

theorem outputAt?_of_absolute {host : Host} {output target : String}
    (absolute : host.absolute output = .ok target) (tree : FileTree) :
    outputAt? host output tree = tree.entryAt? host.directory target := by
  rw [outputAt?, absolute, Except.toOption, Option.bind_some]

theorem outputAt?_of_error {host : Host} {output : String} {cause : IoError}
    (absolute : host.absolute output = .error cause) (tree : FileTree) :
    outputAt? host output tree = none := by
  rw [outputAt?, absolute, Except.toOption, Option.bind_none]

/-- The toolchain, started in a tree with a new temporary directory, comes to an end. -/
def RunsToolchain (host : Host) (options : Options) (start : FileTree) (completion : Completion) :
    Prop :=
  ∃ place tree, Prepared host (buildDirectory host options).path start tree place ∧
    host.launch (buildCommand host options (buildDirectory host options)) tree = .ok completion

/-- The toolchain does not touch what an absolute path names, and the path has nothing to do with
the temporary directory. -/
structure SparesOutput (host : Host) (options : Options) (target : String) (start : FileTree) :
    Prop where
  past : start.LeadsPast host.directory target (InBuild host)
  leavesTree : ∀ completion, RunsToolchain host options start completion → completion.tree.IsTree
  leavesPast : ∀ completion, RunsToolchain host options start completion →
    completion.tree.LeadsPast host.directory target (InBuild host)
  leavesEntry : ∀ completion, RunsToolchain host options start completion →
    completion.tree.entryAt? host.directory target = start.entryAt? host.directory target
  /-- All is one file system: what may not be moved there may not be copied there, and the copy
  fails before it touches anything. -/
  refusesCopy : ∀ completion executable goal, RunsToolchain host options start completion →
    pathOf (executablePath host options) = .ok executable → pathOf target = .ok goal →
    completion.tree.rename host.directory executable goal = .error .permission →
    ∃ cause, completion.tree.copyFile host.breaks host.directory (executablePath host options)
      target = .error cause completion.tree

/-- The toolchain was started and succeeded, and what it left in the place of the executable is the
entry at the output. -/
structure Delivered (host : Host) (options : Options) (target : String) (before after : World)
    (completion : Completion) (executable place : Location) (node : Inode) : Prop where
  started : RunsToolchain host options before.tree completion
  commands : after.commands =
    before.commands ++ [buildCommand host options (buildDirectory host options)]
  succeeded : completion.status = .success
  built : completion.tree.named? host.directory (executablePath host options) = some executable
  left : completion.tree.get? executable = some node
  goal : completion.tree.named? host.directory target = some place
  delivered : after.tree.get? place = some node
  /-- The output path still leads there, unless its way led through what was moved or replaced. -/
  reached : (∀ other, AgreeOutside
      (fun other => InBuild host other ∨ Below executable other ∨ Below place other)
      completion.tree other → other.named? host.directory target = some place) →
    after.tree.entryAt? host.directory target = some node

theorem SparesOutput.moveFile_cases {host : Host} {options : Options} {target : String}
    {start : FileTree} {completion : Completion}
    (spares : SparesOutput host options target start)
    (runs : RunsToolchain host options start completion) :
    (∃ moved,
        pathOf (executablePath host options) = .ok (executablePath host options) ∧
        pathOf target = .ok target ∧
        completion.tree.rename host.directory (executablePath host options) target = .ok moved ∧
        completion.tree.moveFile host.breaks host.directory (executablePath host options) target =
          .ok () moved) ∨
      ∃ cause, completion.tree.moveFile host.breaks host.directory (executablePath host options)
        target = .error cause completion.tree :=
  moveFile_of_refused (spares.leavesTree completion runs) host.breaks isSimpleName_binaryName
    (Path.endsIn_join _ isSimpleName_binaryName)
    (spares.refusesCopy completion (executablePath host options) target runs)

section

variable {host : Host} {options : Options} {source output target : String} {start after : FileTree}
  (simple : Path.IsSimpleName ("mob_compile_" ++ host.suffix))
include simple

theorem agree_remove (options : Options) (tree : FileTree) :
    AgreeOutside (InBuild host) tree ((buildDirectory host options).remove host tree) :=
  BuildDirectory.remove_agree simple (Path.endsIn_join _ simple)

theorem agree_prepared {place : Location}
    (prepared : Prepared host (buildDirectory host options).path start after place) :
    AgreeOutside (InBuild host) start after := by
  obtain ⟨above, rfl⟩ := last_of_endsIn simple (Path.endsIn_join _ simple) prepared.holds.named
  exact prepared.agree.mono fun below isBelow => isBelow.subset (by simp)

theorem prepared_or_runs {made : FileTree} {place : Location} {outcome : Except Failure String}
    {commands : List Command}
    (prepared : Prepared host (buildDirectory host options).path start made place)
    (empty : ∀ name, made.get? (place ++ [name]) = none)
    (builds : Built host options source (buildDirectory host options) made outcome after commands) :
    (∃ failure, outcome = .error failure ∧
        Prepared host (buildDirectory host options).path start after place) ∨
      ∃ completion, RunsToolchain host options start completion ∧ after = completion.tree ∧
        commands = [buildCommand host options (buildDirectory host options)] ∧
        ∀ binary, outcome = .ok binary →
          completion.status = .success ∧ binary = executablePath host options := by
  obtain ⟨failure, failed, -, left⟩ | ⟨written, completion, writes, launched, rest⟩ :=
    builds.cases_started simple (Path.endsIn_join _ simple) prepared empty
  · exact .inl ⟨failure, failed, left⟩
  · exact .inr ⟨completion, ⟨place, written, writes, launched⟩, rest⟩

theorem entryAt?_of_built (spares : SparesOutput host options target start) {made : FileTree}
    {place : Location} {outcome : Except Failure String} {commands : List Command}
    (prepared : Prepared host (buildDirectory host options).path start made place)
    (empty : ∀ name, made.get? (place ++ [name]) = none)
    (builds : Built host options source (buildDirectory host options) made outcome after commands) :
    ((buildDirectory host options).remove host after).entryAt? host.directory target =
      start.entryAt? host.directory target := by
  have removed := agree_remove simple options after
  obtain ⟨_, -, left⟩ | ⟨completion, runs, rfl, -⟩ :=
    prepared_or_runs simple prepared empty builds
  · exact spares.past.entryAt? ((agree_prepared simple left).trans removed)
  · rw [(spares.leavesPast completion runs).entryAt? removed, spares.leavesEntry completion runs]

theorem delivered_of_moved {before : World} (last : World) {completion : Completion}
    {moved : FileTree} (spares : SparesOutput host options target before.tree)
    (runs : RunsToolchain host options before.tree completion)
    (succeeded : completion.status = .success)
    (commands : last.commands =
      before.commands ++ [buildCommand host options (buildDirectory host options)])
    (moves : completion.tree.moveFile host.breaks host.directory (executablePath host options)
      target = .ok () moved)
    (removed : last.tree = (buildDirectory host options).remove host moved) :
    ∃ executable place node,
      Delivered host options target before last completion executable place node := by
  obtain ⟨renamed, sourcePath, goalPath, renames, isMoved⟩ | ⟨cause, stops⟩ :=
    spares.moveFile_cases runs
  swap
  · cases moves.symm.trans stops
  cases moves.symm.trans isMoved
  obtain ⟨executable, place, node, fromOld, toNew, left, delivered, agree⟩ := rename_eq_ok renames
  have goalNamed : completion.tree.named? host.directory target = some place :=
    named?_eq_some.mpr ⟨target, goalPath, toNew⟩
  -- the output lies outside the temporary directory, so it is still there without that
  have outside := (spares.leavesPast completion runs).ends place goalNamed
  have removal := agree_remove simple options moved
  have arrived : last.tree.get? place = some node := by
    rw [removed, (removal place outside).1, delivered]
  have changed : AgreeOutside
      (fun other => InBuild host other ∨ Below executable other ∨ Below place other)
      completion.tree last.tree := by
    rw [removed]
    exact (agree.mono fun _ => .inr).trans (removal.mono fun _ => .inl)
  exact ⟨executable, place, node, {
    started := runs
    commands := commands
    succeeded := succeeded
    built := named?_eq_some.mpr ⟨_, sourcePath, fromOld⟩
    left := left
    goal := goalNamed
    delivered := arrived
    reached := fun way => by rw [entryAt?, way last.tree changed, Option.bind_some, arrived] }⟩

end

/-- Compiling is all or nothing: if it succeeds then the toolchain was started and has succeeded,
and what it left as the executable is the entry at the output; if it fails, whatever the stage, the
entry at the output is as it was. -/
theorem compile_delivers_or_keeps (host : Host) (options : Options) (source output : String)
    (world : World) (isTree : world.tree.IsTree)
    (alphanumeric : host.suffix.toList.all Char.isAlphanum = true)
    (spares : ∀ target, host.absolute output = .ok target →
      SparesOutput host options target world.tree) :
    match compile host options source output world with
    | .ok _ after => ∃ target completion executable place node,
        host.absolute output = .ok target ∧
        Delivered host options target world after completion executable place node
    | .error _ after => outputAt? host output after.tree = outputAt? host output world.tree := by
  have simple := Operation.isSimpleName_kind (.compile source output) alphanumeric
  have ends := Path.endsIn_join (Path.join host.directory.path (scratchRoot host options)) simple
  obtain ⟨cause, runs⟩ | ⟨directory, made, outcome, after, commands, makes, performed, runs⟩ :=
    perform_runs host options (.compile source output) world.tree
  · obtain ⟨more, ran, -⟩ := runs world.events
    rw [show compile host options source output world = _ from ran]
    rfl
  · obtain ⟨more, ran, started⟩ := runs world.events
    rw [show compile host options source output world = _ from ran]
    obtain ⟨same, place, named, prepared, empty⟩ := Prepared.make simple ends
      (makeDirectory_eq_ok.mp makes).2
      fun place _ absent below isBelow => isTree.absent_below absent isBelow
    change Prepared host (buildDirectory host options).path world.tree made place at prepared
    obtain rfl : directory = buildDirectory host options := same
    -- nothing before the move touches the output, and the move is the last thing that can fail
    cases performed with
    | stopped builds =>
        dsimp only [Job.result]
        cases absolute : host.absolute output with
        | error cause => rw [outputAt?_of_error absolute, outputAt?_of_error absolute]
        | ok target =>
            rw [outputAt?_of_absolute absolute, outputAt?_of_absolute absolute]
            exact entryAt?_of_built simple (spares target absolute) prepared empty builds
    | @unmoved _ _ target _ _ _ _ _ absolute builds moves =>
        dsimp only [Job.result]
        rw [outputAt?_of_absolute absolute, outputAt?_of_absolute absolute]
        have kept := entryAt?_of_built simple (spares target absolute) prepared empty builds
        obtain ⟨_, failed, -⟩ | ⟨completion, ran, rfl, -, succeeds⟩ :=
          prepared_or_runs simple prepared empty builds
        · cases failed
        obtain ⟨-, rfl⟩ := succeeds _ rfl
        obtain ⟨moved, -, -, -, isMoved⟩ | ⟨cause, stops⟩ :=
          (spares target absolute).moveFile_cases ran
        · cases moves.symm.trans isMoved
        · cases moves.symm.trans stops
          exact kept
    | @moved _ _ target _ _ _ _ absolute builds moves =>
        obtain ⟨_, failed, -⟩ | ⟨completion, ran, rfl, rfl, succeeds⟩ :=
          prepared_or_runs simple prepared empty builds
        · cases failed
        · obtain ⟨succeeded, rfl⟩ := succeeds _ rfl
          obtain ⟨executable, place, node, delivered⟩ :=
            delivered_of_moved simple ⟨_, world.events ++ more⟩ (spares target absolute) ran
              succeeded (by simp [World.commands, started]) moves rfl
          exact ⟨target, completion, executable, place, node, absolute, delivered⟩

/-! ## A build that succeeds -/

namespace Sample

def builder : Host := host "mob_compile_"

def left : FileTree := built "mob_compile_"

theorem runs_eq {completion : Completion} (runs : RunsToolchain builder default tree completion) :
    completion = ⟨left, .success, []⟩ := by
  obtain ⟨_, _, -, launched⟩ := runs
  cases launched
  rfl

theorem executablePath_eq : pathOf (executablePath builder default) =
    .ok "/tmp/mob_compile_a1/program" := by
  decide +kernel

theorem absolute_eq : builder.absolute "out" = .ok "/w/out" := by
  decide +kernel

theorem named?_output {other : FileTree} (kept : other.get? ["w"] = some folder) :
    other.named? ["w"] "/w/out" = some ["w", "out"] := by
  have top (name : String) : other.Enters [] name := ⟨root, rfl, rfl, fun _ => rfl⟩
  have inside : other.Enters ["w"] "out" := ⟨folder, kept, rfl, fun _ => by decide⟩
  have noLink : other.linkAt? ["w"] = none := linkAt?_of_isDirectory kept rfl
  have first : IsEntryName "w" := ⟨by decide, by decide⟩
  have second : IsEntryName "out" := ⟨by decide, by decide⟩
  have way : Leads other false linkLimit [] ["", "w", "out"] ["w", "out"] := by
    refine .stay (top "") (.inl rfl) (.down (top "w") first noLink ?_)
    cases link : other.linkAt? ["w", "out"] with
    | none => exact .down inside second link (.arrived _ _)
    | some target => exact .lastLink inside second link rfl
  refine named?_eq_some.mpr ⟨"/w/out", by decide, ?_⟩
  rw [resolveNew_eq_resolve (by decide), resolve_eq_ok_iff]
  exact ⟨by decide, by decide, way⟩

theorem leadsPast {other : FileTree} (kept : other.get? ["w"] = some folder) :
    other.LeadsPast ["w"] "/w/out" (InBuild builder) where
  way last agree := by
    have outside : ¬InBuild builder ["w"] := by decide
    rw [named?_output kept, named?_output ((agree ["w"] outside).1.trans kept)]
  ends place named := by
    rw [named?_output kept, Option.some.injEq] at named
    subst named
    decide

theorem sparesOutput : SparesOutput builder default "/w/out" tree where
  past := leadsPast rfl
  leavesTree completion runs := by
    obtain rfl := runs_eq runs
    exact isTree_of_names (by decide)
  leavesPast completion runs := by
    obtain rfl := runs_eq runs
    exact leadsPast rfl
  leavesEntry completion runs := by
    obtain rfl := runs_eq runs
    have after : left.entryAt? ["w"] "/w/out" = none := by
      rw [entryAt?, named?_output rfl]
      rfl
    have before : tree.entryAt? ["w"] "/w/out" = none := by
      rw [entryAt?, named?_output rfl]
      rfl
    exact after.trans before.symm
  refusesCopy completion executable goal runs fromPath toPath refused := by
    obtain rfl := runs_eq runs
    cases fromPath.symm.trans executablePath_eq
    cases toPath.symm.trans (by decide : pathOf "/w/out" = .ok "/w/out")
    have moves : (left.rename ["w"] "/tmp/mob_compile_a1/program" "/w/out").toBool = true := by
      decide +kernel
    change left.rename ["w"] _ _ = _ at refused
    rw [refused] at moves
    cases moves

theorem reached {after : World} {completion : Completion} {executable place : Location}
    {node : Inode}
    (delivered : Delivered builder default "/w/out" (.ofTree tree) after completion executable place
      node) : after.tree.entryAt? ["w"] "/w/out" = some node := by
  obtain rfl := runs_eq delivered.started
  have built : left.named? ["w"] (executablePath builder default) =
      some ["tmp", "mob_compile_a1", "program"] := by decide +kernel
  cases built.symm.trans delivered.built
  cases (named?_output rfl).symm.trans delivered.goal
  refine delivered.reached fun other agree => ?_
  have outside : ¬(InBuild builder ["w"] ∨
      Below ["tmp", "mob_compile_a1", "program"] ["w"] ∨ Below ["w", "out"] ["w"]) := by
    simp only [Below]
    decide
  exact named?_output (agree ["w"] outside).1

end Sample

theorem compile_delivers_sample :
    Sample.tree.IsTree ∧ Sample.builder.suffix.toList.all Char.isAlphanum = true ∧
    (∀ target, Sample.builder.absolute "out" = .ok target →
      SparesOutput Sample.builder default target Sample.tree) ∧
    ∃ after completion executable place node,
      compile Sample.builder default "in.mob" "out" (.ofTree Sample.tree) = .ok () after ∧
      Delivered Sample.builder default "/w/out" (.ofTree Sample.tree) after completion executable
        place node ∧
      after.tree.entryAt? ["w"] "/w/out" = some node := by
  have isTree : Sample.tree.IsTree := isTree_of_names (by decide)
  have alphanumeric : "a1".toList.all Char.isAlphanum = true := by decide
  have spares (target : String)
      (absolute : Sample.builder.absolute "out" = .ok target) :
      SparesOutput Sample.builder default target Sample.tree := by
    cases absolute.symm.trans Sample.absolute_eq
    exact Sample.sparesOutput
  have result := compile_delivers_or_keeps Sample.builder default "in.mob" "out"
    (.ofTree Sample.tree) isTree alphanumeric spares
  have succeeds : (match compile Sample.builder default "in.mob" "out" (.ofTree Sample.tree) with
      | .ok _ _ => true
      | .error _ _ => false) = true := by decide +kernel
  refine ⟨isTree, alphanumeric, spares, ?_⟩
  cases ran : compile Sample.builder default "in.mob" "out" (.ofTree Sample.tree) with
  | error failure after =>
      rw [ran] at succeeds
      cases succeeds
  | ok value after =>
      rw [ran] at result
      obtain ⟨target, completion, executable, place, node, absolute, delivered⟩ := result
      cases absolute.symm.trans Sample.absolute_eq
      exact ⟨after, completion, executable, place, node, rfl, delivered, Sample.reached delivered⟩

end CallScript.Compiler
