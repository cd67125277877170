import CallScript.Proofs.Arrival
import CallScript.Proofs.BuildStages

/-!
# What is left behind

Whatever a toolchain and a program do and however they end, an operation of the compiler leaves
nothing of its temporary directory, and a compilation that succeeds changes the entry at its output.
Nothing else is changed, with one exception: where a file or a link stands at the output in a
directory that allows no change, the executable is copied to where the output leads. Such a copy
overwrites a file that can have other names, and it can break off.

* `Compiler.session_leaves_nothing`: for each operation of a session and for the whole of it.
* `Compiler.Invocation.LeavesNothing.only_output`: without the exception.
* `Compiler.not_only_output`: the exception does occur.
-/

namespace CallScript.Compiler

open FileTree

/-! ## One operation -/

/-- An operation with its surroundings and options. -/
structure Invocation where
  host : Host
  options : Options
  operation : Operation

/-- Programs run one after the other. Outside a region each of them is started in the tree that the
one before it has left. -/
inductive History (launch : Launcher) (region : Location → Prop) (start : FileTree) :
    List Command → FileTree → Prop
  | none : History launch region start [] start
  | started {commands : List Command} {left tree : FileTree} {command : Command}
      {completion : Completion} (before : History launch region start commands left)
      (agree : AgreeOutside region left tree) (launched : launch command tree = .ok completion) :
      History launch region start (commands ++ [command]) completion.tree

theorem History.eq_start {launch : Launcher} {region : Location → Prop} {start left : FileTree}
    {commands : List Command} (history : History launch region start commands left)
    (noCommands : commands = []) : left = start := by
  cases history with
  | none => rfl
  | started => simp at noCommands

namespace Invocation

def directory (i : Invocation) : BuildDirectory :=
  ⟨temporaryPath i.host i.options i.operation.kind⟩

def InTemporary (i : Invocation) (start : FileTree) (place : Location) : Prop :=
  ∃ above, start.named? i.host.directory i.directory.path = some above ∧ Below above place

def result (i : Invocation) (before : World) : EStateM.Result Failure World Unit :=
  i.operation.perform i.host i.options before

def after (i : Invocation) (before : World) : World :=
  match i.result before with
  | .ok _ after => after
  | .error _ after => after

def binary (i : Invocation) : String := i.directory.entry binaryName

/-- The absolute path of the output, where there is one. -/
def target? (i : Invocation) : Option String :=
  match i.operation with
  | .compile _ output => (i.host.absolute output).toOption
  | .run _ => none

/-- The location of the entry at the output path. -/
def IsOutput (i : Invocation) (tree : FileTree) (new : Location) : Prop :=
  ∃ target, i.target? = some target ∧ tree.named? i.host.directory target = some new

/-- The entry at the output path with all below it. -/
def InOutput (i : Invocation) (tree : FileTree) (place : Location) : Prop :=
  ∃ new, i.IsOutput tree new ∧ Below new place

/-- The operation succeeds and the location belongs to its output, as seen in the tree that the
toolchain has left. -/
def Delivers (i : Invocation) (before : World) (left : FileTree) (place : Location) : Prop :=
  i.result before = .ok () (i.after before) ∧ i.InOutput left place

/-- The operation succeeds, or it fails by an error of the file system, and the location is a name
of the file that the executable is copied to. -/
def Overwrites (i : Invocation) (before : World) (left : FileTree) (place : Location) : Prop :=
  (i.result before = .ok () (i.after before) ∨
    ∃ cause, i.result before = .error (.scratch cause) (i.after before)) ∧
  ∃ target, i.target? = some target ∧ left.Overwrites i.host.directory i.binary target place

/-- What stands at the output can be taken away, unless it is a directory. -/
def IsReplaceable (i : Invocation) (left : FileTree) : Prop :=
  ∀ target, i.target? = some target → left.IsReplaceable i.host.directory target

/-- A tree that the operation comes to when it has started a program. -/
inductive Reaches (i : Invocation) (start : FileTree) : FileTree → Prop
  | built {made left : FileTree} {outcome : Except Failure String} {commands : List Command}
      (makes : makeDirectory i.host i.options i.operation.kind start = .ok (i.directory, made))
      (builds : Built i.host i.options i.operation.source i.directory made outcome left commands)
      (started : commands ≠ []) : Reaches i start left
  | ended {made left : FileTree} {outcome : Except Failure Unit} {commands : List Command}
      (makes : makeDirectory i.host i.options i.operation.kind start = .ok (i.directory, made))
      (performs : Performed i.host i.options i.directory made i.operation outcome left commands)
      (started : commands ≠ []) : Reaches i start left

/-- The temporary name is new, and the directory can be taken away with whatever the programs have
put into it. -/
structure Allowed (i : Invocation) (start : FileTree) : Prop where
  alphanumeric : i.host.suffix.toList.all Char.isAlphanum = true
  fresh : ∀ place, i.InTemporary start place → start.get? place = none
  removable : ∀ tree place, i.Reaches start tree →
    start.named? i.host.directory i.directory.path = some place →
    BuildDirectory.CanRemove i.host i.directory tree place

/-- Outside of the temporary directory and of a region, which depends on the tree that the programs
have left, everything is as they have left it. -/
def KeepsOutside (i : Invocation) (before : World) (region : FileTree → Location → Prop) : Prop :=
  ∃ commands left, (i.after before).commands = before.commands ++ commands ∧
    History i.host.launch (i.InTemporary before.tree) before.tree commands left ∧
    AgreeOutside (fun place => i.InTemporary before.tree place ∨ region left place) left
      (i.after before).tree

/-- What an operation leaves behind. -/
structure LeavesNothing (i : Invocation) (before : World) : Prop where
  /-- There is no temporary directory any more, nor anything below it. -/
  gone : ∀ place, i.InTemporary before.tree place → (i.after before).tree.get? place = none
  /-- Only the output of a compilation that succeeds is changed, and a file that an output which is
  not replaceable is copied to. -/
  kept : i.KeepsOutside before fun left place => i.Delivers before left place ∨
    i.Overwrites before left place ∧ (left.IsTree → ¬i.IsReplaceable left)
  /-- If none was started, everything is as it was. -/
  untouched : (i.after before).commands = before.commands →
    AgreeOutside (fun _ => False) before.tree (i.after before).tree

theorem after_of_runs {i : Invocation} {before : World} {outcome : Except Failure Unit}
    {tree : FileTree} {commands : List Command}
    (runs : (i.operation.perform i.host i.options).Runs before.tree outcome tree commands) :
    (i.after before).tree = tree ∧ (i.after before).commands = before.commands ++ commands ∧
      i.result before = Job.result outcome (i.after before) := by
  obtain ⟨more, ran, started⟩ := runs before.events
  have result : i.result before = Job.result outcome ⟨tree, before.events ++ more⟩ := ran
  have reached : i.after before = ⟨tree, before.events ++ more⟩ := by
    rw [after, result]
    cases outcome <;> rfl
  rw [reached]
  exact ⟨rfl, by simp [World.commands, started], result⟩

section

variable {i : Invocation} {before : World} {place : Location} {made left last : FileTree}
  {commands : List Command}

theorem inTemporary_iff (named : before.tree.named? i.host.directory i.directory.path = some place)
    (other : Location) : i.InTemporary before.tree other ↔ Below place other := by
  simp [InTemporary, named]

theorem leavesNothing_of_same
    (gone : ∀ place, i.InTemporary before.tree place → before.tree.get? place = none)
    (noCommands : (i.after before).commands = before.commands)
    (same : AgreeOutside (fun _ => False) before.tree (i.after before).tree) :
    i.LeavesNothing before where
  gone place inside := by rw [(same place id).1, gone place inside]
  kept := by
    refine ⟨[], before.tree, ?_, .none, same.mono fun _ => False.elim⟩
    rw [noCommands, List.append_nil]
  untouched _ := same

/-- An operation that is allowed has made its temporary directory at a location. -/
structure HasMade (i : Invocation) (before : World) (made : FileTree) (place : Location) :
    Prop where
  allowed : i.Allowed before.tree
  makes : makeDirectory i.host i.options i.operation.kind before.tree = .ok (i.directory, made)
  named : before.tree.named? i.host.directory i.directory.path = some place
  prepared : Prepared i.host i.directory.path before.tree made place
  empty : ∀ name, made.get? (place ++ [name]) = none

namespace HasMade

theorem of_makes {directory : BuildDirectory} (allowed : i.Allowed before.tree)
    (makes : makeDirectory i.host i.options i.operation.kind before.tree = .ok (directory, made)) :
    directory = i.directory ∧ ∃ place, i.HasMade before made place := by
  have simple := i.operation.isSimpleName_kind allowed.alphanumeric
  obtain ⟨same, place, named, prepared, empty⟩ := Prepared.make simple (Path.endsIn_join _ simple)
    (makeDirectory_eq_ok.mp makes).2 fun place named _ below isBelow =>
      allowed.fresh below ⟨place, named, isBelow⟩
  obtain rfl : directory = i.directory := same
  exact ⟨rfl, place, allowed, makes, named, prepared, empty⟩

variable (has : i.HasMade before made place)
include has

theorem simple : Path.IsSimpleName (i.operation.kind ++ i.host.suffix) :=
  i.operation.isSimpleName_kind has.allowed.alphanumeric

theorem ends : Path.EndsIn i.directory.path (i.operation.kind ++ i.host.suffix) :=
  Path.endsIn_join _ has.simple

theorem proper : place ≠ [] := by
  obtain ⟨above, split⟩ := last_of_endsIn has.simple has.ends has.named
  simp [split]

/-- A build that starts no toolchain has changed nothing outside the temporary directory; otherwise
that can be taken away, and the executable is in it. -/
theorem cases_built {outcome : Except Failure String}
    (builds : Built i.host i.options i.operation.source i.directory made outcome left commands) :
    (∃ failure, outcome = .error failure ∧ commands = [] ∧
        Prepared i.host i.directory.path before.tree left place) ∨
      commands ≠ [] ∧
        History i.host.launch (i.InTemporary before.tree) before.tree commands left ∧
        BuildDirectory.CanRemove i.host i.directory left place ∧
        ∀ binary, outcome = .ok binary → binary = i.binary := by
  obtain unstarted | ⟨written, completion, writes, launched, rfl, rfl, succeeds⟩ :=
    builds.cases_started has.simple has.ends has.prepared has.empty
  · exact .inl unstarted
  have agree : AgreeOutside (i.InTemporary before.tree) before.tree written :=
    writes.agree.mono fun other => (inTemporary_iff has.named other).mpr
  refine .inr ⟨by simp, .started .none agree launched, ?_, fun binary ok => (succeeds binary ok).2⟩
  exact has.allowed.removable _ place (.built has.makes builds (by simp)) has.named

theorem built_ok {binary : String}
    (builds : Built i.host i.options i.operation.source i.directory made (.ok binary) left
      commands) :
    commands ≠ [] ∧
      History i.host.launch (i.InTemporary before.tree) before.tree commands left ∧
      BuildDirectory.CanRemove i.host i.directory left place ∧ binary = i.binary := by
  obtain ⟨_, failed, -⟩ | ⟨ranAny, history, can, isBinary⟩ := has.cases_built builds
  · cases failed
  · exact ⟨ranAny, history, can, isBinary binary rfl⟩

theorem not_isReplaceable (can : BuildDirectory.CanRemove i.host i.directory left place)
    {other : Location} (overwrites : i.Overwrites before left other) (isTree : left.IsTree) :
    ¬i.IsReplaceable left := by
  intro replaceable
  obtain ⟨-, target, isTarget, file, copies, -⟩ := overwrites
  have simple := isSimpleName_binaryName
  have ends : Path.EndsIn i.binary binaryName := Path.endsIn_join _ simple
  refine copies.not_isReplaceable isTree (ends.not_endsInSlash simple)
    (not_endsInDots_of_endsIn simple ends) (fun old named => ?_) (replaceable target isTarget)
  exact (can.named_join has.simple has.ends has.proper simple (by decide) named).2

section

variable (tree : (i.after before).tree = i.directory.remove i.host last)
  (ran : (i.after before).commands = before.commands ++ commands)
include tree ran

theorem leavesNothing_of_history (ranAny : commands ≠ [])
    (history : History i.host.launch (i.InTemporary before.tree) before.tree commands left)
    (can : BuildDirectory.CanRemove i.host i.directory left place)
    (ends : BuildDirectory.CanRemove i.host i.directory last place)
    (agree : AgreeOutside (fun other => Below place other ∨ i.Delivers before left other ∨
      i.Overwrites before left other) left last) : i.LeavesNothing before := by
  obtain ⟨removed, gone⟩ := ends.remove has.simple has.ends has.proper
  rw [← tree] at removed gone
  refine ⟨fun other inside => gone other ((inTemporary_iff has.named other).mp inside),
    ⟨commands, left, ran, history, (agree.trans (removed.mono fun _ => .inl)).mono ?_⟩,
    fun unstarted => ?_⟩
  · rintro other (isBelow | delivers | overwrites)
    · exact .inl ((inTemporary_iff has.named other).mpr isBelow)
    · exact .inr (.inl delivers)
    · exact .inr (.inr ⟨overwrites, has.not_isReplaceable can overwrites⟩)
  · rw [ran, List.append_right_eq_self] at unstarted
    exact absurd unstarted ranAny

theorem leavesNothing_of_prepared (noCommands : commands = [])
    (prepared : Prepared i.host i.directory.path before.tree last place) :
    i.LeavesNothing before := by
  obtain ⟨removed, gone⟩ := prepared.holds.canRemove.remove has.simple has.ends has.proper
  rw [← tree] at removed gone
  refine leavesNothing_of_same has.allowed.fresh (by rw [ran, noCommands, List.append_nil]) ?_
  intro other _
  by_cases inside : Below place other
  · have absent := has.allowed.fresh other ⟨place, has.named, inside⟩
    rw [absent, gone other inside, number?_eq_none absent, number?_eq_none (gone other inside)]
    exact ⟨rfl, rfl⟩
  · exact (prepared.agree.trans removed) other inside

/-- Where nothing is done behind the build, it does not matter how that comes out. -/
theorem leavesNothing_of_built {outcome : Except Failure String}
    (builds : Built i.host i.options i.operation.source i.directory made outcome last commands) :
    i.LeavesNothing before := by
  obtain ⟨_, -, noCommands, prepared⟩ | ⟨ranAny, history, can, -⟩ := has.cases_built builds
  · exact has.leavesNothing_of_prepared tree ran noCommands prepared
  · exact has.leavesNothing_of_history tree ran ranAny history can can (.refl _ _)

end

end HasMade

end

theorem leavesNothing (i : Invocation) (before : World) (allowed : i.Allowed before.tree) :
    i.LeavesNothing before := by
  obtain ⟨cause, runs⟩ | ⟨directory, made, outcome, last, commands, makes, performs, runs⟩ :=
    perform_runs i.host i.options i.operation before.tree
  · obtain ⟨tree, noCommands, -⟩ := after_of_runs runs
    rw [List.append_nil] at noCommands
    exact leavesNothing_of_same allowed.fresh noCommands (tree ▸ .refl _ _)
  obtain ⟨tree, ran, result⟩ := after_of_runs runs
  obtain ⟨rfl, place, has⟩ := HasMade.of_makes allowed makes
  have ended (ranAny : commands ≠ []) : BuildDirectory.CanRemove i.host i.directory last place :=
    allowed.removable last place (.ended makes performs ranAny) has.named
  generalize operationIs : i.operation = operation at performs
  have isTarget {source output target : String} (isCompile : operation = .compile source output)
      (absolute : i.host.absolute output = .ok target) : i.target? = some target := by
    rw [target?, operationIs, isCompile]
    dsimp only
    rw [absolute, Except.toOption]
  -- what the operation itself changes behind the build is the move
  cases performs with
  | stopped builds => exact has.leavesNothing_of_built tree ran (by rwa [operationIs])
  | notStarted builds _ =>
      exact has.leavesNothing_of_built tree ran (by rw [operationIs]; exact builds)
  | @unmoved source output target binary left _ _ _ absolute builds moves =>
      obtain ⟨ranAny, history, can, rfl⟩ := has.built_ok (by rw [operationIs]; exact builds)
      refine has.leavesNothing_of_history tree ran ranAny history can (ended ranAny)
        (moveFile_error_agree ?_ moves)
      exact fun other overwrites =>
        .inr (.inr ⟨.inr ⟨_, result⟩, target, isTarget rfl absolute, overwrites⟩)
  | @moved source output target binary left _ _ absolute builds moves =>
      obtain ⟨ranAny, history, can, rfl⟩ := has.built_ok (by rw [operationIs]; exact builds)
      refine has.leavesNothing_of_history tree ran ranAny history can (ended ranAny)
        (moveFile_ok_agree ?_ moves ?_ ?_)
      · exact fun other overwrites =>
          .inr (.inr ⟨.inl result, target, isTarget rfl absolute, overwrites⟩)
      · exact fun new other goal isBelow =>
          .inr (.inl ⟨result, new, ⟨target, isTarget rfl absolute, goal⟩, isBelow⟩)
      · intro old other executable isBelow
        obtain ⟨rfl, -⟩ := can.named_join has.simple has.ends has.proper isSimpleName_binaryName
          (by decide) executable
        exact .inl ((List.prefix_append place _).trans isBelow)
  | ran builds starts =>
      obtain ⟨-, history, -, -⟩ := has.built_ok (by rw [operationIs]; exact builds)
      have can := ended (by simp)
      exact has.leavesNothing_of_history tree ran (by simp)
        (history.started (.refl _ _) starts) can can (.refl _ _)

/-- Where the output is replaceable, only a compilation that succeeds changes anything but its
temporary directory, and it changes nothing but its output. -/
theorem LeavesNothing.only_output {i : Invocation} {before : World}
    (leaves : i.LeavesNothing before)
    (replaceable : ∀ commands left, (i.after before).commands = before.commands ++ commands →
      History i.host.launch (i.InTemporary before.tree) before.tree commands left →
      left.IsTree ∧ i.IsReplaceable left) : i.KeepsOutside before (i.Delivers before) := by
  obtain ⟨commands, left, ran, history, agree⟩ := leaves.kept
  obtain ⟨isTree, isReplaceable⟩ := replaceable commands left ran history
  refine ⟨commands, left, ran, history, agree.mono fun place => Or.imp_right ?_⟩
  rintro (delivers | ⟨-, notReplaceable⟩)
  · exact delivers
  · exact absurd isReplaceable (notReplaceable isTree)

/-- The node at a location is one that a started program has left there, or it belongs to the output
of the operation, or to a file that the output has been copied to. -/
def Brings (i : Invocation) (before : World) (place : Location) (node : Inode) : Prop :=
  ∃ commands left, (i.after before).commands = before.commands ++ commands ∧
    History i.host.launch (i.InTemporary before.tree) before.tree commands left ∧
    (commands ≠ [] ∧ left.get? place = some node ∨ i.Delivers before left place ∨
      i.Overwrites before left place)

theorem LeavesNothing.origin {i : Invocation} {before : World} (leaves : i.LeavesNothing before)
    {place : Location} {node : Inode} (found : (i.after before).tree.get? place = some node) :
    before.tree.get? place = some node ∨ i.Brings before place node := by
  obtain ⟨commands, left, ran, history, agree⟩ := leaves.kept
  by_cases changed : i.Delivers before left place ∨ i.Overwrites before left place
  · exact .inr ⟨commands, left, ran, history, .inr changed⟩
  have outside : ¬(i.InTemporary before.tree place ∨ i.Delivers before left place ∨
      i.Overwrites before left place ∧ (left.IsTree → ¬i.IsReplaceable left)) := by
    refine not_or.mpr ⟨fun inside => ?_, fun region => changed (region.imp_right And.left)⟩
    rw [leaves.gone place inside] at found
    cases found
  rw [(agree place outside).1] at found
  by_cases unstarted : commands = []
  · exact .inl (history.eq_start unstarted ▸ found)
  · exact .inr ⟨commands, left, ran, history, .inl ⟨unstarted, found⟩⟩

end Invocation

/-! ## Sessions -/

/-- The world after operations one after the other, whether they succeed or not. -/
def session (calls : List Invocation) (world : World) : World :=
  calls.foldl (fun world call => call.after world) world

def AllAllowed (calls : List Invocation) (world : World) : Prop :=
  ∀ front call back, calls = front ++ call :: back → call.Allowed (session front world).tree

/-- Whatever is there after a session was there before it, or an operation has brought it. -/
theorem session_origin {calls : List Invocation} {world : World}
    (leaves : ∀ front call back, calls = front ++ call :: back →
      call.LeavesNothing (session front world))
    {place : Location} {node : Inode}
    (found : (session calls world).tree.get? place = some node) :
    world.tree.get? place = some node ∨ ∃ front call back, calls = front ++ call :: back ∧
      call.Brings (session front world) place node := by
  induction calls using List.reverseRecOn with
  | nil => exact .inl found
  | append_singleton front last ih =>
      rw [session, List.foldl_concat] at found
      rcases (leaves front last [] rfl).origin found with before | brings
      · have earlier (first : List Invocation) (call : Invocation) (back : List Invocation)
            (split : front = first ++ call :: back) : call.LeavesNothing (session first world) :=
          leaves first call (back ++ [last]) (by simp [split])
        obtain start | ⟨first, call, back, split, brings⟩ := ih earlier before
        · exact .inl start
        · exact .inr ⟨first, call, back ++ [last], by simp [split], brings⟩
      · exact .inr ⟨front, last, [], rfl, brings⟩

/-- Each operation of a session leaves nothing of its temporary directory and changes nothing else
but its output, or the file that an output which is not replaceable is copied to. What is there in
the end was there in the beginning, was left by a program that was started, or belongs to an output
or to such a file. -/
theorem session_leaves_nothing (calls : List Invocation) (world : World)
    (allowed : AllAllowed calls world) :
    (∀ front call back, calls = front ++ call :: back →
      call.LeavesNothing (session front world)) ∧
    ∀ place node, (session calls world).tree.get? place = some node →
      world.tree.get? place = some node ∨
        ∃ front call back, calls = front ++ call :: back ∧
          call.Brings (session front world) place node := by
  have leaves (front : List Invocation) (call : Invocation) (back : List Invocation)
      (split : calls = front ++ call :: back) : call.LeavesNothing (session front world) :=
    call.leavesNothing _ (allowed front call back split)
  exact ⟨leaves, fun place node => session_origin leaves⟩

/-! ## A session of two operations -/

namespace Sample

def call (left : FileTree) (operation : Operation) : Invocation :=
  ⟨machine left, default, operation⟩

def calls : List Invocation :=
  [call (built "mob_compile_") (.compile "in.mob" "out"), call (built "mob_run_") (.run "in.mob")]

def place (operation : Operation) : Location := ["tmp", operation.kind ++ "a1"]

section

variable {operation : Operation} {start left tree : FileTree}

theorem left_of_built {source : String} {directory : BuildDirectory} {made : FileTree}
    {outcome : Except Failure String} {commands : List Command}
    (builds : Built (machine left) default source directory made outcome tree commands)
    (started : commands ≠ []) : tree = left := by
  cases builds with
  | notEmitted => exact absurd rfl started
  | notWritten => exact absurd rfl started
  | notStarted => exact absurd rfl started
  | failed _ _ starts _ =>
      cases starts
      rfl
  | built _ _ starts _ =>
      cases starts
      rfl

def canBegin (operation : Operation) (start : FileTree) : Bool :=
  (start.names.all fun name => (start.get? name.1.dropLast).any (·.isDirectory)) &&
    start.named? ["w"] (call start operation).directory.path = some (place operation) &&
    (start.get? (place operation)).isNone

def isRemovable (operation : Operation) (tree : FileTree) : Bool :=
  tree.named? ["w"] (call tree operation).directory.path = some (place operation) &&
    (tree.get? (place operation)).any (·.isDirectory) && tree.isRemovable (place operation)

theorem canRemove (removable : isRemovable operation tree = true) :
    BuildDirectory.CanRemove (machine left) (call left operation).directory tree
      (place operation) := by
  simp only [isRemovable, Bool.and_eq_true, decide_eq_true_eq] at removable
  obtain ⟨⟨named, stands⟩, removable⟩ := removable
  exact .inl ⟨named, (Option.any_eq_true _ _).mp stands, removable⟩

theorem allowed (begins : canBegin operation start = true)
    (leaves : isRemovable operation left = true)
    (moves : ∀ source output target, operation = .compile source output →
      (machine left).absolute output = .ok target →
      isRemovable operation (leftBy (left.moveFile (machine left).breaks ["w"]
        (call left operation).binary target)) = true) :
    (call left operation).Allowed start := by
  simp only [canBegin, Bool.and_eq_true, decide_eq_true_eq, Option.isNone_iff_eq_none] at begins
  obtain ⟨⟨above, named⟩, absent⟩ := begins
  have isTree : start.IsTree := isTree_of_names (List.all_eq_true.mp above)
  refine ⟨(by decide : "a1".toList.all Char.isAlphanum = true), ?_, ?_⟩
  · rintro other ⟨above, found, below⟩
    cases named.symm.trans found
    exact isTree.absent_below absent below
  · intro tree found reaches atPlace
    cases named.symm.trans atPlace
    apply canRemove
    -- only the move changes what the toolchain has left
    have ofMove {source output target binary : String} {tree : FileTree} {commands : List Command}
        {made after : FileTree} {result : EStateM.Result IoError FileTree Unit}
        (isCompile : operation = .compile source output)
        (absolute : (machine left).absolute output = .ok target)
        (builds : Built (machine left) default source (call left operation).directory made
          (.ok binary) tree commands)
        (moved : tree.moveFile (machine left).breaks ["w"] binary target = result)
        (isAfter : leftBy result = after) : isRemovable operation after = true := by
      subst isAfter moved
      cases builds with
      | built _ _ starts _ =>
          cases starts
          exact moves source output target isCompile absolute
    cases reaches with
    | built makes builds started => exact left_of_built builds started ▸ leaves
    | ended makes performs started =>
        generalize operationIs : (call left operation).operation = asked at performs
        cases performs with
        | stopped builds => exact left_of_built builds started ▸ leaves
        | unmoved absolute builds moved => exact ofMove operationIs absolute builds moved rfl
        | moved absolute builds moved => exact ofMove operationIs absolute builds moved rfl
        | notStarted builds _ => exact left_of_built builds started ▸ leaves
        | ran _ starts =>
            cases starts
            exact leaves

end

theorem allowed_compile : (call (built "mob_compile_") (.compile "in.mob" "out")).Allowed tree := by
  refine allowed (by decide +kernel) (by decide +kernel) ?_
  intro source output target same absolute
  cases same
  have goal : (host "mob_compile_").absolute "out" = .ok "/w/out" := by
    decide +kernel
  cases absolute.symm.trans goal
  decide +kernel

theorem allowed_run : (call (built "mob_run_") (.run "in.mob")).Allowed
    (session [call (built "mob_compile_") (.compile "in.mob" "out")] (.ofTree tree)).tree :=
  allowed (by decide +kernel) (by decide +kernel) nofun

end Sample

theorem session_leaves_nothing_sample :
    AllAllowed Sample.calls (.ofTree Sample.tree) ∧
    (∀ front call back, Sample.calls = front ++ call :: back →
      call.LeavesNothing (session front (.ofTree Sample.tree))) ∧
    ∀ place node, (session Sample.calls (.ofTree Sample.tree)).tree.get? place = some node →
      Sample.tree.get? place = some node ∨
        ∃ front call back, Sample.calls = front ++ call :: back ∧
          call.Brings (session front (.ofTree Sample.tree)) place node := by
  have allowed : AllAllowed Sample.calls (.ofTree Sample.tree) := by
    intro front call back split
    rcases front with _ | ⟨first, _ | ⟨second, front⟩⟩
    · cases split
      exact Sample.allowed_compile
    · cases split
      exact Sample.allowed_run
    · simp [Sample.calls] at split
  exact ⟨allowed, session_leaves_nothing Sample.calls (.ofTree Sample.tree) allowed⟩

/-! ## A copy through a link -/

namespace Sample

/-- The output is a link, in a directory that cannot be changed, to a file somewhere else. -/
def linked : FileTree :=
  (((tree.put ["w", "data"] folder).put ["w", "data", "x"] (file "old")).put ["w", "out"]
    ⟨.directory, 0o555, true, 0⟩).put ["w", "out", "o"] ⟨.link "../data/x", 0o777, true, 0⟩

def linkedBuilt : FileTree :=
  (linked.put ["tmp", "mob_compile_a1"] folder).put ["tmp", "mob_compile_a1", "program"]
    (file "binary")

def linkedCall : Invocation := call linkedBuilt (.compile "in.mob" "out/o")

theorem linked_target : linkedCall.host.absolute "out/o" = .ok "/w/out/o" := by decide +kernel

theorem allowed_linked : linkedCall.Allowed linked := by
  refine allowed (by decide +kernel) (by decide +kernel) ?_
  intro source output target same absolute
  cases same
  cases absolute.symm.trans linked_target
  decide +kernel

end Sample

/-- A compilation that succeeds can change a file that is not at its output. -/
theorem not_only_output : ¬∀ (i : Invocation) (before : World), i.Allowed before.tree →
    i.KeepsOutside before (i.Delivers before) := by
  intro keeps
  let x : Location := ["w", "data", "x"]
  obtain ⟨commands, left, ran, history, agree⟩ :=
    keeps Sample.linkedCall (.ofTree Sample.linked) Sample.allowed_linked
  obtain ⟨started, rewritten⟩ : let after := Sample.linkedCall.after (.ofTree Sample.linked)
      after.commands ≠ [] ∧
        (after.tree.get? x).map Inode.content ≠ (Sample.linkedBuilt.get? x).map Inode.content := by
    decide +kernel
  have isLeft : left = Sample.linkedBuilt := by
    cases history with
    | none => exact absurd ran started
    | started _ _ launched =>
        cases launched
        rfl
  subst isLeft
  have outside : ¬(Sample.linkedCall.InTemporary Sample.linked x ∨
      Sample.linkedCall.Delivers (.ofTree Sample.linked) Sample.linkedBuilt x) := by
    rintro (⟨above, named, below⟩ | ⟨-, new, ⟨target, isTarget, named⟩, below⟩)
    · cases named.symm.trans (by decide +kernel : _ = some ["tmp", "mob_compile_a1"])
      exact (by decide : ¬["tmp", "mob_compile_a1"] <+: x) below
    · rw [Invocation.target?] at isTarget
      cases isTarget.symm.trans (by decide +kernel : _ = some "/w/out/o")
      cases named.symm.trans (by decide +kernel : _ = some ["w", "out", "o"])
      exact (by decide : ¬["w", "out", "o"] <+: x) below
  exact rewritten (congrArg _ (agree x outside).1)

end CallScript.Compiler
