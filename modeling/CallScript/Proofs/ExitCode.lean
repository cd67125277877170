import CallScript.CommandLine
import CallScript.Proofs.FirstFailure

/-!
# Exit codes and reports

How the command line ends, compared with how the operation of the compiler that it was asked for
comes out by itself. The operation never prints and never takes success for a failure, whatever has
happened before it and whatever the programs do that it starts.

* `Job.Within`: what a job adds to what has happened, and how it may fail.
* `CommandLine.reported_of_performs`: one report for all operations.
* `CommandLine.run_reports`: what running the command line shows.
-/

namespace CallScript

/-! ## Events -/

def Event.isPrinted : Event → Bool
  | .printed _ _ => true
  | _ => false

def Event.isLogged : Event → Bool
  | .logged _ => true
  | _ => false

theorem Event.isPrinted_of_isLogged {event : Event} (logged : event.isLogged = true) :
    event.isPrinted = false := by
  cases event with
  | logged => rfl
  | started | wrote | printed => cases logged

def Event.writtenOn (stream : Stream) : Event → ByteArray
  | .wrote target content => if target = stream then content else .empty
  | _ => .empty

def World.written (world : World) (stream : Stream) : ByteArray :=
  world.events.foldl (fun content event => content ++ event.writtenOn stream) .empty

/-- A program that has succeeded has not failed. -/
def Failure.IsGenuine (failure : Failure) : Prop := failure ≠ .programFailed .success

theorem Failure.IsGenuine.code_ne_zero {code : Int}
    (genuine : (programFailed (.exited code)).IsGenuine) : code ≠ 0 := by
  rintro rfl
  exact genuine rfl

/-! ## What jobs do to the world -/

namespace Job

theorem result_inj {α : Type} {outcome other : Except Failure α} {after last : World}
    (same : result outcome after = result other last) : outcome = other ∧ after = last := by
  cases outcome <;> cases other <;> cases same <;> exact ⟨rfl, rfl⟩

/-- From a tree, whatever has happened before, the job comes to the same end. It adds events of the
given kind only, and its failure is a genuine one. -/
def ComesToEnd {α : Type} (allowed : Event → Prop) (job : Job α) (tree : FileTree) : Prop :=
  ∃ outcome after more,
    (∀ events, job ⟨tree, events⟩ = result outcome ⟨after, events ++ more⟩) ∧
    (∀ event ∈ more, allowed event) ∧ ∀ failure, outcome = .error failure → failure.IsGenuine

def Within {α : Type} (allowed : Event → Prop) (job : Job α) : Prop :=
  ∀ tree, ComesToEnd allowed job tree

section

variable {α β : Type} {allowed other : Event → Prop} {job : Job α} {next : α → Job β}

theorem ComesToEnd.ok {tree after : FileTree} {value : α}
    (ran : ∀ events, job ⟨tree, events⟩ = .ok value ⟨after, events⟩) :
    ComesToEnd allowed job tree :=
  ⟨.ok value, after, [], fun events => by rw [ran, List.append_nil]; rfl, by simp, nofun⟩

theorem ComesToEnd.error {tree after : FileTree} {failure : Failure} (genuine : failure.IsGenuine)
    (ran : ∀ events, job ⟨tree, events⟩ = .error failure ⟨after, events⟩) :
    ComesToEnd allowed job tree := by
  refine ⟨.error failure, after, [], fun events => by rw [ran, List.append_nil]; rfl, by simp, ?_⟩
  rintro _ ⟨⟩
  exact genuine

namespace Within

theorem mono (within : Within allowed job) (weaker : ∀ event, allowed event → other event) :
    Within other job := by
  intro tree
  obtain ⟨outcome, after, more, ran, adds, genuine⟩ := within tree
  exact ⟨outcome, after, more, ran, fun event member => weaker event (adds event member), genuine⟩

theorem bind (first : Within allowed job) (second : ∀ value, Within allowed (next value)) :
    Within allowed (job >>= next) := by
  intro tree
  obtain ⟨outcome, middle, more, ran, adds, genuine⟩ := first tree
  cases outcome with
  | error failure =>
      refine ⟨.error failure, middle, more, fun events => ?_, adds, ?_⟩
      · change EStateM.bind job next _ = _
        rw [EStateM.bind, ran]
        rfl
      · rintro _ ⟨⟩
        exact genuine failure rfl
  | ok value =>
      obtain ⟨outcome, after, last, ranOn, addsOn, genuineOn⟩ := second value middle
      refine ⟨outcome, after, more ++ last, fun events => ?_, fun event member => ?_, genuineOn⟩
      · change EStateM.bind job next _ = _
        rw [EStateM.bind, ran, ← List.append_assoc]
        exact ranOn (events ++ more)
      · exact (List.mem_append.mp member).elim (adds event) (addsOn event)

theorem pure (value : α) : Within allowed (Pure.pure value : Job α) :=
  fun _ => .ok fun _ => rfl

theorem throw {failure : Failure} (genuine : failure.IsGenuine) :
    Within allowed (MonadExcept.throw failure : Job α) :=
  fun _ => .error genuine fun _ => rfl

theorem logAll (logs : ∀ record, allowed (.logged record)) (records : List Log.Record) :
    Within allowed (Job.logAll records) :=
  fun tree => ⟨.ok (), tree, records.map .logged, fun _ => rfl, by simp [logs], nofun⟩

theorem log (logs : ∀ record, allowed (.logged record)) (level : Log.Level)
    (origin message : String) : Within allowed (Job.log level origin message) :=
  .logAll logs _

theorem query (cause : IoError → Failure) (operation : FileTree → Except IoError α)
    (genuine : ∀ error, (cause error).IsGenuine) : Within allowed (Job.query cause operation) := by
  intro tree
  cases answer : operation tree with
  | ok value => exact .ok fun events => by rw [Job.query, answer]
  | error error => exact .error (genuine error) fun events => by rw [Job.query, answer]

theorem change (cause : IoError → Failure) (operation : FileTree → Except IoError FileTree)
    (genuine : ∀ error, (cause error).IsGenuine) :
    Within allowed (Job.change cause operation) := by
  intro tree
  cases answer : operation tree with
  | ok changed => exact .ok fun events => by rw [Job.change, answer]
  | error error => exact .error (genuine error) fun events => by rw [Job.change, answer]

theorem attempt (cause : IoError → Failure)
    (operation : FileTree → EStateM.Result IoError FileTree Unit)
    (genuine : ∀ error, (cause error).IsGenuine) :
    Within allowed (Job.attempt cause operation) := by
  intro tree
  cases answer : operation tree with
  | ok _ changed => exact .ok fun events => by rw [Job.attempt, answer]
  | error error left => exact .error (genuine error) fun events => by rw [Job.attempt, answer]

theorem start (host : Host) (cause : IoError → Failure) (command : Command)
    (genuine : ∀ error, (cause error).IsGenuine)
    (runs : ∀ command, allowed (.started command))
    (writes : ∀ stream content, allowed (.wrote stream content)) :
    Within allowed (Job.start host cause command) := by
  intro tree
  cases launched : host.launch command tree with
  | ok completion =>
      refine ⟨.ok completion.status, completion.tree,
        .started command :: completion.written.map fun part => .wrote part.1 part.2,
        fun events => by rw [Job.start, launched]; rfl, ?_, nofun⟩
      intro event member
      rcases List.mem_cons.mp member with rfl | member
      · exact runs command
      · obtain ⟨part, -, rfl⟩ := List.mem_map.mp member
        exact writes part.1 part.2
  | error error => exact .error (genuine error) fun events => by rw [Job.start, launched]

end Within
end
end Job

/-! ## What the operations of the compiler do -/

namespace Compiler

open Job

theorem withDirectory_within {α : Type} {allowed : Event → Prop} {job : BuildDirectory → Job α}
    (logs : ∀ record, allowed (.logged record)) (host : Host) (options : Options) (kind : String)
    (inside : ∀ directory, Within allowed (job directory)) :
    Within allowed (withDirectory host options kind job) := by
  intro tree
  cases makes : makeDirectory host options kind tree with
  | error cause =>
      have genuine : (Failure.scratch cause).IsGenuine := nofun
      have ran (events : List Event) : withDirectory host options kind job ⟨tree, events⟩ =
          .error (.scratch cause) ⟨tree, events⟩ := by
        delta withDirectory
        rw [makes]
      exact .error genuine ran
  | ok made =>
      obtain ⟨directory, grown⟩ := made
      have body : Within allowed (do
          Job.log .debug origin ("created build directory " ++ Octets.shown directory.path)
          job directory) := .bind (.log logs _ _ _) fun _ => inside directory
      obtain ⟨outcome, after, more, ran, adds, genuine⟩ := body grown
      refine ⟨outcome, directory.remove host after, more, fun events => ?_, adds, genuine⟩
      delta withDirectory
      rw [makes]
      dsimp only
      rw [ran]
      cases outcome <;> rfl

variable (host : Host) (options : Options) (source output : String)

theorem emitFile_within : Within (·.isLogged = true) (emitFile host options source) := by
  have logs (record : Log.Record) : (Event.logged record).isLogged = true := rfl
  refine .bind (.log logs _ _ _) fun _ => .bind (.query _ _ ?_) fun text =>
    .bind (.log logs _ _ _) fun _ => .bind (.logAll logs _) fun _ => ?_
  · exact fun _ => nofun
  · cases (Reading.ofTokens (Token.scan text)).program with
    | error error => exact .throw nofun
    | ok program => exact .bind (.log logs _ _ _) fun _ => .pure _

theorem build_within (toolchain : Toolchain) :
    Within (·.isPrinted = false) (toolchain.buildAt host source output) := by
  refine .bind (.log (fun _ => rfl) _ _ _) fun _ => .bind (.start _ _ _ ?_ ?_ ?_) fun status => ?_
  · exact fun _ => nofun
  · exact fun _ => rfl
  · exact fun _ _ => rfl
  · split
    · exact .pure _
    · exact .throw nofun

theorem buildIn_within (directory : BuildDirectory) :
    Within (·.isPrinted = false) (buildIn host options source directory) := by
  have emits : Within (·.isPrinted = false) (emitFile host options source) :=
    (emitFile_within host options source).mono fun _ => Event.isPrinted_of_isLogged
  refine .bind emits fun code => .bind (.change _ _ ?_) fun _ => .bind (.log ?_ _ _ _) fun _ =>
    .bind (build_within host _ _ _) fun _ => .pure _
  · exact fun _ => nofun
  · exact fun _ => rfl

theorem compile_within :
    Within (·.isPrinted = false) (compile host options source output) := by
  refine .bind (.query _ _ ?_) fun target => withDirectory_within (fun _ => rfl) _ _ _
    fun directory => .bind (buildIn_within host options source directory) fun binary =>
    .bind (.attempt _ _ ?_) fun _ => .log ?_ _ _ _
  · exact fun _ => nofun
  · exact fun _ => nofun
  · exact fun _ => rfl

theorem compileAndRun_within :
    Within (·.isPrinted = false) (compileAndRun host options source) := by
  refine withDirectory_within (fun _ => rfl) _ _ _ fun directory =>
    .bind (buildIn_within host options source directory) fun binary =>
    .bind (.log ?_ _ _ _) fun _ => .bind (.start _ _ _ ?_ ?_ ?_) fun status => ?_
  · exact fun _ => rfl
  · exact fun _ => nofun
  · exact fun _ => rfl
  · exact fun _ _ => rfl
  · -- only here a program's own status is passed on, and only if it is no success
    split
    · exact .pure _
    · next fails => exact .throw fun success => fails (Failure.programFailed.inj success)

end Compiler

/-! ## What is shown -/

namespace CommandLine

section

variable (filter : Log.Filter) (stream : Stream)

theorem foldl_content (content : Event → ByteArray) (events : List Event) (start : ByteArray) :
    events.foldl (fun shown event => shown ++ content event) start =
      start ++ events.foldl (fun shown event => shown ++ content event) .empty := by
  induction events generalizing start with
  | nil => simp
  | cons event events ih =>
      simp only [List.foldl_cons]
      rw [ih, ih (.empty ++ content event), ByteArray.empty_append, ByteArray.append_assoc]

theorem foldl_content_eq_empty {content : Event → ByteArray} {events : List Event}
    (nothing : ∀ event ∈ events, content event = .empty) :
    events.foldl (fun shown event => shown ++ content event) .empty = .empty := by
  induction events with
  | nil => rfl
  | cons event events ih =>
      rw [List.forall_mem_cons] at nothing
      rw [List.foldl_cons, foldl_content, ih nothing.2, nothing.1]
      rfl

theorem shown_append (events more : List Event) :
    shown filter stream (events ++ more) =
      shown filter stream events ++ shown filter stream more := by
  rw [shown, List.foldl_append, foldl_content]
  rfl

theorem shown_eq_empty {events : List Event}
    (nothing : ∀ event ∈ events, shownOn filter stream event = .empty) :
    shown filter stream events = .empty :=
  foldl_content_eq_empty nothing

theorem shown_out {tree : FileTree} {events : List Event}
    (quiet : ∀ event ∈ events, event.isPrinted = false) :
    shown filter .out events = (World.mk tree events).written .out := by
  refine List.foldl_ext _ _ _ fun content event member => ?_
  cases event with
  | printed => cases quiet _ member
  | logged => rfl
  | started => rfl
  | wrote => rfl

end

/-! ## Reports -/

def filterOf (terminal : Terminal) (request : Request) : Log.Filter :=
  (Log.Filter.ofText (filterText terminal request)).1

def warnings (terminal : Terminal) (request : Request) : List Event :=
  (Log.Filter.ofText (filterText terminal request)).2.map fun warning =>
    .printed .err ("warning: " ++ warning.message ++ ", ignoring it\n")

/-- What the command line shows of an operation that by itself prints nothing and comes back with a
result in some world. The command line announces the operation by log records and prints what it has
said of a success. -/
structure Reports {α : Type} (terminal : Terminal) (request : Request)
    (announced : List Log.Record) (context : String) (said : α → Option String)
    (result : Except Failure α) (after : World) (outcome : Outcome) : Prop where
  zero_iff : outcome.code = 0 ↔ ∃ value, result = .ok value
  program_code : ∀ code : Int, result = .error (.programFailed (.exited code)) → 1 ≤ code →
    code ≤ 255 → outcome.code = code
  other_code : ∀ failure, result = .error failure →
    (∀ code : Int, failure = .programFailed (.exited code) → code < 1 ∨ 255 < code) →
    outcome.code = 1
  quiet : ∀ event ∈ after.events, event.isPrinted = false
  /-- The output is that of the programs and, for a success, what is said of it. -/
  out : outcome.out = after.written .out ++
    (match result with
      | .ok value => (said value).getD ""
      | .error _ => "").toUTF8
  /-- Behind the warnings, the log and the messages of the programs, only a failure is reported, in
  one message. -/
  err : outcome.err =
    shown (filterOf terminal request) .err
      (warnings terminal request ++ announced.map .logged ++ after.events) ++
    (match result with
      | .ok _ => ""
      | .error failure => "Error: " ++ (Complaint.failed context failure).message ++ "\n").toUTF8

def Reported {α : Type} (terminal : Terminal) (request : Request) (announced : List Log.Record)
    (context : String) (said : α → Option String) (job : Job α) (tree : FileTree)
    (outcome : Outcome) : Prop :=
  ∃ result after, job (.ofTree tree) = Job.result result after ∧
    Reports terminal request announced context said result after outcome

/-- How a request ends that announces an operation, does it and says something of its success. -/
def conclude {α : Type} (context : String) (said : α → Option String) :
    EStateM.Result Failure World α → EStateM.Result Complaint World Unit
  | .ok value after => .ok () (after.record ((said value).toList.map (.printed .out)))
  | .error failure after => .error (.failed context failure) after

variable {α : Type} {terminal : Terminal} {request : Request} {announced : List Log.Record}
  {context : String} {said : α → Option String} {job : Job α} {tree : FileTree}

theorem exitCode_ne_zero {failure : Failure} (genuine : failure.IsGenuine) :
    (Complaint.failed context failure).exitCode ≠ 0 := by
  unfold Complaint.exitCode
  split
  · next code same =>
      cases same
      have nonzero := genuine.code_ne_zero
      split
      · omega
      · decide
  · decide

theorem exitCode_eq_one {failure : Failure} (genuine : failure.IsGenuine)
    (other : ∀ code : Int, failure = .programFailed (.exited code) → code < 1 ∨ 255 < code) :
    (Complaint.failed context failure).exitCode = 1 := by
  unfold Complaint.exitCode
  split
  · next code same =>
      cases same
      have nonzero := genuine.code_ne_zero
      have outside := other code rfl
      rw [if_neg (by omega)]
  · rfl

theorem execute_eq (terminal : Terminal) (request : Request) (tree : FileTree) :
    execute terminal request tree =
      match perform terminal request ⟨tree, warnings terminal request⟩ with
      | .ok _ world =>
          (⟨0, shown (filterOf terminal request) .out world.events,
            shown (filterOf terminal request) .err world.events⟩, world.tree)
      | .error complaint world =>
          let events := world.events ++ [.printed .err ("Error: " ++ complaint.message ++ "\n")]
          (⟨complaint.exitCode, shown (filterOf terminal request) .out events,
            shown (filterOf terminal request) .err events⟩, world.tree) := rfl

theorem reported_of_performs (within : job.Within (·.isPrinted = false))
    (performs : ∀ events, perform terminal request ⟨tree, events⟩ =
      conclude context said (job ⟨tree, events ++ announced.map .logged⟩)) :
    Reported terminal request announced context said job tree
      (execute terminal request tree).1 := by
  obtain ⟨result, left, more, ran, quiet, genuine⟩ := within tree
  refine ⟨result, ⟨left, more⟩, ran [], ?_⟩
  -- neither warnings nor announcements are printed, so the output is that of the programs
  have background : shown (filterOf terminal request) .out
      (warnings terminal request ++ announced.map .logged ++ more) =
        (World.mk left more).written .out := by
    have operation : shown (filterOf terminal request) .out more =
        (World.mk left more).written .out := shown_out _ quiet
    rw [shown_append, shown_append, shown_eq_empty, shown_eq_empty, operation]
    · simp
    · simp [shownOn]
    · simp [warnings, shownOn]
  have performed := performs (warnings terminal request)
  rw [ran] at performed
  cases result with
  | ok value =>
      rw [Job.result, conclude] at performed
      rw [execute_eq, performed]
      refine ⟨by simp, nofun, nofun, quiet, ?_, ?_⟩
      · simp only [World.record]
        rw [shown_append, background]
        cases said value <;> rfl
      · simp only [World.record]
        rw [shown_append]
        cases said value <;> rfl
  | error failure =>
      rw [Job.result, conclude] at performed
      rw [execute_eq, performed]
      refine ⟨by simp [exitCode_ne_zero (genuine failure rfl)], ?_, ?_, quiet, ?_, ?_⟩
      · rintro code ⟨⟩ low high
        simp only [Complaint.exitCode, if_pos (show 0 ≤ code ∧ code ≤ 255 by omega)]
        omega
      · rintro _ ⟨⟩ other
        exact exitCode_eq_one (genuine failure rfl) other
      · simp only
        rw [shown_append, background]
        rfl
      · simp only
        rw [shown_append]
        rfl

theorem log_then (level : Log.Level) (message : String) (next : Task Unit) (tree : FileTree)
    (events : List Event) :
    (do log level message; next) ⟨tree, events⟩ =
      next ⟨tree, events ++ [.logged ⟨level, origin, message⟩]⟩ := rfl

theorem attempt_eq_conclude (job : Job Unit) (world : World) :
    attempt context job world = conclude context (fun _ => none) (job world) := by
  change EStateM.adaptExcept _ job world = _
  unfold EStateM.adaptExcept
  cases job world with
  | ok value after => simp [conclude, World.record]
  | error failure after => rfl

theorem attempt_print_eq_conclude (context : String) (job : Job α) (text : α → String)
    (world : World) :
    (attempt context job >>= fun value => print (text value)) world =
      conclude context (fun value => some (text value)) (job world) := by
  change EStateM.bind (EStateM.adaptExcept _ job) _ world = _
  unfold EStateM.bind EStateM.adaptExcept
  cases job world <;> rfl

/-! ## The requests -/

theorem reported_run {file : String} (performs : perform terminal request =
      runFile terminal.host request.options file) :
    Reported terminal request [⟨.info, origin, "running " ++ file⟩] ("failed to run " ++ file)
      (fun _ => none) (Compiler.compileAndRun terminal.host request.options file) tree
      (execute terminal request tree).1 := by
  refine reported_of_performs (Compiler.compileAndRun_within _ _ file) fun events => ?_
  rw [performs, runFile, log_then]
  exact attempt_eq_conclude _ _

theorem reported_build {file output : String} (action : request.action = .build file output) :
    Reported terminal request
      [⟨.info, origin, "building " ++ file ++ " for " ++ request.options.target.name⟩]
      ("failed to build " ++ file)
      (fun _ => some ("Build successful! Output: " ++ output ++ "\n"))
      (Compiler.compile terminal.host request.options file output) tree
      (execute terminal request tree).1 := by
  refine reported_of_performs (Compiler.compile_within _ _ file output) fun events => ?_
  simp only [perform, action, log_then]
  exact attempt_print_eq_conclude _ _ (fun _ => "Build successful! Output: " ++ output ++ "\n") _

theorem reported_emit {file : String} (action : request.action = .emit file) :
    Reported terminal request [] ("failed to compile " ++ file) some
      (Compiler.emitFile terminal.host request.options file) tree
      (execute terminal request tree).1 := by
  have within := (Compiler.emitFile_within terminal.host request.options file).mono
    fun _ => Event.isPrinted_of_isLogged
  refine reported_of_performs within fun events => ?_
  simp only [perform, action, List.map_nil, List.append_nil]
  exact attempt_print_eq_conclude _ _ id _

theorem written_of_emitFile {host : Host} {options : Options} {file : String}
    {result : Except Failure String} {after : World} (stream : Stream)
    (emits : Compiler.emitFile host options file (.ofTree tree) = Job.result result after) :
    after.written stream = .empty := by
  obtain ⟨outcome, left, more, ran, logs, -⟩ := Compiler.emitFile_within host options file tree
  obtain ⟨-, rfl⟩ := Job.result_inj (emits.symm.trans (ran []))
  refine foldl_content_eq_empty fun event member => ?_
  have logged := logs event member
  cases event with
  | logged => rfl
  | started | wrote | printed => cases logged

theorem execute_unknown {name : String} (action : request.action = .external name)
    (other : Path.extension? name ≠ some "mob") :
    (execute terminal request tree).1 =
      ⟨1, .empty, shown (filterOf terminal request) .err (warnings terminal request) ++
        ("Error: unknown command: " ++ name ++ "\n").toUTF8⟩ := by
  have performs : perform terminal request ⟨tree, warnings terminal request⟩ =
      .error (.unknownCommand name) ⟨tree, warnings terminal request⟩ := by
    simp only [perform, action, if_neg other]
    rfl
  have noOutput : shown (filterOf terminal request) .out (warnings terminal request) = .empty :=
    shown_eq_empty _ _ (by simp [warnings, shownOn])
  simp only [execute_eq, performs, shown_append, noOutput]
  rfl

/-- The command line tells the truth about the operation that it was asked for: in its exit code, in
what it prints and in what it reports. The name of a file stands for its run; any other name that is
no command is refused. -/
theorem run_reports (terminal : Terminal) {args : List String} {request : Request}
    (accepted : Request.ofArguments args = .ok request) (tree : FileTree) :
    let host := terminal.host
    let options := request.options
    let outcome := (run terminal args tree).1
    let ReportsRun (file : String) := Reported terminal request
      [⟨.info, origin, "running " ++ file⟩] ("failed to run " ++ file) (fun _ => none)
      (Compiler.compileAndRun host options file) tree outcome
    match request.action with
    | .run file => ReportsRun file
    | .build file output => Reported terminal request
        [⟨.info, origin, "building " ++ file ++ " for " ++ options.target.name⟩]
        ("failed to build " ++ file)
        (fun _ => some ("Build successful! Output: " ++ output ++ "\n"))
        (Compiler.compile host options file output) tree outcome
    | .emit file =>
        Reported terminal request [] ("failed to compile " ++ file) some
          (Compiler.emitFile host options file) tree outcome ∧
        ∀ code after, Compiler.emitFile host options file (.ofTree tree) = .ok code after →
          outcome.out = code.toUTF8
    | .external name =>
        if Path.extension? name = some "mob" then ReportsRun name
        else
          outcome = ⟨1, .empty,
            shown (filterOf terminal request) .err (warnings terminal request) ++
              ("Error: unknown command: " ++ name ++ "\n").toUTF8⟩
    | .version | .info => True := by
  intro host options outcome ReportsRun
  have executed : outcome = (execute terminal request tree).1 := by
    simp only [outcome, run, accepted]
  simp only [ReportsRun, executed]
  split
  · next file action => exact reported_run (by simp only [perform, action])
  · next file output action => exact reported_build action
  · next file action =>
      have reported : Reported terminal request [] ("failed to compile " ++ file) some
          (Compiler.emitFile host options file) tree (execute terminal request tree).1 :=
        reported_emit action
      refine ⟨reported, fun code after emits => ?_⟩
      obtain ⟨result, last, ran, reports⟩ := reported
      have same : Job.result (.ok code) after = Job.result result last := emits.symm.trans ran
      obtain ⟨rfl, rfl⟩ := Job.result_inj same
      rw [reports.out, written_of_emitFile .out ran, ByteArray.empty_append]
      rfl
  · next name action =>
      split
      · next isMob => exact reported_run (by simp only [perform, action, if_pos isMob])
      · next other => exact execute_unknown action other
  · trivial
  · trivial

namespace Sample

def exiting (code : Int) : Terminal where
  host :=
    { Compiler.Sample.host "mob_run_" with
      launch := fun command _ => .ok ⟨Compiler.Sample.built "mob_run_",
        if command.program = "rustc" then .success else .exited code, []⟩ }
  logFilter? := none
  platform := "linux x86_64"

end Sample

/-- The exit code of a program is passed on if it fits into a byte. -/
theorem run_reports_sample :
    Request.ofArguments ["run", "in.mob"] = .ok ⟨.run "in.mob", default, false⟩ ∧
    (run (Sample.exiting 3) ["run", "in.mob"] Compiler.Sample.tree).1.code = 3 ∧
    (run (Sample.exiting 256) ["run", "in.mob"] Compiler.Sample.tree).1.code = 1 := by
  have accepted : Request.ofArguments ["run", "in.mob"] =
      .ok ⟨.run "in.mob", default, false⟩ := by decide +kernel
  have fails (code : Int) (result : Except Failure Unit) (after : World)
      (ran : Compiler.compileAndRun (Sample.exiting code).host default "in.mob"
        (.ofTree Compiler.Sample.tree) = Job.result result after) :
      result = Job.outcome (Compiler.compileAndRun (Sample.exiting code).host default "in.mob"
        (.ofTree Compiler.Sample.tree)) := by rw [ran, Job.outcome_result]
  refine ⟨accepted, ?_, ?_⟩
  · obtain ⟨result, after, ran, reports⟩ := run_reports (Sample.exiting 3) accepted
      Compiler.Sample.tree
    have failed := (fails 3 result after ran).trans
      (show _ = .error (.programFailed (.exited 3)) by decide +kernel)
    have passedOn := reports.program_code 3 failed (by decide) (by decide)
    omega
  · obtain ⟨result, after, ran, reports⟩ := run_reports (Sample.exiting 256) accepted
      Compiler.Sample.tree
    have failed := (fails 256 result after ran).trans
      (show _ = .error (.programFailed (.exited 256)) by decide +kernel)
    exact reports.other_code _ failed (by rintro _ ⟨⟩; decide)

end CommandLine
end CallScript
