import CallScript.Proofs.Arrival
import CallScript.Proofs.FirstFailure

/-!
# What a compilation comes to

A builder is a toolchain that does nothing but write an executable. With it the outcome of a
compilation, and the tree that it leaves, can be read off the tree that it starts in.

* `Compiler.Compilation.verdict`: why a compilation fails, or what it puts where.
* `Compiler.Compilation.comes_to_verdict`: a compilation does that, and nothing else.
-/

namespace CallScript

open Refusal

namespace FileTree

variable {tree start after : FileTree} {place old new : Location} {node : Inode}

theorem IsTree.put (isTree : tree.IsTree) (absent : tree.get? place = none)
    (above : ∃ node, tree.get? place.dropLast = some node ∧ node.isDirectory = true)
    (node : Inode) : (tree.put place node).IsTree := by
  intro spot name present
  by_cases same : spot ++ [name] = place
  · obtain ⟨parent, found, isDirectory⟩ := above
    rw [← same, List.dropLast_concat] at found
    exact ⟨parent, get?_put_of_absent absent found, isDirectory⟩
  · rw [get?_put, if_neg (by simp), if_neg same] at present
    obtain ⟨parent, found, isDirectory⟩ := isTree spot name present
    exact ⟨parent, get?_put_of_absent absent found, isDirectory⟩

theorem IsFree.move (free : tree.IsFree place) (inside : Below place old) (new : Location) :
    (tree.move old new).IsFree place := by
  intro name member isBelow node found isDirectory
  rcases List.mem_append.mp member with moved | kept
  · obtain ⟨other, fromOld, rfl⟩ := List.mem_map.mp moved
    obtain ⟨known, belowOld⟩ := List.mem_filter.mp fromOld
    have isBelow : Below place other.1 := inside.trans (List.isPrefixOf_iff_prefix.mp belowOld)
    exact free other known isBelow node found isDirectory
  · have known := (List.mem_filter.mp (List.mem_filter.mp kept).1).1
    exact free name known isBelow node found isDirectory

section

variable {directory : Location} {path fresh : String}

theorem not_mem_of_wayTo (avoid : tree.LinksAvoid fresh) (outside : fresh ∉ directory)
    (unnamed : fresh ∉ Path.pieces path) :
    ∀ place ∈ tree.wayTo directory path, fresh ∉ place :=
  not_mem_of_way avoid outside fun member => unnamed (Path.mem_pieces_trimSlashes member)

theorem not_mem_of_named (avoid : tree.LinksAvoid fresh) (outside : fresh ∉ directory)
    (unnamed : fresh ∉ Path.pieces path)
    (named : tree.named? directory path = some new) : fresh ∉ new := by
  obtain ⟨octets, octetPath, resolved⟩ := named?_eq_some.mp named
  obtain rfl := pathOf_eq_ok octetPath
  obtain ⟨-, rfl⟩ | resolved := resolveNew_eq_ok resolved
  · simp
  · exact not_mem_of_resolve avoid outside
      (fun member => unnamed (Path.mem_pieces_trimSlashes member)) resolved

end

/-- Nothing in the tree has the name, and no link leads to it. -/
structure IsUnused (tree : FileTree) (name : String) : Prop where
  absent : ∀ place, name ∈ place → tree.get? place = none
  links : tree.LinksAvoid name

theorem isUnused_of_names {name : String}
    (unnamed : tree.names.all (fun entry => !entry.1.contains name) = true)
    (unlinked : tree.names.all (fun entry => (tree.linkAt? entry.1).all
      fun target => !(Path.pieces target).contains name) = true) : tree.IsUnused name := by
  have known {place : Location} {node : Inode} (found : tree.get? place = some node)
      (proper : place ≠ []) : ∃ number, (place, number) ∈ tree.names := by
    obtain ⟨number, member, -⟩ := exists_mem_names found proper
    exact ⟨number, member⟩
  refine ⟨fun place member => ?_, fun place target link member => ?_⟩
  · by_contra present
    obtain ⟨node, found⟩ := Option.ne_none_iff_exists'.mp present
    obtain ⟨number, entry⟩ := known found (List.ne_nil_of_mem member)
    simpa [member] using List.all_eq_true.mp unnamed _ entry
  · obtain ⟨node, found, isLink⟩ := Option.bind_eq_some_iff.mp link
    have proper : place ≠ [] := by
      rintro rfl
      cases found
      cases isLink
    obtain ⟨number, entry⟩ := known found proper
    have clean := List.all_eq_true.mp unlinked _ entry
    rw [link] at clean
    simp [member] at clean

theorem number?_put_alone (tree : FileTree) (node : Inode) (other : Location)
    (same : (tree.put place node).number? other = (tree.put place node).number? place) :
    other = place := by
  by_contra differ
  rw [number?_put, number?_put, if_neg differ, if_pos rfl] at same
  exact absurd (number?_lt same) (Nat.lt_irrefl _)

/-- Nothing is changed. -/
structure Same (start after : FileTree) : Prop where
  view : AgreeOutside (fun _ => False) start after
  now : after.now = start.now

/-- Nothing is changed but that a location has a new node, which has no other name. -/
structure Gains (start : FileTree) (new : Location) (node : Inode) (after : FileTree) : Prop where
  others : AgreeOutside (· = new) start after
  there : after.get? new = some node
  single : ∀ place, after.number? place = after.number? new → place = new
  now : after.now = start.now

end FileTree

namespace BuildDirectory

open FileTree

variable {host : Host} {directory : BuildDirectory} {tree : FileTree} {place : Location}
  {path name file : String}

theorem remove_now (simple : Path.IsSimpleName name) (ends : Path.EndsIn directory.path name) :
    (directory.remove host tree).now = tree.now := by
  have removes : directory.remove host tree = tree ∨ ∃ place node,
      tree.named? host.directory directory.path = some place ∧ tree.get? place = some node ∧
      directory.remove host tree = tree.erase place := remove_eq simple ends
  obtain kept | ⟨place, node, -, -, erased⟩ := removes
  · rw [kept]
  · rw [erased]
    rfl

theorem pathOf_join {octets : String} (simple : Path.IsSimpleName name)
    (ends : Path.EndsIn path name) (fileSimple : Path.IsSimpleName file)
    (noNul : '\x00' ∉ file.toList) (octetPath : pathOf path = .ok octets) :
    pathOf (Path.join path file) = .ok (Path.join path file) := by
  rw [pathOf] at octetPath
  split at octetPath
  · cases octetPath
  next clean =>
  rw [pathOf, if_neg]
  rw [ends.join simple fileSimple]
  simp_all

theorem Holds.writeText_result (holds : Holds host path tree place)
    (simple : Path.IsSimpleName name) (ends : Path.EndsIn path name) {text : String}
    (fileSimple : Path.IsSimpleName file) (isName : IsEntryName file) (noNul : '\x00' ∉ file.toList)
    (absent : tree.get? (place ++ [file]) = none) :
    tree.writeText host.directory (Path.join path file) text =
      if pathLimit ≤ (Path.join path file).length then .error (.os .nameTooLong)
      else .ok (tree.put (place ++ [file])
        (tree.newNode (.file text.toUTF8) (masked fileMode standardMask))) := by
  obtain ⟨octets, octetPath, -⟩ := (named?_of_endsIn simple ends).mp holds.named
  have fileEnds := Path.endsIn_join path fileSimple
  rw [FileTree.writeText, pathOf_join simple ends fileSimple noNul octetPath]
  dsimp only [bind, Except.bind]
  rw [writeBytes]
  split
  · next long =>
      have stops : tree.resolve host.directory (Path.join path file) true =
          .error .nameTooLong := by
        rw [resolve, fileEnds.not_isEmpty fileSimple]
        simp [long]
      rw [resolveFile, fileEnds.not_endsInSlash fileSimple, stops]
      simp [bind, Except.bind, Except.mapError]
  · next short =>
      have resolved : tree.resolve host.directory (Path.join path file) true =
          .ok (place ++ [file]) :=
        holds.resolve_entry simple ends fileSimple isName (.inl (linkAt?_of_absent absent))
          (Nat.lt_of_not_le short)
      have free : tree.resolveFile host.directory (Path.join path file) =
          .ok (place ++ [file]) := by
        rw [resolveFile_of_resolve (fileEnds.not_endsInSlash fileSimple) resolved, absent]
        simp [holds.isChangeable_entry file]
      rw [free]
      dsimp only [bind, Except.bind]
      rw [overwrite, number?_eq_none absent]
      rfl

end BuildDirectory

/-! ## Toolchains that only build -/

namespace Compiler

open FileTree BuildDirectory

/-- How toolchains build that do nothing but look up their own program, read the text that they are
given and write an executable. -/
structure Builder where
  lookedUp : String → FileTree → List Location
  /-- Why a program cannot be started. -/
  refusal? : String → FileTree → Option IoError
  /-- What a program makes of a text, with its mode, or the status with which it fails. -/
  build : String → Target → String → Except ExitStatus (ByteArray × Nat)
  lookedUp_congr : ∀ program tree other, AgreeAt (lookedUp program tree) tree other →
    lookedUp program other = lookedUp program tree
  refusal?_congr : ∀ program tree other, AgreeAt (lookedUp program tree) tree other →
    refusal? program other = refusal? program tree
  fails : ∀ program target text status, build program target text = .error status →
    status ≠ .success

def Builder.leaves (b : Builder) (toolchain : Toolchain) (text : String) (place : Location)
    (tree : FileTree) : FileTree × ExitStatus :=
  match b.build toolchain.program toolchain.target text with
  | .ok (content, mode) => (tree.put place (tree.newNode (.file content) mode), .success)
  | .error status => (tree, status)

/-- On the machine toolchains build as the builder does, where they can read the source and make the
executable. -/
def Obeys (host : Host) (b : Builder) : Prop :=
  ∀ (toolchain : Toolchain) (source output : String) (tree : FileTree) (text : String)
    (place : Location),
    tree.readText host.directory source = .ok text →
    tree.named? host.directory output = some place → tree.get? place = none →
    tree.isChangeable place = true →
    let left := b.leaves toolchain text place tree
    match b.refusal? toolchain.program tree with
    | some cause => host.launch (toolchain.buildCommand source output) tree = .error cause
    | none => ∃ written, host.launch (toolchain.buildCommand source output) tree =
        .ok ⟨left.1, left.2, written⟩

def asked? (command : Command) : Option (Target × String × String) :=
  match command.args with
  | [_, _, _, _, _, output, source] => some (.rust, output, source)
  | [_, _, output, source] => some (.go, output, source)
  | _ => none

/-- A machine on which every program is a toolchain and builds as the builder does. -/
def Builder.launcher (b : Builder) (directory : Location) : Launcher := fun command tree =>
  let program := (Octets.toText? command.program).getD command.program
  match b.refusal? program tree with
  | some cause => .error cause
  | none =>
      match asked? command with
      | none => .ok ⟨tree, .exited 1, []⟩
      | some (target, output, source) =>
          match tree.readText directory source, tree.named? directory output with
          | .ok text, some place =>
              let left := b.leaves ⟨target, program⟩ text place tree
              .ok ⟨left.1, left.2, []⟩
          | _, _ => .ok ⟨tree, .exited 1, []⟩

theorem obeys_launcher {host : Host} {b : Builder}
    (launches : host.launch = b.launcher host.directory) : Obeys host b := by
  intro toolchain source output tree text place read named _ _
  have asked : asked? (toolchain.buildCommand source output) =
      some (toolchain.target, output, source) := by
    obtain ⟨target, program⟩ := toolchain
    cases target <;> rfl
  have sameProgram : (Octets.toText? (toolchain.buildCommand source output).program).getD
      (toolchain.buildCommand source output).program = toolchain.program := by
    change (Octets.toText? (Octets.ofText toolchain.program)).getD _ = _
    rw [Octets.toText?_ofText, Option.getD_some]
  rw [launches, Builder.launcher, asked, sameProgram]
  cases b.refusal? toolchain.program tree with
  | some cause => rfl
  | none =>
      dsimp only
      rw [read, named]
      exact ⟨[], rfl⟩

/-! ## The verdict on a compilation -/

structure Compilation where
  host : Host
  options : Options
  source : String
  output : String

namespace Compilation

def call (c : Compilation) : Invocation := ⟨c.host, c.options, .compile c.source c.output⟩

def target (c : Compilation) : Except IoError String :=
  c.host.absolute c.output

def temporary (c : Compilation) : String := c.call.operation.kind ++ c.host.suffix

def program (c : Compilation) : String := c.call.toolchain.program

def executable (c : Compilation) (b : Builder) (tree : FileTree) (text : String) :
    Except Failure Inode :=
  match b.refusal? c.program tree with
  | some cause => .error (.toolchainUnavailable c.program cause)
  | none =>
      match b.build c.program c.call.toolchain.target text with
      | .ok (content, mode) => .ok (tree.newNode (.file content) mode)
      | .error status => .error (.toolchainFailed c.program status)

def product (c : Compilation) (b : Builder) (tree : FileTree) : Except Failure Inode :=
  c.call.emits tree >>= fun text =>
    if pathLimit ≤ c.call.generated.length then
      .error (.scratch (.os .nameTooLong))
    else c.executable b tree text

def delivery (c : Compilation) (tree : FileTree) (target : String) (node : Inode) :
    Except Failure (Location × Inode) :=
  ((tree.arrivalAt c.host.directory target).map fun new => (new, node)).mapError
    fun cause => .scratch (unmoved node cause)

/-- What comes of the compilation when its output has an absolute path. -/
def verdictAt (c : Compilation) (b : Builder) (tree : FileTree) (target : String) :
    Except Failure (Location × Inode) :=
  (makeDirectory c.host c.options c.call.operation.kind tree).mapError Failure.scratch >>= fun _ =>
    c.product b tree >>= c.delivery tree target

/-- Why the compilation fails, or which location it gives to which executable. -/
def verdict (c : Compilation) (b : Builder) (tree : FileTree) :
    Except Failure (Location × Inode) :=
  c.target.mapError Failure.scratch >>= c.verdictAt b tree

theorem verdict_of_target {c : Compilation} {target : String} (isTarget : c.target = .ok target)
    (b : Builder) (tree : FileTree) : c.verdict b tree = c.verdictAt b tree target := by
  rw [verdict, isTarget]
  dsimp only [Except.mapError, bind, Except.bind]

theorem verdict_of_error {c : Compilation} {cause : IoError} (isTarget : c.target = .error cause)
    (b : Builder) (tree : FileTree) : c.verdict b tree = .error (.scratch cause) := by
  rw [verdict, isTarget]
  rfl

end Compilation

/-- What a verdict says of the tree that is left. -/
def Settles (start after : FileTree) : Except Failure (Location × Inode) → Prop
  | .ok (new, node) => Gains start new node after
  | .error _ => Same start after

namespace Compilation

/-- The paths of the compilation do not have the name. -/
structure Avoids (c : Compilation) (b : Builder) (tree : FileTree) (name : String) : Prop where
  directory : name ∉ c.host.directory
  source : name ∉ Path.pieces (Octets.ofText c.source)
  target : ∀ target, c.target = .ok target → name ∉ Path.pieces target
  lookedUp : ∀ place ∈ b.lookedUp c.program tree, name ∉ place

def IsOutput (c : Compilation) (tree : FileTree) (new : Location) : Prop := c.call.IsOutput tree new

def InOutput (c : Compilation) (tree : FileTree) (place : Location) : Prop :=
  c.call.InOutput tree place

theorem isOutput_iff_target {c : Compilation} {tree : FileTree} {new : Location} :
    c.IsOutput tree new ↔
      ∃ target, c.target = .ok target ∧ tree.named? c.host.directory target = some new := by
  simp only [IsOutput, Invocation.IsOutput, Invocation.target?, call, toOption_eq_some, target]

theorem isOutput_of_target {c : Compilation} {tree : FileTree} {target : String} {new : Location}
    (isTarget : c.target = .ok target) (named : tree.named? c.host.directory target = some new) :
    c.IsOutput tree new := isOutput_iff_target.mpr ⟨target, isTarget, named⟩

/-- What is taken for granted of the machine and of the tree that a compilation starts in. -/
structure Ready (c : Compilation) (b : Builder) (start : FileTree) : Prop where
  alphanumeric : c.host.suffix.toList.all Char.isAlphanum = true
  obeys : Obeys c.host b
  isTree : start.IsTree
  unused : start.IsUnused c.temporary
  avoids : c.Avoids b start c.temporary
  /-- The way of the temporary directory does not lead through the output. -/
  apart : ∀ place ∈ start.wayTo c.host.directory c.call.directory.path, ¬c.InOutput start place

/-- The same, and a file that stands at the output can be taken away. -/
structure Begins (c : Compilation) (b : Builder) (start : FileTree) : Prop extends
    c.Ready b start where
  replaceable : ∀ target, c.target = .ok target → start.IsReplaceable c.host.directory target

variable {c : Compilation} {b : Builder} {start tree after : FileTree} {place : Location}

theorem binary_eq (c : Compilation) :
    c.call.binary = Path.join c.call.directory.path binaryName := rfl

namespace Begins

theorem simple (begins : c.Begins b start) : Path.IsSimpleName c.temporary :=
  c.call.operation.isSimpleName_kind begins.alphanumeric

theorem ends (begins : c.Begins b start) : Path.EndsIn c.call.directory.path c.temporary :=
  Path.endsIn_join _ begins.simple

theorem isNew (begins : c.Begins b start) : c.call.NameIsNew start :=
  ⟨begins.avoids.directory, begins.avoids.source, begins.unused.links⟩

theorem length_generated (begins : c.Begins b start) :
    c.call.generated.length = c.call.binary.length := by
  have fileSimple := isSimpleName_sourceFileName c.options.target
  have generated : c.call.generated =
      c.call.directory.path ++ "/" ++ c.options.target.sourceFileName :=
    begins.ends.join begins.simple fileSimple
  have binary : c.call.binary = c.call.directory.path ++ "/" ++ binaryName :=
    begins.ends.join begins.simple isSimpleName_binaryName
  have sameLength : c.options.target.sourceFileName.length = binaryName.length := by
    cases c.options.target <;> decide
  rw [generated, binary, String.length_append, String.length_append (_ ++ _), sameLength]

theorem not_mem_output (begins : c.Begins b start) {target : String} {new : Location}
    (isTarget : c.target = .ok target)
    (named : start.named? c.host.directory target = some new) : c.temporary ∉ new :=
  not_mem_of_named begins.unused.links begins.avoids.directory
    (begins.avoids.target target isTarget) named

end Begins

/-- The temporary directory stands at a location, and nothing is changed outside of it. -/
structure Working (c : Compilation) (start tree : FileTree) (place : Location) : Prop where
  named : start.named? c.host.directory c.call.directory.path = some place
  prepared : Prepared c.host c.call.directory.path start tree place
  isTree : tree.IsTree
  now : tree.now = start.now

theorem Working.make {directory : BuildDirectory} {made : FileTree} (begins : c.Begins b start)
    (makes : makeDirectory c.host c.options c.call.operation.kind start = .ok (directory, made)) :
    ∃ place, c.Working start made place ∧ ∀ name, made.get? (place ++ [name]) = none := by
  have makes := (makeDirectory_eq_ok.mp makes).2
  obtain ⟨-, place, named, prepared, empty⟩ := Prepared.make begins.simple begins.ends makes
    fun place _ absent below isBelow => begins.isTree.absent_below absent isBelow
  obtain ⟨-, spot, namedSpot, absent, -, rfl⟩ := make_eq_ok makes
  cases named.symm.trans namedSpot
  obtain ⟨octets, octetPath, resolved⟩ := (named?_of_endsIn begins.simple begins.ends).mp named
  obtain rfl := pathOf_eq_ok octetPath
  obtain ⟨-, -, leads⟩ := resolve_eq_ok_iff.mp resolved
  have last := begins.ends.pieces begins.simple
  have above := leads.directory_dropLast last begins.simple.proper
  exact ⟨place, ⟨named, prepared, begins.isTree.put absent above _, rfl⟩, empty⟩

namespace Working

variable (working : c.Working start tree place) (begins : c.Begins b start)
include working begins

theorem mem_temporary {below : Location} (isBelow : Below place below) : c.temporary ∈ below := by
  obtain ⟨above, rfl⟩ := last_of_endsIn begins.simple begins.ends working.prepared.holds.named
  exact isBelow.subset (by simp)

theorem put {file : String} {node : Inode} (isFile : node.isDirectory = false)
    (absent : tree.get? (place ++ [file]) = none) :
    c.Working start (tree.put (place ++ [file]) node) place := by
  obtain ⟨found, present, isDirectory, -⟩ := working.prepared.holds.stands
  refine ⟨working.named, ⟨working.prepared.holds.put begins.simple begins.ends isFile absent,
    working.prepared.agree.trans (.put tree node ⟨[file], rfl⟩)⟩, ?_, working.now⟩
  exact working.isTree.put absent ⟨found, by rwa [List.dropLast_concat], isDirectory⟩ node

theorem unchanged {other : Location} (outside : c.temporary ∉ other) :
    tree.get? other = start.get? other ∧ tree.number? other = start.number? other :=
  working.prepared.agree other fun below => outside (working.mem_temporary begins below)

theorem absent_below {below : Location} (isBelow : Below place below) : start.get? below = none :=
  begins.unused.absent below (working.mem_temporary begins isBelow)

theorem remove : Same start (c.call.directory.remove c.host tree) := by
  obtain ⟨above, split⟩ := last_of_endsIn begins.simple begins.ends working.prepared.holds.named
  obtain ⟨agree, gone⟩ :=
    working.prepared.holds.canRemove.remove begins.simple begins.ends (by simp [split])
  refine ⟨fun other _ => ?_, by rw [remove_now begins.simple begins.ends, working.now]⟩
  by_cases inside : Below place other
  · have absent := working.absent_below begins inside
    rw [gone other inside, absent, number?_eq_none absent, number?_eq_none (gone other inside)]
    exact ⟨rfl, rfl⟩
  · exact (working.prepared.agree.trans agree) other inside

/-! ### The entries of the temporary directory -/

theorem pathOf_binary : pathOf c.call.binary = .ok c.call.binary := by
  rw [binary_eq]
  obtain ⟨octets, octetPath, -⟩ :=
    (named?_of_endsIn begins.simple begins.ends).mp working.prepared.holds.named
  exact pathOf_join begins.simple begins.ends isSimpleName_binaryName (by decide) octetPath

theorem resolve_binary (short : c.call.binary.length < pathLimit) :
    tree.resolve c.host.directory c.call.binary false =
      .ok (place ++ [binaryName]) := by
  rw [binary_eq] at short ⊢
  exact working.prepared.holds.resolve_entry begins.simple begins.ends isSimpleName_binaryName
    isEntryName_binaryName (.inr rfl) short

theorem named?_binary (short : c.call.binary.length < pathLimit) :
    tree.named? c.host.directory c.call.binary = some (place ++ [binaryName]) := by
  have simple := isSimpleName_binaryName
  exact (named?_of_endsIn simple (Path.endsIn_join _ simple)).mpr
    ⟨_, working.pathOf_binary begins, working.resolve_binary begins short⟩

section

variable (empty : ∀ name, tree.get? (place ++ [name]) = none) (text : String)
include empty

theorem writeText_generated :
    tree.writeText c.host.directory c.call.generated text =
      if pathLimit ≤ c.call.generated.length then .error (.os .nameTooLong)
      else .ok (tree.put (place ++ [c.options.target.sourceFileName])
        (tree.newNode (.file text.toUTF8) (masked fileMode standardMask))) := by
  have noNul : '\x00' ∉ c.options.target.sourceFileName.toList := by
    cases c.options.target <;> decide
  exact working.prepared.holds.writeText_result begins.simple begins.ends
    (isSimpleName_sourceFileName _) (isEntryName_sourceFileName _) noNul (empty _)

theorem readText_generated (short : ¬pathLimit ≤ c.call.generated.length) :
    (tree.put (place ++ [c.options.target.sourceFileName])
      (tree.newNode (.file text.toUTF8) (masked fileMode standardMask))).readText
        c.host.directory c.call.generated = .ok text :=
  working.prepared.holds.readText begins.simple begins.ends (isSimpleName_sourceFileName _)
    (isEntryName_sourceFileName _) (empty _)
    ((working.writeText_generated begins empty text).trans (if_neg short))

end

/-! ### Delivering the executable -/

section

variable {target : String} (isTarget : c.target = .ok target)
include isTarget

theorem named?_eq : tree.named? c.host.directory target = start.named? c.host.directory target :=
  named?_congr fun place onWay => (working.unchanged begins
    (not_mem_of_wayTo begins.unused.links begins.avoids.directory
      (begins.avoids.target target isTarget) place onWay)).1

theorem arrivalAt_eq :
    tree.arrivalAt c.host.directory target = start.arrivalAt c.host.directory target := by
  refine arrivalAt_congr (fun place onWay => ?_) fun new named => ?_
  · exact (working.unchanged begins (not_mem_of_wayTo begins.unused.links begins.avoids.directory
      (begins.avoids.target target isTarget) place onWay)).1
  · have outside := begins.not_mem_output isTarget named
    rw [(working.unchanged begins outside).1,
      (working.unchanged begins (not_mem_dropLast outside)).1]
    exact ⟨rfl, rfl⟩

theorem isReplaceable : tree.IsReplaceable c.host.directory target := by
  intro new node named found isFile
  rw [working.named?_eq begins isTarget] at named
  have outside := begins.not_mem_output isTarget named
  rw [(working.unchanged begins outside).1] at found
  rw [isChangeable, (working.unchanged begins (not_mem_dropLast outside)).1]
  exact begins.replaceable target isTarget new node named found isFile

end

end Working

/-- An executable has been built in the temporary directory. -/
structure Finished (c : Compilation) (start built : FileTree) (place : Location) (node : Inode) :
    Prop extends c.Working start built place where
  found : built.get? (place ++ [binaryName]) = some node
  isFile : node.isFile = true
  alone : ∀ other, built.number? other = built.number? (place ++ [binaryName]) →
    other = place ++ [binaryName]
  short : c.call.binary.length < pathLimit

namespace Finished

variable {built : FileTree} {node : Inode} {target : String} {new : Location}

theorem absent_below (finished : c.Finished start built place node) {rest : Location}
    (more : rest ≠ []) : built.get? (place ++ [binaryName] ++ rest) = none := by
  refine finished.isTree.absent_below_file (fun other found => ?_) more
  rw [finished.found] at found
  cases found
  exact isDirectory_of_isFile finished.isFile

theorem get?_moved (finished : c.Finished start built place node) (proper : new ≠ []) :
    (built.move (place ++ [binaryName]) new).get? new = some node := by
  rw [get?_move_self built (by simp) proper, finished.found]

variable (finished : c.Finished start built place node) (begins : c.Begins b start)
include finished begins

theorem isLoose : built.IsLoose c.host.directory c.call.binary
    (place ++ [binaryName]) node := by
  have simple := isSimpleName_binaryName
  have ends : Path.EndsIn c.call.binary binaryName :=
    Path.endsIn_join c.call.directory.path simple
  exact ⟨finished.toWorking.resolve_binary begins finished.short,
    not_endsInDots_of_endsIn simple ends, ends.not_endsInSlash simple, finished.found,
    finished.isFile, finished.alone, finished.prepared.holds.isChangeable_entry binaryName⟩

theorem moveFile_eq (isTarget : c.target = .ok target) :
    built.moveFile c.host.breaks c.host.directory c.call.binary target =
      built.moveTo (place ++ [binaryName]) node (start.arrivalAt c.host.directory target) := by
  have working := finished.toWorking
  have differ (new : Location) (named : built.named? c.host.directory target = some new) :
      new ≠ place ++ [binaryName] := by
    rintro rfl
    rw [working.named?_eq begins isTarget] at named
    exact begins.not_mem_output isTarget named (working.mem_temporary begins ⟨[binaryName], rfl⟩)
  rw [FileTree.moveFile_eq finished.isTree c.host.breaks (working.pathOf_binary begins)
    (finished.isLoose begins) differ (working.isReplaceable begins isTarget),
    working.arrivalAt_eq begins isTarget]

/-! The executable is moved from the temporary directory to a location that is free for it. -/

section

variable (free : ∀ node, start.get? new = some node → node.isDirectory = false)
  (outside : c.temporary ∉ new)
include free outside

theorem absent_below_free {rest : Location} (more : rest ≠ []) :
    start.get? (new ++ rest) = none ∧ built.get? (new ++ rest) = none := by
  refine ⟨begins.isTree.absent_below_file free more,
    finished.isTree.absent_below_file (fun node found => ?_) more⟩
  rw [(finished.toWorking.unchanged begins outside).1] at found
  exact free node found

theorem not_below_new : ¬Below new place := by
  rintro ⟨rest, rfl⟩
  by_cases whole : rest = []
  · exact outside (finished.toWorking.mem_temporary begins ⟨[], by simp [whole]⟩)
  · obtain ⟨directory, present, -⟩ := finished.prepared.holds.stands
    rw [(finished.absent_below_free begins free outside whole).2] at present
    cases present

theorem move_agree : AgreeOutside (fun other => other = new ∨ Below place other) start
    (built.move (place ++ [binaryName]) new) := by
  intro other elsewhere
  obtain ⟨differ, beside⟩ := not_or.mp elsewhere
  have notOld : (place ++ [binaryName]).isPrefixOf other = false :=
    isPrefixOf_eq_false fun below => beside ((List.prefix_append place _).trans below)
  rw [get?_move built new (by simp), number?_move, notOld]
  by_cases below : Below new other
  · obtain ⟨rest, rfl⟩ := below
    have more : rest ≠ [] := by
      rintro rfl
      simp at differ
    obtain ⟨absent, -⟩ := finished.absent_below_free begins free outside more
    have gone := finished.absent_below more
    have proper : new ++ rest ≠ [] := by simp [more]
    rw [if_neg proper, isPrefixOf_append_self, List.drop_left, absent, number?_eq_none absent,
      if_pos rfl, if_pos rfl, gone, number?_eq_none gone]
    exact ⟨rfl, rfl⟩
  · rw [isPrefixOf_eq_false below]
    simp only [Bool.false_eq_true, ↓reduceIte]
    rw [ite_root]
    exact finished.prepared.agree other beside

theorem get?_above_moved : (built.move (place ++ [binaryName]) new).get? place.dropLast =
    built.get? place.dropLast := by
  obtain ⟨above, split⟩ := last_of_endsIn begins.simple begins.ends finished.prepared.holds.named
  obtain ⟨directory, present, -⟩ := finished.prepared.holds.stands
  have beside : ¬Below place place.dropLast := not_below_dropLast (by simp [split])
  have known := (finished.prepared.agree _ beside).1
  rw [(finished.move_agree begins free outside _ (not_or.mpr ⟨?_, beside⟩)).1, known]
  -- a directory stands above the temporary one, and where the executable goes there is none
  intro isNew
  obtain ⟨parent, found, isDirectory⟩ := finished.isTree above c.temporary
    (by rw [← split, present]; rfl)
  have last : place.dropLast = above := by rw [split, List.dropLast_concat]
  rw [← last, known, isNew] at found
  rw [free parent found] at isDirectory
  cases isDirectory

theorem named?_moved (proper : new ≠ [])
    (apart : ∀ place ∈ start.wayTo c.host.directory c.call.directory.path, place ≠ new) :
    (built.move (place ++ [binaryName]) new).named? c.host.directory c.call.directory.path =
      some place := by
  -- the executable at its target is added to what the way of the directory meets
  have onWay : (start.put new node).named? c.host.directory c.call.directory.path =
      some place := by
    rw [named?_congr fun other onWay => ?_, finished.named]
    rw [get?_put, if_neg (apart other onWay), ite_root]
  refine named?_grow begins.simple begins.ends onWay fun other seen found => ?_
  by_cases isNew : other = new
  · rw [isNew, get?_put_self start node proper] at found
    rw [isNew, finished.get?_moved proper, found]
  · rw [get?_put, if_neg isNew, ite_root] at found
    have agree := finished.move_agree begins free outside
    rw [(agree other (not_or.mpr ⟨isNew, fun below => ?_⟩)).1, found]
    rw [finished.toWorking.absent_below begins below] at found
    cases found

theorem holds_moved (proper : new ≠ [])
    (apart : ∀ place ∈ start.wayTo c.host.directory c.call.directory.path, place ≠ new) :
    Holds c.host c.call.directory.path (built.move (place ++ [binaryName]) new) place := by
  have notNew := finished.not_below_new begins free outside
  obtain ⟨above, split⟩ := last_of_endsIn begins.simple begins.ends finished.prepared.holds.named
  obtain ⟨directory, present, isDirectory, rights⟩ := finished.prepared.holds.stands
  refine ⟨finished.named?_moved begins free outside proper apart,
    ⟨directory, ?_, isDirectory, rights⟩, ?_, ?_⟩
  · have proper : place ++ [binaryName] ≠ [] := by simp
    have notOld := not_below_dropLast proper
    rw [List.dropLast_concat] at notOld
    rw [get?_move built new (by simp), if_neg (by simp [split]), isPrefixOf_eq_false notNew,
      isPrefixOf_eq_false notOld]
    exact present
  · rw [isChangeable, finished.get?_above_moved begins free outside]
    exact finished.prepared.holds.changeable
  · exact finished.prepared.holds.free.move (List.prefix_append place _) new

theorem gains (proper : new ≠ [])
    (apart : ∀ place ∈ start.wayTo c.host.directory c.call.directory.path, place ≠ new) :
    Gains start new node
      (c.call.directory.remove c.host (built.move (place ++ [binaryName]) new)) := by
  have holds := finished.holds_moved begins free outside proper apart
  have agree := finished.move_agree begins free outside
  obtain ⟨above, split⟩ := last_of_endsIn begins.simple begins.ends finished.prepared.holds.named
  obtain ⟨removed, gone⟩ := holds.canRemove.remove begins.simple begins.ends (by simp [split])
  have kept := removed new fun below => outside (finished.toWorking.mem_temporary begins below)
  refine ⟨fun other differ => ?_, ?_, fun other same => ?_, ?_⟩
  · by_cases inside : Below place other
    · have absent := finished.toWorking.absent_below begins inside
      rw [gone other inside, absent, number?_eq_none absent, number?_eq_none (gone other inside)]
      exact ⟨rfl, rfl⟩
    · obtain ⟨sameNode, sameNumber⟩ := agree other (not_or.mpr ⟨differ, inside⟩)
      rw [(removed other inside).1, (removed other inside).2]
      exact ⟨sameNode, sameNumber⟩
  · rw [kept.1, finished.get?_moved proper]
  -- another name of the executable could only stand inside, where nothing is left
  · by_contra differ
    rw [kept.2, number?_move_self] at same
    by_cases inside : Below place other
    · rw [number?_eq_none (gone other inside)] at same
      have found := finished.found
      rw [get?, if_neg (by simp), ← same] at found
      cases found
    · have elsewhere : ¬(other = new ∨ Below place other) := not_or.mpr ⟨differ, inside⟩
      rw [(removed other inside).2, (agree other elsewhere).2,
        ← (finished.prepared.agree other inside).2] at same
      exact inside (finished.alone other same ▸ List.prefix_append place _)
  · rw [remove_now begins.simple begins.ends]
    exact finished.now

end

end Finished

/-! ### Stage by stage -/

section

variable {s reached : Situation} {passed : List Stage} {outcome : Except Failure Unit}
  {node : Inode}

theorem settles_of_refused {failure : Failure} {stage : Stage} {rest : List Stage}
    {verdict : Except Failure (Location × Inode)} (begins : c.Begins b start)
    (working : c.Working start s.tree place)
    (course : c.call.Course (stage :: rest) s outcome reached passed)
    (refused : c.call.pass stage s = .error failure)
    (unchanged : (c.call.stopped stage s).tree = s.tree) (isVerdict : verdict = .error failure) :
    outcome = verdict.map (fun _ => ()) ∧
      Settles start (c.call.directory.remove c.host reached.tree) verdict := by
  obtain ⟨rfl, rfl, -⟩ := course.of_error refused
  rw [isVerdict, unchanged]
  exact ⟨rfl, working.remove begins⟩

theorem settles_of_move (begins : c.Begins b start)
    (finished : c.Finished start s.tree place node) (isTarget : c.target = .ok s.target)
    (course : c.call.Course [.move] s outcome reached passed) :
    outcome = (c.delivery start s.target node).map (fun _ => ()) ∧
      Settles start (c.call.directory.remove c.host reached.tree)
        (c.delivery start s.target node) := by
  have moves : c.call.moves s = s.tree.moveTo (place ++ [binaryName]) node
      (start.arrivalAt c.host.directory s.target) := finished.moveFile_eq begins isTarget
  cases arrives : start.arrivalAt c.host.directory s.target with
  | error cause =>
      rw [arrives, moveTo] at moves
      obtain ⟨refused, unchanged⟩ := Invocation.pass_move_error moves
      refine settles_of_refused begins finished.toWorking course refused
        (congrArg Situation.tree unchanged) ?_
      rw [delivery, arrives]
      rfl
  | ok new =>
      rw [arrives, moveTo] at moves
      obtain ⟨behind, -, ended⟩ := course.of_ok (Invocation.pass_move_ok moves)
      obtain ⟨rfl, rfl⟩ := ended.of_nil
      have isVerdict : c.delivery start s.target node = .ok (new, node) := by
        rw [delivery, arrives]
        rfl
      obtain ⟨octets, -, fits⟩ := arrivalAt_eq_ok.mp arrives
      have named := named?_of_arrivalAt arrives
      have apart (other : Location)
          (onWay : other ∈ start.wayTo c.host.directory c.call.directory.path) : other ≠ new := by
        rintro rfl
        exact begins.apart other onWay
          ⟨other, isOutput_of_target isTarget named, List.prefix_refl other⟩
      have gained := finished.gains begins fits.free (begins.not_mem_output isTarget named)
        fits.proper apart
      rw [isVerdict]
      exact ⟨rfl, gained⟩

theorem refusal?_eq (begins : c.Begins b start) (working : c.Working start tree place) :
    b.refusal? c.program tree = b.refusal? c.program start :=
  b.refusal?_congr c.program start tree fun other isLookedUp =>
    (working.unchanged begins (begins.avoids.lookedUp other isLookedUp)).1

/-- Starting the toolchain does what the builder does, or is refused as in the beginning. -/
theorem pass_start (begins : c.Begins b start) (working : c.Working start s.tree place)
    (text : s.tree.readText c.host.directory c.call.generated = .ok s.code)
    (absent : s.tree.get? (place ++ [binaryName]) = none)
    (short : c.call.binary.length < pathLimit) :
    let left := b.leaves c.call.toolchain s.code (place ++ [binaryName]) s.tree
    match b.refusal? c.program start with
    | some cause =>
        c.call.pass .toolchainStart s = .error (.toolchainUnavailable c.program cause)
    | none => ∃ written,
        c.call.pass .toolchainStart s = .ok (s.ended ⟨left.1, left.2, written⟩) := by
  have starts := begins.obeys c.call.toolchain c.call.generated c.call.binary s.tree s.code
    (place ++ [binaryName]) text (working.named?_binary begins short) absent
    (working.prepared.holds.isChangeable_entry binaryName)
  have sameRefusal := refusal?_eq begins working
  rw [program] at sameRefusal ⊢
  rw [sameRefusal] at starts
  cases refuses : b.refusal? c.call.toolchain.program start with
  | some cause =>
      rw [refuses] at starts
      exact advance_error starts
  | none =>
      rw [refuses] at starts
      obtain ⟨written, starts⟩ := starts
      exact ⟨written, advance_ok starts⟩

theorem settles_of_start (begins : c.Begins b start) (working : c.Working start s.tree place)
    (text : s.tree.readText c.host.directory c.call.generated = .ok s.code)
    (absent : s.tree.get? (place ++ [binaryName]) = none)
    (short : c.call.binary.length < pathLimit) (isTarget : c.target = .ok s.target)
    (course : c.call.Course [.toolchainStart, .toolchainStatus, .move] s outcome reached passed) :
    outcome = (c.executable b start s.code >>= c.delivery start s.target).map (fun _ => ()) ∧
      Settles start (c.call.directory.remove c.host reached.tree)
        (c.executable b start s.code >>= c.delivery start s.target) := by
  have starts := pass_start begins working text absent short
  -- the builder refuses, fails or builds, and it does so as in the tree at the start
  cases refuses : b.refusal? c.program start with
  | some cause =>
      rw [refuses] at starts
      refine settles_of_refused begins working course starts rfl ?_
      rw [executable, refuses]
      rfl
  | none =>
      rw [refuses] at starts
      obtain ⟨written, passStart⟩ := starts
      obtain ⟨_, -, course⟩ := course.of_ok passStart
      rw [Builder.leaves] at course
      cases builds : b.build c.call.toolchain.program c.call.toolchain.target s.code with
      | error status =>
          rw [builds] at course
          let failed := s.ended ⟨s.tree, status, written⟩
          have refused : c.call.pass .toolchainStatus failed =
              .error (.toolchainFailed c.program status) := if_neg (b.fails _ _ _ _ builds)
          refine settles_of_refused (s := failed) begins working course refused rfl ?_
          rw [executable, refuses, program, builds]
          rfl
      | ok made =>
          obtain ⟨content, mode⟩ := made
          rw [builds] at course
          let node := s.tree.newNode (.file content) mode
          let ended := s.ended ⟨s.tree.put (place ++ [binaryName]) node, .success, written⟩
          have succeeds : ended.status = .success := rfl
          have passStatus : c.call.pass .toolchainStatus ended = .ok ended := by
            rw [Invocation.pass, if_pos succeeds]
          obtain ⟨_, -, course⟩ := course.of_ok passStatus
          have finished : c.Finished start ended.tree place node :=
            { working.put begins rfl absent with
              found := get?_put_self s.tree node (by simp)
              isFile := rfl
              alone := number?_put_alone s.tree node
              short := short }
          have isVerdict : c.executable b start s.code = .ok node := by
            rw [executable, refuses, program, builds]
            simp [node, newNode, working.now]
          rw [isVerdict]
          exact settles_of_move (s := ended) begins finished isTarget course

theorem settles_of_build (begins : c.Begins b start) (working : c.Working start s.tree place)
    (empty : ∀ name, s.tree.get? (place ++ [name]) = none) (isTarget : c.target = .ok s.target)
    (emits : c.call.emits s.tree = c.call.emits start)
    (course : c.call.Course (Operation.buildStages ++ [.move]) s outcome reached passed) :
    outcome = (c.product b start >>= c.delivery start s.target).map (fun _ => ()) ∧
      Settles start (c.call.directory.remove c.host reached.tree)
        (c.product b start >>= c.delivery start s.target) := by
  cases emitted : c.call.emits start with
  | error failure =>
      have refused : c.call.pass .frontEnd s = .error failure := advance_error (emits.trans emitted)
      refine settles_of_refused begins working course refused rfl ?_
      rw [product, emitted]
      rfl
  | ok code =>
      have passEmit : c.call.pass .frontEnd s = .ok { s with code := code } :=
        advance_ok (emits.trans emitted)
      obtain ⟨_, -, course⟩ := course.of_ok passEmit
      -- the generated file is written unless its path is too long, and nothing else is added
      have writes := working.writeText_generated begins empty code
      by_cases long : pathLimit ≤ c.call.generated.length
      · rw [if_pos long] at writes
        have refused : c.call.pass .generatedFile { s with code := code } =
            .error (.scratch (.os .nameTooLong)) := advance_error writes
        refine settles_of_refused (s := { s with code := code }) begins working course refused rfl
          ?_
        rw [product, emitted]
        dsimp only [bind, Except.bind]
        rw [if_pos long]
      · rw [if_neg long] at writes
        let file := place ++ [c.options.target.sourceFileName]
        let node := s.tree.newNode (.file code.toUTF8) (masked fileMode standardMask)
        let filled : Situation := { s with code := code, tree := s.tree.put file node }
        have passWrite : c.call.pass .generatedFile { s with code := code } = .ok filled :=
          advance_ok writes
        obtain ⟨_, -, course⟩ := course.of_ok passWrite
        have isVerdict : c.product b start = c.executable b start code := by
          rw [product, emitted]
          dsimp only [bind, Except.bind]
          rw [if_neg long]
        rw [isVerdict]
        have differ : place ++ [binaryName] ≠ file := by
          simp only [file, ne_eq, List.append_cancel_left_eq, List.cons.injEq, and_true]
          cases c.options.target <;> decide
        have absent : (s.tree.put file node).get? (place ++ [binaryName]) = none := by
          rw [get?_put, if_neg (by simp), if_neg differ, empty]
        have short : c.call.binary.length < pathLimit := by
          rw [← begins.length_generated]
          exact Nat.lt_of_not_le long
        exact settles_of_start (s := filled) begins (working.put begins rfl (empty _))
          (working.readText_generated begins empty code long) absent short isTarget course

end

theorem settles (begins : c.Begins b start) {outcome : Except Failure Unit} {reached : Situation}
    {passed : List Stage}
    (course : c.call.Course c.call.operation.stages (.start start) outcome reached passed) :
    outcome = (c.verdict b start).map (fun _ => ()) ∧
      Settles start (c.call.left passed reached) (c.verdict b start) := by
  have untouched : Same start start := ⟨.refl _ start, rfl⟩
  -- up to the directory nothing is changed, and behind it everything happens inside
  cases isTarget : c.target with
  | error cause =>
      have refused : c.call.pass (.outputPath c.output) (.start start) = .error (.scratch cause) :=
        advance_error isTarget
      obtain ⟨rfl, rfl, rfl⟩ := course.of_error refused
      rw [verdict_of_error isTarget]
      exact ⟨rfl, untouched⟩
  | ok target =>
      let named : Situation := ⟨start, target, "", .success⟩
      have passOutput : c.call.pass (.outputPath c.output) (.start start) = .ok named :=
        advance_ok isTarget
      obtain ⟨behind, rfl, fromDirectory⟩ := course.of_ok passOutput
      rw [c.call.left_cons (by simp)]
      cases makes : makeDirectory c.host c.options c.call.operation.kind start with
      | error cause =>
          have refused : c.call.pass .directory named = .error (.scratch cause) := by
            rw [Invocation.pass]
            exact advance_error makes
          obtain ⟨rfl, rfl, rfl⟩ := fromDirectory.of_error refused
          have isVerdict : c.verdict b start = .error (.scratch cause) := by
            rw [verdict_of_target isTarget, verdictAt, makes]
            rfl
          rw [isVerdict]
          exact ⟨rfl, untouched⟩
      | ok done =>
          obtain ⟨directory, tree⟩ := done
          let made : Situation := { named with tree := tree }
          have passMake : c.call.pass .directory named = .ok made := by
            rw [Invocation.pass]
            exact advance_ok makes
          obtain ⟨behind, rfl, fromBuild⟩ := fromDirectory.of_ok passMake
          obtain ⟨place, working, empty⟩ := Working.make begins makes
          have passes : c.call.passes c.call.operation.firstStages (.start start) = .ok made :=
            Invocation.passes_cons_eq_ok.mpr
              ⟨named, passOutput, Invocation.passes_cons_eq_ok.mpr ⟨made, passMake, rfl⟩⟩
          have emits : c.call.emits tree = c.call.emits start :=
            (c.call.hands begins.isTree begins.alphanumeric passes).emits begins.isNew
          have isVerdict : c.verdict b start = c.product b start >>= c.delivery start target := by
            rw [verdict_of_target isTarget, verdictAt, makes]
            rfl
          rw [isVerdict, Invocation.left_of_mem (by simp)]
          exact settles_of_build (s := made) begins working empty isTarget emits fromBuild

/-- A compilation has the outcome of its verdict, and it changes nothing but the location that the
verdict gives to the executable. -/
theorem comes_to_verdict (before : World) (begins : c.Begins b before.tree) :
    c.call.result before =
        Job.result ((c.verdict b before.tree).map fun _ => ()) (c.call.after before) ∧
      Settles before.tree (c.call.after before).tree (c.verdict b before.tree) := by
  obtain ⟨outcome, reached, passed, course, runs⟩ := c.call.runs_course before.tree
  obtain ⟨tree, -, result⟩ := Invocation.after_of_runs runs
  obtain ⟨rfl, settled⟩ := settles begins course
  exact ⟨result, by rwa [tree]⟩

end Compilation

end Compiler

end CallScript
