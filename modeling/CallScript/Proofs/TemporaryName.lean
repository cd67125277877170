import CallScript.Proofs.Compilation

/-!
# Another temporary name

The name of a temporary directory is made up anew each time. It makes no difference to a compilation
that succeeds which one it gets, as long as it is a new name of the same size.

* `FileTree.named?_last`, `FileTree.wayTo_last`: paths that differ in their last name.
* `Compiler.Compilation.verdict_renamed`: the verdict under another temporary name.
-/

namespace CallScript

open Refusal

namespace FileTree

variable {tree : FileTree} {directory here : Location} {names : List String} {x y : String}

/-! ## Paths that differ in their last name -/

/-- The location with another last name. -/
def renameLast (name : String) (place : Location) : Location := place.dropLast ++ [name]

theorem steps_not_enters (jump : Location → List String → Except OsError Location)
    (stops : ¬tree.Enters here x) (empty : x = "" ↔ y = "") :
    ∃ error, ∀ rest rest', tree.steps false jump here (x :: rest) = .error error ∧
      tree.steps false jump here (y :: rest') = .error error := by
  cases found : tree.get? here with
  | none => exact ⟨.noEntry, fun rest rest' => by simp [steps, found]⟩
  | some node =>
      cases isDirectory : node.isDirectory with
      | false => exact ⟨.notDirectory, fun rest rest' => by simp [steps, found, isDirectory]⟩
      | true =>
          obtain noDirectory | ⟨named, noEntry⟩ := refused_of_not_enters found stops
          · rw [isDirectory] at noDirectory
            cases noDirectory
          · have named' : y ≠ "" := fun same => named (empty.mpr same)
            exact ⟨.permission, fun rest rest' => by
              simp [steps, found, isDirectory, named, named', noEntry]⟩

theorem enters_iff (xNamed : x ≠ "") (yNamed : y ≠ "") :
    tree.Enters here x ↔ tree.Enters here y := by
  simp only [Enters, ne_eq, xNamed, yNamed, not_false_eq_true, true_imp_iff]

theorem steps_single {jump : Location → List String → Except OsError Location}
    (enters : tree.Enters here x) (proper : x ∉ ["", ".", ".."]) :
    tree.steps false jump here [x] =
      if nameLimit < x.length then .error .nameTooLong else .ok (here ++ [x]) := by
  simp only [List.mem_cons, List.not_mem_nil, or_false, not_or] at proper
  rw [steps_of_enters jump enters, if_neg (by simp [proper]), if_neg proper.2.2]
  cases tree.linkAt? (here ++ [x]) <;> simp [steps]

theorem stepsWay_single {ways : Location → List String → List Location}
    (enters : tree.Enters here x) (proper : x ∉ ["", ".", ".."]) :
    tree.stepsWay false ways here [x] = [here] := by
  simp only [List.mem_cons, List.not_mem_nil, or_false, not_or] at proper
  rw [stepsWay_of_enters ways enters, if_neg (by simp [proper]), if_neg proper.2.2]
  simp

/-- The last name, if it is not followed, is the last name of the location, and nothing else depends
on it. -/
theorem steps_last {jump : Location → List String → Except OsError Location}
    {ways : Location → List String → List Location} (xName : x ∉ ["", ".", ".."])
    (yName : y ∉ ["", ".", ".."]) (size : y.length = x.length)
    (jumps : ∀ here names,
      jump here (names ++ [y]) = (jump here (names ++ [x])).map (renameLast y) ∧
      ways here (names ++ [y]) = ways here (names ++ [x])) :
    tree.steps false jump here (names ++ [y]) =
        (tree.steps false jump here (names ++ [x])).map (renameLast y) ∧
      tree.stepsWay false ways here (names ++ [y]) =
        tree.stepsWay false ways here (names ++ [x]) := by
  have xNamed : x ≠ "" := fun empty => xName (by simp [empty])
  have yNamed : y ≠ "" := fun empty => yName (by simp [empty])
  -- on the names in front; a directory that cannot be entered stops both paths alike
  induction names generalizing here with
  | nil =>
      rw [List.nil_append, List.nil_append]
      by_cases enters : tree.Enters here x
      · have enters' : tree.Enters here y := (enters_iff xNamed yNamed).mp enters
        rw [steps_single enters xName, steps_single enters' yName, stepsWay_single enters xName,
          stepsWay_single enters' yName, size]
        split <;> simp [Except.map, renameLast]
      · have stops' : ¬tree.Enters here y := (enters_iff xNamed yNamed).not.mp enters
        obtain ⟨error, stops⟩ := steps_not_enters jump enters (iff_of_false xNamed yNamed)
        obtain ⟨stopsAtX, stopsAtY⟩ := stops [] []
        rw [stepsWay_of_not_enters enters, stepsWay_of_not_enters stops', stopsAtX, stopsAtY]
        exact ⟨rfl, rfl⟩
  | cons name rest ih =>
      simp only [List.cons_append]
      by_cases enters : tree.Enters here name
      · rw [steps_of_enters jump enters, steps_of_enters jump enters,
          stepsWay_of_enters ways enters, stepsWay_of_enters ways enters, List.cons.injEq,
          eq_self_iff_true, true_and]
        by_cases dot : name = "" ∨ name = "."
        · simp only [if_pos dot]
          exact ih
        by_cases dots : name = ".."
        · simp only [if_neg dot, if_pos dots]
          exact ih
        simp only [if_neg dot, if_neg dots]
        by_cases long : nameLimit < name.length
        · simp [long, Except.map]
        have goesOn (last : String) : ((rest ++ [last]).isEmpty && !false) = false := by simp
        simp only [long, goesOn, decide_false, Bool.or_self, Bool.false_eq_true, ↓reduceIte,
          List.cons.injEq, true_and]
        cases tree.linkAt? (here ++ [name]) with
        | none => exact ih
        | some target =>
            have jumped := jumps (if Path.isAbsolute target then [] else here)
              (Path.pieces target ++ rest)
            rw [List.append_assoc, List.append_assoc] at jumped
            exact jumped
      · obtain ⟨error, stops⟩ := steps_not_enters jump enters Iff.rfl
        obtain ⟨stopsAtX, stopsAtY⟩ := stops (rest ++ [x]) (rest ++ [y])
        rw [stepsWay_of_not_enters enters, stepsWay_of_not_enters enters, stopsAtX, stopsAtY]
        exact ⟨rfl, rfl⟩

theorem walk_last {links : Nat} (xName : x ∉ ["", ".", ".."]) (yName : y ∉ ["", ".", ".."])
    (size : y.length = x.length) :
    tree.walk false links here (names ++ [y]) =
        (tree.walk false links here (names ++ [x])).map (renameLast y) ∧
      tree.walkWay false links here (names ++ [y]) =
        tree.walkWay false links here (names ++ [x]) := by
  induction links generalizing here names with
  | zero => exact steps_last xName yName size fun _ _ => ⟨rfl, rfl⟩
  | succ links ih => exact steps_last xName yName size fun _ _ => ih

theorem exists_front (directory : Location) (path : String) :
    ∃ here names size, ∀ name, Path.IsSimpleName name →
      startOf directory (Path.join path name) = here ∧
      Path.pieces (Path.join path name) = names ++ [name] ∧
      (Path.join path name).length = size + name.length := by
  obtain ⟨front, joins, ends⟩ := Path.join_front path
  rcases ends with rfl | ⟨above, rfl⟩
  · refine ⟨directory, [], 0, fun name simple => ?_⟩
    rw [joins name simple, String.empty_append, startOf, simple.not_isAbsolute, simple.pieces]
    exact ⟨rfl, rfl, (Nat.zero_add _).symm⟩
  · have nonempty : (above ++ "/").isEmpty = false := by simp
    refine ⟨startOf directory (above ++ "/"), Path.pieces above, (above ++ "/").length,
      fun name simple => ?_⟩
    rw [joins name simple, String.length_append, startOf, Path.isAbsolute_append nonempty,
      Path.pieces_slash, simple.pieces]
    exact ⟨rfl, rfl, rfl⟩

section

variable {path : String} (xSimple : Path.IsSimpleName x) (ySimple : Path.IsSimpleName y)
  (size : y.length = x.length)
include xSimple ySimple size

theorem resolve_last :
    tree.resolve directory (Path.join path y) false =
        (tree.resolve directory (Path.join path x) false).map (renameLast y) ∧
      tree.wayTo directory (Path.join path y) = tree.wayTo directory (Path.join path x) := by
  obtain ⟨here, names, length, front⟩ := exists_front directory path
  obtain ⟨xStart, xPieces, xLength⟩ := front x xSimple
  obtain ⟨yStart, yPieces, yLength⟩ := front y ySimple
  have xEnds := Path.endsIn_join path xSimple
  have yEnds := Path.endsIn_join path ySimple
  have walked : tree.walk false linkLimit here (names ++ [y]) =
        (tree.walk false linkLimit here (names ++ [x])).map (renameLast y) ∧
      tree.walkWay false linkLimit here (names ++ [y]) =
        tree.walkWay false linkLimit here (names ++ [x]) :=
    walk_last xSimple.proper ySimple.proper size
  obtain ⟨walks, ways⟩ := walked
  rw [wayTo, wayTo, Path.trimSlashes_eq_self (yEnds.not_endsInSlash ySimple),
    Path.trimSlashes_eq_self (xEnds.not_endsInSlash xSimple), way, way, xPieces, yPieces, xStart,
    yStart]
  refine ⟨?_, ways⟩
  rw [resolve, resolve, xEnds.not_isEmpty xSimple, yEnds.not_isEmpty ySimple, xPieces, yPieces,
    ← startOf, ← startOf, xStart, yStart, xLength, yLength, size]
  simp only [Bool.false_eq_true, ↓reduceIte]
  split
  · rfl
  · exact walks

theorem wayTo_last :
    tree.wayTo directory (Path.join path y) = tree.wayTo directory (Path.join path x) :=
  (resolve_last xSimple ySimple size).2

theorem named?_last (clean : '\x00' ∉ y.toList) {place : Location}
    (named : tree.named? directory (Path.join path x) = some place) :
    tree.named? directory (Path.join path y) = some (renameLast y place) := by
  obtain ⟨octets, octetPath, resolved⟩ :=
    (named?_of_endsIn xSimple (Path.endsIn_join path xSimple)).mp named
  obtain rfl := pathOf_eq_ok octetPath
  obtain ⟨front, joins, -⟩ := Path.join_front path
  have octetPath' : pathOf (Path.join path y) = .ok (Path.join path y) := by
    rw [pathOf] at octetPath ⊢
    rw [joins x xSimple] at octetPath
    rw [joins y ySimple, if_neg]
    split at octetPath
    · cases octetPath
    · next xClean => simp_all
  refine (named?_of_endsIn ySimple (Path.endsIn_join path ySimple)).mpr ⟨_, octetPath', ?_⟩
  rw [(resolve_last xSimple ySimple size).1, resolved]
  rfl

end

end FileTree

namespace BuildDirectory

open FileTree

theorem make_of_named {host : Host} {path : String} {tree : FileTree} {place : Location}
    (named : tree.named? host.directory path = some place) (absent : tree.get? place = none)
    (changeable : tree.isChangeable place = true) :
    ∃ done, make host path tree = .ok done := by
  obtain ⟨octets, octetPath, resolved⟩ := named?_eq_some.mp named
  rw [make, octetPath]
  dsimp only [bind, Except.bind]
  rw [makeDirectory, resolved]
  dsimp only [bind, Except.bind]
  rw [absent, checkChangeable, changeable]
  exact ⟨_, rfl⟩

end BuildDirectory

namespace Compiler.Compilation

open FileTree BuildDirectory

variable {c : Compilation} {b : Builder} {tree : FileTree} {suffix : String}

def renamed (c : Compilation) (suffix : String) : Compilation :=
  { c with host := { c.host with suffix := suffix } }

/-- The end for the name is as good as the one of the compilation: it is as long and as new. -/
structure IsAlternative (c : Compilation) (b : Builder) (tree : FileTree) (suffix : String) :
    Prop where
  size : suffix.length = c.host.suffix.length
  alphanumeric : suffix.toList.all Char.isAlphanum = true
  unused : tree.IsUnused (c.renamed suffix).temporary
  avoids : c.Avoids b tree (c.renamed suffix).temporary

namespace IsAlternative

variable (begins : c.Begins b tree) (alternative : c.IsAlternative b tree suffix)
include alternative

theorem simple : Path.IsSimpleName (c.renamed suffix).temporary :=
  (c.renamed suffix).call.operation.isSimpleName_kind alternative.alphanumeric

theorem length_temporary : (c.renamed suffix).temporary.length = c.temporary.length := by
  change (c.call.operation.kind ++ suffix).length = (c.call.operation.kind ++ c.host.suffix).length
  rw [String.length_append, String.length_append, alternative.size]

theorem clean : '\x00' ∉ (c.renamed suffix).temporary.toList := by
  change '\x00' ∉ ("mob_compile_" ++ suffix).toList
  rw [String.toList_append, List.mem_append, not_or]
  refine ⟨by decide, fun member => ?_⟩
  exact absurd (List.all_eq_true.mp alternative.alphanumeric _ member) (by decide)

variable (begins : c.Begins b tree)
include begins

theorem wayTo_scratch :
    tree.wayTo c.host.directory (c.renamed suffix).call.directory.path =
      tree.wayTo c.host.directory c.call.directory.path :=
  wayTo_last begins.simple alternative.simple alternative.length_temporary

theorem begins_renamed : (c.renamed suffix).Begins b tree where
  alphanumeric := alternative.alphanumeric
  obeys := begins.obeys
  isTree := begins.isTree
  unused := alternative.unused
  avoids := {
    directory := alternative.avoids.directory
    source := alternative.avoids.source
    target := alternative.avoids.target
    lookedUp := alternative.avoids.lookedUp }
  apart place onWay := begins.apart place (alternative.wayTo_scratch begins ▸ onWay)
  replaceable := begins.replaceable

theorem length_generated : (c.renamed suffix).call.generated.length =
    c.call.generated.length := by
  have fileSimple := isSimpleName_sourceFileName c.options.target
  have entry : c.call.generated =
      c.call.directory.path ++ "/" ++ c.options.target.sourceFileName :=
    begins.ends.join begins.simple fileSimple
  have entry' : (c.renamed suffix).call.generated =
      (c.renamed suffix).call.directory.path ++ "/" ++ c.options.target.sourceFileName :=
    (alternative.begins_renamed begins).ends.join alternative.simple fileSimple
  have samePath : (c.renamed suffix).call.directory.path.length =
      c.call.directory.path.length := by
    obtain ⟨_, _, size, front⟩ := exists_front c.host.directory
      (Path.join c.host.directory.path (scratchRoot c.host c.options))
    have length := (front c.temporary begins.simple).2.2
    have length' := (front (c.renamed suffix).temporary alternative.simple).2.2
    rw [alternative.length_temporary, ← length] at length'
    exact length'
  simp only [entry, entry', String.length_append, samePath]

/-- A compilation that succeeds has the same verdict under another temporary name. -/
theorem verdict_renamed {gain : Location × Inode} (isVerdict : c.verdict b tree = .ok gain) :
    (c.renamed suffix).verdict b tree = .ok gain := by
  obtain ⟨target, isTarget, h⟩ := bind_eq_ok.mp isVerdict
  obtain ⟨done, makes, h⟩ := bind_eq_ok.mp h
  obtain ⟨known, makesAt⟩ := makeDirectory_eq_ok.mp (mapError_eq_ok.mp makes)
  obtain ⟨-, place, named, -, changeable, -⟩ := make_eq_ok makesAt
  have named' : tree.named? c.host.directory (c.renamed suffix).call.directory.path =
      some (renameLast (c.renamed suffix).temporary place) :=
    named?_last begins.simple alternative.simple alternative.length_temporary alternative.clean
      named
  have absent : tree.get? (renameLast (c.renamed suffix).temporary place) = none :=
    alternative.unused.absent _ (by simp [renameLast])
  have changeable' :
      tree.isChangeable (renameLast (c.renamed suffix).temporary place) = true := by
    rwa [isChangeable, renameLast, List.dropLast_concat, ← isChangeable]
  obtain ⟨done', makesAt'⟩ := make_of_named named' absent changeable'
  have makes' : makeDirectory (c.renamed suffix).host c.options c.call.operation.kind tree =
      .ok done' := makeDirectory_eq_ok.mpr ⟨known, makesAt'⟩
  -- behind the making of the directory only the length of its path matters
  have sameLength := alternative.length_generated begins
  have sameProduct : (c.renamed suffix).product b tree = c.product b tree := by
    rw [product, product, sameLength, (c.renamed suffix).call.emits_eq, c.call.emits_eq]
    rfl
  refine bind_eq_ok.mpr ⟨target, isTarget, bind_eq_ok.mpr
    ⟨done', mapError_eq_ok.mpr makes', ?_⟩⟩
  rw [sameProduct]
  exact h

end IsAlternative

end Compiler.Compilation

end CallScript
