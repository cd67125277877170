import CallScript.Proofs.TemporaryName

/-!
# Independent compilations

Compilations that do not look at what the other one puts out can be done in either order: each has
the same outcome, and the same tree is left. A compilation that has succeeded succeeds again.

* `Compiler.Compilation.verdict_congr`: the verdict depends on what is looked at only.
* `Compiler.Compilation.Spares.begins`: what one compilation needs is left to it by another.
* `Compiler.Compilation.independent`: the order does not matter, nor does repeating.
-/

namespace CallScript

open Refusal

namespace FileTree

variable {start tree other last middle first second : FileTree} {new new' place : Location}
  {node node' : Inode}

/-! ## Trees that look alike -/

/-- The trees show the same nodes everywhere, and the same locations are names of one node. -/
structure Alike (tree other : FileTree) : Prop where
  view : ∀ place, other.get? place = tree.get? place
  names : ∀ place spot,
    other.number? place = other.number? spot ↔ tree.number? place = tree.number? spot
  now : other.now = tree.now

theorem Same.alike (same : tree.Same other) : tree.Alike other where
  view place := (same.view place id).1
  names place spot := by rw [(same.view place id).2, (same.view spot id).2]
  now := same.now

theorem Alike.symm (alike : tree.Alike other) : other.Alike tree where
  view place := (alike.view place).symm
  names place spot := (alike.names place spot).symm
  now := alike.now.symm

theorem Alike.trans (front : tree.Alike other) (back : other.Alike last) : tree.Alike last where
  view place := (back.view place).trans (front.view place)
  names place spot := (back.names place spot).trans (front.names place spot)
  now := back.now.trans front.now

namespace Gains

theorem get?_eq (gains : start.Gains new node tree) (place : Location) :
    tree.get? place = if place = new then some node else start.get? place := by
  split
  · next isNew => rw [isNew, gains.there]
  · next differ => exact (gains.others place differ).1

theorem number?_eq_iff (gains : start.Gains new node tree) (place spot : Location) :
    tree.number? place = tree.number? spot ↔
      place = spot ∨ place ≠ new ∧ spot ≠ new ∧ start.number? place = start.number? spot := by
  by_cases here : place = new
  · subst here
    have single : tree.number? place = tree.number? spot ↔ place = spot :=
      ⟨fun same => (gains.single spot same.symm).symm, fun same => by rw [same]⟩
    simp [single]
  · by_cases there : spot = new
    · subst there
      have single : tree.number? place = tree.number? spot ↔ place = spot :=
        ⟨fun same => gains.single place same, fun same => by rw [same]⟩
      simp [single]
    · rw [(gains.others place here).2, (gains.others spot there).2]
      refine ⟨fun same => .inr ⟨here, there, same⟩, ?_⟩
      rintro (rfl | ⟨-, -, same⟩)
      · rfl
      · exact same

theorem alike (alike : start.Alike other) (gains : start.Gains new node tree)
    (gains' : other.Gains new node last) : tree.Alike last where
  view place := by rw [gains.get?_eq, gains'.get?_eq, alike.view]
  names place spot := by rw [gains.number?_eq_iff, gains'.number?_eq_iff, alike.names]
  now := by rw [gains.now, gains'.now, alike.now]

theorem comm (differ : new ≠ new') (one : start.Gains new node first)
    (two : first.Gains new' node' tree) (one' : start.Gains new' node' second)
    (two' : second.Gains new node other) : tree.Alike other where
  view place := by
    rw [two.get?_eq, one.get?_eq, two'.get?_eq, one'.get?_eq]
    split <;> split <;> simp_all
  names place spot := by
    rw [two.number?_eq_iff, one.number?_eq_iff, two'.number?_eq_iff, one'.number?_eq_iff]
    tauto
  now := by rw [two.now, one.now, two'.now, one'.now]

theorem again (gains : start.Gains new node tree) (repeats : tree.Gains new node last) :
    tree.Alike last where
  view place := by
    rw [repeats.get?_eq]
    split
    · next isNew => rw [isNew, gains.there]
    · rfl
  names place spot := by
    rw [repeats.number?_eq_iff, gains.number?_eq_iff]
    tauto
  now := repeats.now

end Gains

/-! ## What is kept -/

theorem agreeAt_of_agreeOutside {region : Location → Prop} {places : List Location}
    (agree : AgreeOutside region tree other) (past : ∀ place ∈ places, ¬region place) :
    AgreeAt places tree other := fun place onWay => (agree place (past place onWay)).1

theorem Same.isTree (same : tree.Same other) (isTree : tree.IsTree) : other.IsTree := by
  intro place name present
  rw [(same.view _ id).1] at present
  obtain ⟨node, found, isDirectory⟩ := isTree place name present
  exact ⟨node, by rw [(same.view place id).1, found], isDirectory⟩

theorem Gains.isTree (gains : start.Gains new node tree) (isTree : start.IsTree)
    (free : ∀ node, start.get? new = some node → node.isDirectory = false)
    (above : ∃ node, start.get? new.dropLast = some node ∧ node.isDirectory = true)
    (proper : new ≠ []) : tree.IsTree := by
  have keeps {place : Location} {seen : Inode} (found : start.get? place = some seen)
      (isDirectory : seen.isDirectory = true) :
      ∃ node, tree.get? place = some node ∧ node.isDirectory = true := by
    refine ⟨seen, ?_, isDirectory⟩
    rw [gains.get?_eq, if_neg, found]
    rintro rfl
    rw [free seen found] at isDirectory
    cases isDirectory
  intro place name present
  by_cases isNew : place ++ [name] = new
  · obtain ⟨seen, found, isDirectory⟩ := above
    rw [← isNew, List.dropLast_concat] at found
    exact keeps found isDirectory
  · rw [gains.get?_eq, if_neg isNew] at present
    obtain ⟨seen, found, isDirectory⟩ := isTree place name present
    exact keeps found isDirectory

theorem Same.isUnused {name : String} (same : tree.Same other) (unused : tree.IsUnused name) :
    other.IsUnused name where
  absent place member := by rw [(same.view place id).1, unused.absent place member]
  links place target link := by
    rw [linkAt?, (same.view place id).1] at link
    exact unused.links place target link

theorem Gains.isUnused {name : String} (gains : start.Gains new node tree)
    (unused : start.IsUnused name) (isFile : node.isFile = true) (outside : name ∉ new) :
    tree.IsUnused name where
  absent place member := by
    rw [gains.get?_eq, if_neg, unused.absent place member]
    rintro rfl
    exact outside member
  links place target link := by
    rw [linkAt?, gains.get?_eq] at link
    split at link
    · rw [Option.bind_some, linkTarget?_of_isFile isFile] at link
      cases link
    · exact unused.links place target link

end FileTree

theorem bind_congr_of_map {α β ε δ : Type} {result other : Except ε α}
    (same : other.map (fun _ => ()) = result.map fun _ => ()) (cause : ε → δ) (rest : Except δ β) :
    (other.mapError cause >>= fun _ => rest) = (result.mapError cause >>= fun _ => rest) := by
  cases result <;> cases other <;> cases same <;> rfl

namespace BuildDirectory

open FileTree

theorem make_congr {host : Host} {path : String} {tree other : FileTree}
    (agree : AgreeAt (tree.wayTo host.directory path) tree other)
    (ends : ∀ place, tree.named? host.directory path = some place →
      other.get? place = tree.get? place ∧ other.get? place.dropLast = tree.get? place.dropLast) :
    (make host path other).map (fun _ => ()) = (make host path tree).map fun _ => () := by
  rw [make, make]
  dsimp only [bind, Except.bind]
  cases octetPath : pathOf path with
  | error cause => rfl
  | ok octets =>
      obtain rfl := pathOf_eq_ok octetPath
      have sameWay : other.resolveNew host.directory path =
          tree.resolveNew host.directory path := resolveNew_congr agree
      dsimp only
      rw [makeDirectory, makeDirectory, sameWay]
      cases resolved : tree.resolveNew host.directory path with
      | error cause => rfl
      | ok place =>
          obtain ⟨samePlace, sameAbove⟩ :=
            ends place (named?_eq_some.mpr ⟨_, octetPath, resolved⟩)
          dsimp only [bind, Except.bind]
          rw [checkChangeable, checkChangeable, isChangeable, isChangeable, samePlace, sameAbove]
          cases (tree.get? place).isSome
          · cases (tree.get? place.dropLast).all fun node =>
              node.allows .write && node.allows .execute <;> rfl
          · rfl

end BuildDirectory

namespace Compiler

open FileTree BuildDirectory

theorem makeDirectory_congr {host : Host} {options : Options} {kind : String}
    {tree other : FileTree}
    (agree : AgreeAt (tree.wayTo host.directory (temporaryPath host options kind)) tree other)
    (ends : ∀ place, tree.named? host.directory (temporaryPath host options kind) = some place →
      other.get? place = tree.get? place ∧ other.get? place.dropLast = tree.get? place.dropLast) :
    (makeDirectory host options kind other).map (fun _ => ()) =
      (makeDirectory host options kind tree).map fun _ => () := by
  have same := make_congr agree ends
  unfold makeDirectory
  cases Path.isAbsolute (scratchRoot host options) with
  | true => simpa using same
  | false =>
      cases host.current with
      | error cause => simp [bind, Except.bind]
      | ok path => simpa [bind, Except.bind] using same

/-! ## Verdicts in either order -/

section

variable {start one other both last : FileTree} {v v' : Except Failure (Location × Inode)}

theorem Settles.comm
    (differ : ∀ new node new' node', v = .ok (new, node) → v' = .ok (new', node') → new ≠ new')
    (first : Settles start one v) (second : Settles one both v') (first' : Settles start other v')
    (second' : Settles other last v) : both.Alike last := by
  cases v with
  | error failure =>
      cases v' with
      | error failure' =>
          have toStart : both.Alike start := second.alike.symm.trans first.alike.symm
          exact toStart.trans (first'.alike.trans second'.alike)
      | ok gain =>
          have same : other.Alike both := first'.alike first.alike second
          exact same.symm.trans second'.alike
  | ok gain =>
      cases v' with
      | error failure =>
          have same : one.Alike last := first.alike first'.alike second'
          exact second.alike.symm.trans same
      | ok gain' => exact first.comm (differ _ _ _ _ rfl rfl) second first' second'

theorem Settles.again (first : Settles start one v) (second : Settles one other v) :
    one.Alike other := by
  cases v with
  | error failure => exact second.alike
  | ok gain => exact first.again second

end

/-! ## What the verdict depends on -/

namespace Compilation

variable {c d : Compilation} {b : Builder} {tree other : FileTree} {region : Location → Prop}

/-- Whatever is looked at by the compilation, but for the ends of the paths that it writes to, lies
outside a region. -/
structure LooksPast (c : Compilation) (b : Builder) (tree : FileTree) (region : Location → Prop) :
    Prop where
  source : ∀ place ∈ tree.way c.host.directory (Octets.ofText c.source) true, ¬region place
  scratch : ∀ place ∈ tree.wayTo c.host.directory c.call.directory.path, ¬region place
  target : ∀ target, c.target = .ok target →
    ∀ place ∈ tree.wayTo c.host.directory target, ¬region place
  lookedUp : ∀ place ∈ b.lookedUp c.program tree, ¬region place

/-- With a location a region has all below it. -/
def IsClosed (region : Location → Prop) : Prop :=
  ∀ place below, region place → Below place below → region below

theorem isClosed_inOutput (c : Compilation) (tree : FileTree) : IsClosed (c.InOutput tree) := by
  rintro place below ⟨new, isOutput, isBelow⟩ further
  exact ⟨new, isOutput, isBelow.trans further⟩

theorem not_region_dropLast {directory place : Location} {path : String}
    (closed : IsClosed region) (past : ∀ place ∈ tree.wayTo directory path, ¬region place)
    (named : tree.named? directory path = some place) : ¬region place.dropLast := by
  intro inside
  obtain ⟨octets, octetPath, resolved⟩ := named?_eq_some.mp named
  obtain rfl := pathOf_eq_ok octetPath
  obtain ⟨trimmed, rfl⟩ | resolved := resolveNew_eq_ok resolved
  · have start : startOf directory (Path.trimSlashes path) ∈
        tree.wayTo directory path := by
      rw [wayTo, way, trimmed]
      exact mem_walkWay_self _ _ _
    exact past _ start (closed [] _ inside List.nil_prefix)
  · obtain ⟨-, -, leads⟩ := resolve_eq_ok_iff.mp resolved
    have some_names : Path.pieces (Path.trimSlashes path) ≠ [] := by
      simp [Path.pieces, Text.pieces_ne_nil]
    obtain ⟨seen, onWay, above, -⟩ := leads.ends_on_way some_names
    exact past seen onWay (closed place.dropLast seen inside above)

theorem LooksPast.emits_congr (past : c.LooksPast b tree region) (closed : IsClosed region)
    (agree : AgreeOutside region tree other) : c.call.emits other = c.call.emits tree := by
  rw [c.call.emits_eq, c.call.emits_eq, emitted, emitted, readText_congr]
  · exact agreeAt_of_agreeOutside agree past.source
  · intro place resolved
    refine (agree place fun inside => ?_).1
    obtain ⟨-, -, leads⟩ := resolve_eq_ok_iff.mp resolved
    have some_names : Path.pieces (Octets.ofText c.call.operation.source) ≠ [] := by
      simp [Path.pieces, Text.pieces_ne_nil]
    obtain ⟨seen, onWay, -, above⟩ := leads.ends_on_way some_names
    exact past.source seen onWay (closed place seen inside (above rfl))

theorem LooksPast.product_congr (past : c.LooksPast b tree region) (closed : IsClosed region)
    (agree : AgreeOutside region tree other) (now : other.now = tree.now) :
    c.product b other = c.product b tree := by
  have refusal : b.refusal? c.program other = b.refusal? c.program tree :=
    b.refusal?_congr c.program tree other (agreeAt_of_agreeOutside agree past.lookedUp)
  have sameNode (entry : Entry) (mode : Nat) :
      other.newNode entry mode = tree.newNode entry mode := by
    rw [newNode, newNode, now]
  rw [product, product, past.emits_congr closed agree]
  simp only [executable, refusal, sameNode]

theorem verdict_congr (past : c.LooksPast b tree region) (closed : IsClosed region)
    (agree : AgreeOutside region tree other) (now : other.now = tree.now)
    (scratch : ∀ place, tree.named? c.host.directory c.call.directory.path = some place →
      ¬region place)
    (ends : ∀ new : Location, c.IsOutput tree new →
      (other.get? new).any Inode.isDirectory = (tree.get? new).any Inode.isDirectory) :
    c.verdict b other = c.verdict b tree := by
  cases isTarget : c.target with
  | error cause => rw [verdict_of_error isTarget, verdict_of_error isTarget]
  | ok target =>
      have sameMake := makeDirectory_congr (agreeAt_of_agreeOutside agree past.scratch)
        fun place named => ⟨(agree place (scratch place named)).1,
          (agree _ (not_region_dropLast closed past.scratch named)).1⟩
      have sameDelivery : c.delivery other target = c.delivery tree target := by
        funext node
        rw [delivery, delivery, arrivalAt_congr (agreeAt_of_agreeOutside agree
          (past.target target isTarget)) fun new named =>
            ⟨?_, ends new (isOutput_of_target isTarget named)⟩]
        exact (agree _ (not_region_dropLast closed (past.target target isTarget) named)).1
      rw [verdict_of_target isTarget, verdict_of_target isTarget, verdictAt, verdictAt,
        sameDelivery, past.product_congr closed agree now]
      exact bind_congr_of_map sameMake Failure.scratch _

/-! ## After another compilation -/

theorem isFile_of_product {node : Inode} (builds : c.product b tree = .ok node) :
    node.isFile = true := by
  rw [product] at builds
  obtain ⟨text, -, builds⟩ := bind_eq_ok.mp builds
  rw [ite_error_eq_ok, executable] at builds
  obtain ⟨-, builds⟩ := builds
  split at builds
  · cases builds
  split at builds
  · cases builds
    rfl
  · cases builds

theorem verdict_eq_ok {new : Location} {node : Inode} (h : c.verdict b tree = .ok (new, node)) :
    ∃ target octets, c.target = .ok target ∧ tree.named? c.host.directory target = some new ∧
      tree.Arrives c.host.directory octets new ∧ node.isFile = true := by
  obtain ⟨target, isTarget, h⟩ := bind_eq_ok.mp h
  obtain ⟨_, -, h⟩ := bind_eq_ok.mp h
  obtain ⟨built, builds, delivers⟩ := bind_eq_ok.mp h
  have isFile := isFile_of_product builds
  have arrives : tree.arrivalAt c.host.directory target = .ok new ∧ built = node := by
    rw [delivery, mapError_eq_ok] at delivers
    cases arrives : tree.arrivalAt c.host.directory target with
    | error cause =>
        rw [arrives] at delivers
        cases delivers
    | ok place =>
        rw [arrives] at delivers
        cases delivers
        exact ⟨rfl, rfl⟩
  obtain ⟨arrives, rfl⟩ := arrives
  obtain ⟨octets, -, fits⟩ := arrivalAt_eq_ok.mp arrives
  exact ⟨target, octets, mapError_eq_ok.mp isTarget, named?_of_arrivalAt arrives, fits, isFile⟩

theorem isOutput_of_verdict {new : Location} {node : Inode}
    (h : c.verdict b tree = .ok (new, node)) : c.IsOutput tree new := by
  obtain ⟨target, octets, isTarget, named, -, -⟩ := verdict_eq_ok h
  exact isOutput_of_target isTarget named

theorem IsOutput.unique {new new' : Location} (one : c.IsOutput tree new)
    (two : c.IsOutput tree new') : new = new' := by
  obtain ⟨target, isTarget, named⟩ := isOutput_iff_target.mp one
  obtain ⟨target', isTarget', named'⟩ := isOutput_iff_target.mp two
  cases isTarget.symm.trans isTarget'
  exact Option.some.inj (named.symm.trans named')

/-- A compilation changes nothing outside its output. -/
theorem agree_of_settles (settled : Settles tree other (c.verdict b tree)) :
    AgreeOutside (c.InOutput tree) tree other ∧ other.now = tree.now := by
  cases isVerdict : c.verdict b tree with
  | error failure =>
      rw [isVerdict] at settled
      exact ⟨settled.view.mono fun _ => False.elim, settled.now⟩
  | ok gain =>
      rw [isVerdict] at settled
      refine ⟨settled.others.mono ?_, settled.now⟩
      rintro place rfl
      exact ⟨_, isOutput_of_verdict isVerdict, List.prefix_refl _⟩

theorem isTree_of_settles (settled : Settles tree other (c.verdict b tree)) (isTree : tree.IsTree) :
    other.IsTree := by
  cases isVerdict : c.verdict b tree with
  | error failure =>
      rw [isVerdict] at settled
      exact settled.isTree isTree
  | ok gain =>
      rw [isVerdict] at settled
      obtain ⟨target, octets, -, -, fits, -⟩ := verdict_eq_ok isVerdict
      exact settled.isTree isTree fits.free fits.directory_dropLast fits.proper

/-- A compilation leaves alone what another one looks at, and its temporary name. -/
structure Spares (c d : Compilation) (b : Builder) (tree : FileTree) : Prop where
  past : d.LooksPast b tree (c.InOutput tree)
  temporary : ∀ new, c.IsOutput tree new → d.temporary ∉ new

namespace Spares

variable (spares : c.Spares d b tree) (settled : Settles tree other (c.verdict b tree))
include spares settled

theorem isUnused (unused : tree.IsUnused d.temporary) : other.IsUnused d.temporary := by
  cases isVerdict : c.verdict b tree with
  | error failure =>
      rw [isVerdict] at settled
      exact settled.isUnused unused
  | ok gain =>
      rw [isVerdict] at settled
      obtain ⟨target, octets, -, -, -, isFile⟩ := verdict_eq_ok isVerdict
      exact settled.isUnused unused isFile
        (spares.temporary gain.1 (isOutput_of_verdict isVerdict))

theorem named?_target {target : String} (isTarget : d.target = .ok target) :
    other.named? d.host.directory target = tree.named? d.host.directory target :=
  named?_congr (agreeAt_of_agreeOutside (agree_of_settles settled).1
    (spares.past.target target isTarget))

theorem isOutput_iff {new : Location} : d.IsOutput other new ↔ d.IsOutput tree new := by
  rw [isOutput_iff_target, isOutput_iff_target]
  refine exists_congr fun target => and_congr_right fun isTarget => ?_
  rw [spares.named?_target settled isTarget]

theorem inOutput_iff {place : Location} : d.InOutput other place ↔ d.InOutput tree place :=
  exists_congr fun _ => and_congr_left fun _ => spares.isOutput_iff settled

theorem wayTo_scratch : other.wayTo d.host.directory d.call.directory.path =
    tree.wayTo d.host.directory d.call.directory.path :=
  way_congr (agreeAt_of_agreeOutside (agree_of_settles settled).1 spares.past.scratch)

theorem lookedUp : b.lookedUp d.program other = b.lookedUp d.program tree :=
  b.lookedUp_congr d.program tree other
    (agreeAt_of_agreeOutside (agree_of_settles settled).1 spares.past.lookedUp)

theorem isChangeable {target : String} {new : Location} (isTarget : d.target = .ok target)
    (named : tree.named? d.host.directory target = some new) :
    other.isChangeable new = tree.isChangeable new := by
  have outside := not_region_dropLast (isClosed_inOutput c tree)
    (spares.past.target target isTarget) named
  rw [FileTree.isChangeable, FileTree.isChangeable, ((agree_of_settles settled).1 _ outside).1]

theorem isReplaceable {target : String} (isTarget : d.target = .ok target)
    (replaceable : tree.IsReplaceable d.host.directory target) :
    other.IsReplaceable d.host.directory target := by
  intro new node named found isFile
  rw [spares.named?_target settled isTarget] at named
  rw [spares.isChangeable settled isTarget named]
  cases isVerdict : c.verdict b tree with
  | error failure =>
      rw [isVerdict] at settled
      rw [(settled.view new id).1] at found
      exact replaceable new node named found isFile
  | ok gain =>
      rw [isVerdict] at settled
      obtain ⟨target', octets, -, -, fits, -⟩ := verdict_eq_ok isVerdict
      by_cases same : new = gain.1
      · rw [same]
        exact fits.changeable
      · rw [(settled.others new same).1] at found
        exact replaceable new node named found isFile

theorem begins (begins : d.Begins b tree) : d.Begins b other where
  alphanumeric := begins.alphanumeric
  obeys := begins.obeys
  isTree := isTree_of_settles settled begins.isTree
  unused := spares.isUnused settled begins.unused
  avoids := {
    directory := begins.avoids.directory
    source := begins.avoids.source
    target := begins.avoids.target
    lookedUp := by
      rw [spares.lookedUp settled]
      exact begins.avoids.lookedUp }
  apart place onWay inside := by
    rw [spares.wayTo_scratch settled] at onWay
    exact begins.apart place onWay ((spares.inOutput_iff settled).mp inside)
  replaceable target isTarget :=
    spares.isReplaceable settled isTarget (begins.replaceable target isTarget)

theorem verdict_eq (begins : d.Begins b tree)
    (ends : ∀ new : Location, d.IsOutput tree new →
      (other.get? new).any Inode.isDirectory = (tree.get? new).any Inode.isDirectory) :
    d.verdict b other = d.verdict b tree := by
  have closed := isClosed_inOutput c tree
  obtain ⟨agree, now⟩ := agree_of_settles settled
  refine verdict_congr spares.past closed agree now (fun place named inside => ?_) ends
  obtain ⟨above, rfl⟩ := last_of_endsIn begins.simple begins.ends named
  obtain ⟨new, isOutput, below⟩ := inside
  rcases List.prefix_concat_iff.mp below with rfl | above_below
  · exact spares.temporary _ isOutput (by simp)
  · refine not_region_dropLast closed spares.past.scratch named ?_
    rw [List.dropLast_concat]
    exact ⟨new, isOutput, above_below⟩

end Spares

/-- Two compilations that can be done from a tree, each with an output that the other one does not
look at and that neither stands above nor below the output of the other. -/
structure Independent (c d : Compilation) (b : Builder) (tree : FileTree) : Prop where
  begins : c.Begins b tree
  otherBegins : d.Begins b tree
  spares : c.Spares d b tree
  otherSpares : d.Spares c b tree
  apart : ∀ new new', c.IsOutput tree new → d.IsOutput tree new' →
    ¬Below new new' ∧ ¬Below new' new

theorem Independent.symm (independent : c.Independent d b tree) : d.Independent c b tree where
  begins := independent.otherBegins
  otherBegins := independent.begins
  spares := independent.otherSpares
  otherSpares := independent.spares
  apart new new' isOutput isOutput' := (independent.apart new' new isOutput' isOutput).symm

/-- After one of two independent compilations the other one has the same verdict. -/
theorem Independent.verdict_eq (independent : c.Independent d b tree)
    (settled : Settles tree other (c.verdict b tree)) : d.verdict b other = d.verdict b tree := by
  refine independent.spares.verdict_eq settled independent.otherBegins fun new isOutput => ?_
  rw [((agree_of_settles settled).1 new ?_).1]
  rintro ⟨new', isOutput', below⟩
  exact (independent.apart new' new isOutput' isOutput).1 below

/-- After a compilation another one to the same place has the verdict that it had before. -/
theorem verdict_again (begins : d.Begins b tree) (spares : c.Spares d b tree)
    (sameOutput : ∀ new, d.IsOutput tree new → c.IsOutput tree new)
    (settled : Settles tree other (c.verdict b tree)) : d.verdict b other = d.verdict b tree := by
  refine spares.verdict_eq settled begins fun new isOutput => ?_
  cases isVerdict : c.verdict b tree with
  | error failure =>
      rw [isVerdict] at settled
      rw [(settled.view new id).1]
  | ok gain =>
      rw [isVerdict] at settled
      obtain ⟨target, octets, -, -, fits, isFile⟩ := verdict_eq_ok isVerdict
      obtain rfl := (sameOutput new isOutput).unique (isOutput_of_verdict isVerdict)
      rw [settled.there, any_isDirectory_eq_false.mpr fits.free, Option.any_some,
        isDirectory_of_isFile isFile]

theorem outcome_eq (before : World) (begins : c.Begins b before.tree) :
    Job.outcome (c.call.result before) = (c.verdict b before.tree).map fun _ => () := by
  rw [(comes_to_verdict before begins).1, Job.outcome_result]

theorem settles_after (before : World) (begins : c.Begins b before.tree) :
    Settles before.tree (c.call.after before).tree (c.verdict b before.tree) :=
  (comes_to_verdict before begins).2

/-- Independent compilations have the same outcomes in either order, and trees are left that look
alike. -/
theorem either_order (before : World) (independent : c.Independent d b before.tree) :
    Job.outcome (d.call.result (c.call.after before)) = Job.outcome (d.call.result before) ∧
      (d.call.after (c.call.after before)).tree.Alike
        (c.call.after (d.call.after before)).tree := by
  have first := settles_after before independent.begins
  have first' := settles_after before independent.otherBegins
  have begins' := independent.spares.begins first independent.otherBegins
  have begins := independent.otherSpares.begins first' independent.begins
  have second := settles_after (c.call.after before) begins'
  have second' := settles_after (d.call.after before) begins
  have sameVerdict := independent.verdict_eq first
  rw [sameVerdict] at second
  rw [independent.symm.verdict_eq first'] at second'
  refine ⟨?_, Settles.comm ?_ first second first' second'⟩
  · rw [outcome_eq _ begins', sameVerdict, outcome_eq _ independent.otherBegins]
  · rintro new node new' node' isVerdict isVerdict' rfl
    exact (independent.apart new new (isOutput_of_verdict isVerdict)
      (isOutput_of_verdict isVerdict')).1 (List.prefix_refl new)

theorem Spares.renamed {suffix : String} (spares : c.Spares d b tree) (begins : d.Begins b tree)
    (sameOutput : ∀ new, c.IsOutput tree new → d.IsOutput tree new)
    (alternative : d.IsAlternative b tree suffix) : c.Spares (d.renamed suffix) b tree where
  past := {
    source := spares.past.source
    scratch := fun place onWay =>
      spares.past.scratch place (alternative.wayTo_scratch begins ▸ onWay)
    target := spares.past.target
    lookedUp := spares.past.lookedUp }
  temporary new isOutput := by
    obtain ⟨target, isTarget, named⟩ := isOutput_iff_target.mp (sameOutput new isOutput)
    exact (alternative.begins_renamed begins).not_mem_output isTarget named

/-- A compilation that has succeeded succeeds again, under whatever temporary name, and changes
nothing any more. -/
theorem succeeds_again (before : World) (begins : c.Begins b before.tree)
    (spares : c.Spares c b before.tree) {suffix : String}
    (alternative : c.IsAlternative b before.tree suffix)
    (succeeds : Job.outcome (c.call.result before) = .ok ()) :
    Job.outcome ((c.renamed suffix).call.result (c.call.after before)) = .ok () ∧
      (c.call.after before).tree.Alike
        ((c.renamed suffix).call.after (c.call.after before)).tree := by
  have settled := settles_after before begins
  have spares' := spares.renamed begins (fun _ => id) alternative
  have ready := alternative.begins_renamed begins
  have ready' := spares'.begins settled ready
  obtain ⟨gain, isVerdict⟩ : ∃ gain, c.verdict b before.tree = .ok gain := by
    rw [outcome_eq before begins] at succeeds
    cases isVerdict : c.verdict b before.tree with
    | error failure =>
        rw [isVerdict] at succeeds
        cases succeeds
    | ok gain => exact ⟨gain, rfl⟩
  -- neither the first run nor the other temporary name changes the verdict
  have sameVerdict : (c.renamed suffix).verdict b (c.call.after before).tree = .ok gain :=
    (verdict_again ready spares' (fun _ => id) settled).trans
      (alternative.verdict_renamed begins isVerdict)
  have settled' := settles_after (c.call.after before) ready'
  rw [sameVerdict] at settled'
  rw [isVerdict] at settled
  refine ⟨?_, settled.again settled'⟩
  rw [outcome_eq _ ready', sameVerdict]
  rfl

/-- Compilations that do not get in each other's way have the same outcomes in either order, and
trees are left that look alike. One that has succeeded succeeds again and changes nothing. -/
theorem independent (c d : Compilation) (b : Builder) (before : World)
    (apart : c.Independent d b before.tree) (spares : c.Spares c b before.tree) :
    Job.outcome (d.call.result (c.call.after before)) = Job.outcome (d.call.result before) ∧
    Job.outcome (c.call.result (d.call.after before)) = Job.outcome (c.call.result before) ∧
    (d.call.after (c.call.after before)).tree.Alike (c.call.after (d.call.after before)).tree ∧
    (Job.outcome (c.call.result before) = .ok () → ∀ suffix,
      c.IsAlternative b before.tree suffix →
        Job.outcome ((c.renamed suffix).call.result (c.call.after before)) = .ok () ∧
        (c.call.after before).tree.Alike
          ((c.renamed suffix).call.after (c.call.after before)).tree) := by
  obtain ⟨sameOther, alike⟩ := either_order before apart
  obtain ⟨same, -⟩ := either_order before apart.symm
  exact ⟨sameOther, same, alike, fun succeeds suffix alternative =>
    succeeds_again before apart.begins spares alternative succeeds⟩

/-! ## A machine that copies -/

theorem inOutput_iff_below {new place : Location} (isOutput : c.IsOutput tree new) :
    c.InOutput tree place ↔ Below new place :=
  ⟨fun ⟨_, isOutput', below⟩ => IsOutput.unique isOutput' isOutput ▸ below,
    fun below => ⟨new, isOutput, below⟩⟩

theorem looksPast_of_all {new : Location} {target : String} (isOutput : c.IsOutput tree new)
    (isTarget : d.target = .ok target)
    (past : (tree.way d.host.directory (Octets.ofText d.source) true ++
      tree.wayTo d.host.directory d.call.directory.path ++ tree.wayTo d.host.directory target ++
      b.lookedUp d.program tree).all (fun place => !new.isPrefixOf place) = true) :
    d.LooksPast b tree (c.InOutput tree) := by
  have outside {place : Location} (member : place ∈ tree.way d.host.directory
      (Octets.ofText d.source) true ++ tree.wayTo d.host.directory d.call.directory.path ++
      tree.wayTo d.host.directory target ++ b.lookedUp d.program tree) :
      ¬c.InOutput tree place := by
    have notBelow := List.all_eq_true.mp past place member
    rw [inOutput_iff_below isOutput, Below, ← List.isPrefixOf_iff_prefix, Bool.not_eq_true]
    simpa only [Bool.not_eq_true'] using notBelow
  refine ⟨fun place onWay => outside (by simp [onWay]),
    fun place onWay => outside (by simp [onWay]),
    fun other isOther place onWay => ?_, fun place isLookedUp => outside (by simp [isLookedUp])⟩
  cases isTarget.symm.trans isOther
  exact outside (by simp [onWay])

end Compilation

namespace Sample

def copier (mode : Nat) : Builder where
  lookedUp program _ := [["bin", program]]
  refusal? program tree :=
    if (tree.get? ["bin", program]).any (·.isProgram) then none else some (.os .noEntry)
  build _ _ text := .ok (text.toUTF8, mode)
  lookedUp_congr _ _ _ _ := rfl
  refusal?_congr program tree other agree := by rw [agree ["bin", program] (by simp)]
  fails _ _ _ _ := nofun

def workshop : FileTree where
  names := [(["w"], 0), (["tmp"], 1), (["bin"], 2), (["bin", "rustc"], 3), (["w", "in.mob"], 4),
    (["o"], 5), (["o", "out"], 6)]
  nodes := [folder, folder, folder, file "", file "print(1)", { folder with mode := 0o555 },
    file "old"]
  now := 0
  sound := by decide

def compilation (mode : Nat) (output : String) : Compilation where
  host := { host "mob_compile_" with launch := (copier mode).launcher ["w"] }
  options := default
  source := "in.mob"
  output := output

theorem isUnused_workshop : workshop.IsUnused "mob_compile_a1" :=
  isUnused_of_names (by decide) (by decide)

theorem avoids {mode : Nat} {output target name : String}
    (isTarget : (compilation mode output).target = .ok target)
    (unmet : name ∉ Path.pieces target)
    (other : name ∉ ["w", "in.mob", "bin", "rustc"]) :
    (compilation mode output).Avoids (copier mode) workshop name := by
  simp only [List.mem_cons, List.not_mem_nil, or_false, not_or] at other
  obtain ⟨directory, source, bin, program⟩ := other
  have pieces : Path.pieces (Octets.ofText "in.mob") = ["in.mob"] := by decide +kernel
  refine ⟨?_, ?_, fun target' isTarget' => ?_, fun place isLookedUp => ?_⟩
  · change name ∉ ["w"]
    simp [directory]
  · change name ∉ Path.pieces (Octets.ofText "in.mob")
    simp [pieces, source]
  · cases isTarget.symm.trans isTarget'
    exact unmet
  · have isPlace : place ∈ [["bin", "rustc"]] := isLookedUp
    obtain rfl := List.mem_singleton.mp isPlace
    simp [bin, program]

theorem ready {mode : Nat} {output target : String} {new : Location}
    (isTarget : (compilation mode output).target = .ok target)
    (named : workshop.named? ["w"] target = some new)
    (unmet : "mob_compile_a1" ∉ Path.pieces target)
    (past : (compilation mode output).LooksPast (copier mode) workshop
      ((compilation mode output).InOutput workshop)) :
    (compilation mode output).Ready (copier mode) workshop ∧
      (compilation mode output).Spares (compilation mode output) (copier mode) workshop := by
  have newName : "mob_compile_a1" ∉ new :=
    not_mem_of_named isUnused_workshop.links (by decide) unmet named
  have alphanumeric : "a1".toList.all Char.isAlphanum = true := by decide
  have other : "mob_compile_a1" ∉ ["w", "in.mob", "bin", "rustc"] := by decide
  refine ⟨⟨alphanumeric, obeys_launcher rfl, isTree_of_names (by decide), isUnused_workshop,
    avoids isTarget unmet other, past.scratch⟩, past, fun place isOutput => ?_⟩
  obtain rfl := isOutput.unique (Compilation.isOutput_of_target isTarget named)
  exact newName

theorem begins {mode : Nat} {output target : String} {new : Location}
    (isTarget : (compilation mode output).target = .ok target)
    (named : workshop.named? ["w"] target = some new)
    (ready : (compilation mode output).Ready (copier mode) workshop)
    (changeable : workshop.isChangeable new = true) :
    (compilation mode output).Begins (copier mode) workshop where
  toReady := ready
  replaceable other isOther place node namedOther _ _ := by
    cases isTarget.symm.trans isOther
    cases named.symm.trans namedOther
    exact changeable

end Sample

/-- Two files are built side by side in the workshop, and the first one once more. -/
theorem independent_sample :
    let c := Sample.compilation 0o755 "a"
    let d := Sample.compilation 0o755 "b"
    let before := World.ofTree Sample.workshop
    c.Independent d (Sample.copier 0o755) before.tree ∧
    c.Spares c (Sample.copier 0o755) before.tree ∧
    Job.outcome (d.call.result (c.call.after before)) = Job.outcome (d.call.result before) ∧
    Job.outcome (c.call.result (d.call.after before)) = .ok () ∧
    (d.call.after (c.call.after before)).tree.Alike (c.call.after (d.call.after before)).tree ∧
    Job.outcome ((c.renamed "b2").call.result (c.call.after before)) = .ok () ∧
    (c.call.after before).tree.Alike ((c.renamed "b2").call.after (c.call.after before)).tree := by
  intro c d before
  have cTarget : c.target = .ok "/w/a" := by decide +kernel
  have dTarget : d.target = .ok "/w/b" := by decide +kernel
  have cNamed : Sample.workshop.named? ["w"] "/w/a" = some ["w", "a"] := by decide +kernel
  have dNamed : Sample.workshop.named? ["w"] "/w/b" = some ["w", "b"] := by decide +kernel
  have cOutput : c.IsOutput before.tree ["w", "a"] :=
    Compilation.isOutput_of_target cTarget cNamed
  have dOutput : d.IsOutput before.tree ["w", "b"] :=
    Compilation.isOutput_of_target dTarget dNamed
  obtain ⟨cReady, cSpares⟩ := Sample.ready cTarget cNamed (by decide +kernel)
    (Compilation.looksPast_of_all cOutput cTarget (by decide +kernel))
  obtain ⟨dReady, dSpares⟩ := Sample.ready dTarget dNamed (by decide +kernel)
    (Compilation.looksPast_of_all dOutput dTarget (by decide +kernel))
  have apart : c.Independent d (Sample.copier 0o755) before.tree := {
    begins := Sample.begins cTarget cNamed cReady (by decide +kernel)
    otherBegins := Sample.begins dTarget dNamed dReady (by decide +kernel)
    spares := ⟨Compilation.looksPast_of_all cOutput dTarget (by decide +kernel), cSpares.temporary⟩
    otherSpares :=
      ⟨Compilation.looksPast_of_all dOutput cTarget (by decide +kernel), dSpares.temporary⟩
    apart := fun new new' isOutput isOutput' => by
      obtain rfl := isOutput.unique cOutput
      obtain rfl := isOutput'.unique dOutput
      simp [Below] }
  have alternative : c.IsAlternative (Sample.copier 0o755) before.tree "b2" := {
    size := by decide
    alphanumeric := by decide
    unused := isUnused_of_names (by decide) (by decide)
    avoids := Sample.avoids cTarget (by decide +kernel) (by decide) }
  have cSucceeds : Job.outcome (c.call.result before) = .ok () := by decide +kernel
  obtain ⟨sameD, sameC, alike, again⟩ :=
    Compilation.independent c d (Sample.copier 0o755) before apart cSpares
  obtain ⟨succeeds, unchanged⟩ := again cSucceeds "b2" alternative
  exact ⟨apart, cSpares, sameD, sameC.trans cSucceeds, alike, succeeds, unchanged⟩

/-- Where a file stands at the output in a directory that allows no change, its content and its mode
are replaced, and then it cannot be replaced any more. -/
theorem not_always_again : ¬∀ (c : Compilation) (b : Builder) (before : World),
    c.Ready b before.tree → c.Spares c b before.tree →
    Job.outcome (c.call.result before) = .ok () →
    Job.outcome (c.call.result (c.call.after before)) = .ok () := by
  intro again
  have isTarget : (Sample.compilation 0o555 "/o/out").target = .ok "/o/out" := by decide +kernel
  have named : Sample.workshop.named? ["w"] "/o/out" = some ["o", "out"] := by decide +kernel
  have isOutput := Compilation.isOutput_of_target isTarget named
  obtain ⟨ready, spares⟩ := Sample.ready isTarget named (by decide +kernel)
    (Compilation.looksPast_of_all isOutput isTarget (by decide +kernel))
  have succeeds : Job.outcome ((Sample.compilation 0o555 "/o/out").call.result
      (.ofTree Sample.workshop)) = .ok () := by
    decide +kernel
  have fails : Job.outcome ((Sample.compilation 0o555 "/o/out").call.result
      ((Sample.compilation 0o555 "/o/out").call.after (.ofTree Sample.workshop))) =
        .error (.scratch (.os .permission)) := by
    decide +kernel
  rw [again _ _ (.ofTree Sample.workshop) ready spares succeeds] at fails
  cases fails

end Compiler

end CallScript
