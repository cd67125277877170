import CallScript.Proofs.PathText

/-!
# Where paths lead

Following a path as a relation with one rule for each kind of name, and what it depends on.

* `FileTree.walk_eq_ok_iff`: the relation is what following computes.
* `FileTree.Leads.grow`: a path to a name leads to the same location when nodes are added.
* `FileTree.Leads.follow`, `FileTree.Leads.unfollowed`: with and without following a last link.
* `FileTree.Leads.append`: following a path and then more names.
* `FileTree.Leads.last_step`: the last name by itself, and from it `FileTree.Leads.last_name` and
  `FileTree.Leads.directory_of_dots`.
-/

namespace CallScript.FileTree

/-! ## The relation -/

/-- A directory in which a name can be looked up. An empty name needs no permission. -/
def Enters (tree : FileTree) (here : Location) (name : String) : Prop :=
  ∃ node, tree.get? here = some node ∧ node.isDirectory = true ∧
    (name ≠ "" → node.allows .execute = true)

def linkAt? (tree : FileTree) (place : Location) : Option String :=
  (tree.get? place).bind Inode.linkTarget?

theorem linkAt?_of_isDirectory {tree : FileTree} {place : Location} {node : Inode}
    (found : tree.get? place = some node) (isDirectory : node.isDirectory = true) :
    tree.linkAt? place = none := by
  rw [linkAt?, found, Option.bind_some, Inode.linkTarget?]
  rw [Inode.isDirectory] at isDirectory
  split <;> simp_all

theorem linkAt?_of_absent {tree : FileTree} {place : Location} (absent : tree.get? place = none) :
    tree.linkAt? place = none := by
  rw [linkAt?, absent, Option.bind_none]

/-- A name that leads down, and is not too long. -/
def IsEntryName (name : String) : Prop :=
  name ∉ ["", ".", ".."] ∧ name.length ≤ nameLimit

/-- Following names from a location leads to a location past at most the given number of links. -/
inductive Leads (tree : FileTree) (follows : Bool) :
    Nat → Location → List String → Location → Prop
  | arrived (links : Nat) (here : Location) : Leads tree follows links here [] here
  | stay {links : Nat} {here place : Location} {name : String} {rest : List String}
      (enters : tree.Enters here name) (dot : name = "" ∨ name = ".")
      (behind : Leads tree follows links here rest place) :
      Leads tree follows links here (name :: rest) place
  | up {links : Nat} {here place : Location} {rest : List String}
      (enters : tree.Enters here "..")
      (behind : Leads tree follows links here.dropLast rest place) :
      Leads tree follows links here (".." :: rest) place
  | down {links : Nat} {here place : Location} {name : String} {rest : List String}
      (enters : tree.Enters here name) (isName : IsEntryName name)
      (noLink : tree.linkAt? (here ++ [name]) = none)
      (behind : Leads tree follows links (here ++ [name]) rest place) :
      Leads tree follows links here (name :: rest) place
  | lastLink {links : Nat} {here : Location} {name target : String} (enters : tree.Enters here name)
      (isName : IsEntryName name) (link : tree.linkAt? (here ++ [name]) = some target)
      (unfollowed : follows = false) : Leads tree follows links here [name] (here ++ [name])
  | jump {links : Nat} {here place : Location} {name target : String} {rest : List String}
      (enters : tree.Enters here name) (isName : IsEntryName name)
      (link : tree.linkAt? (here ++ [name]) = some target) (goesOn : rest ≠ [] ∨ follows = true)
      (behind : Leads tree follows links (if Path.isAbsolute target then [] else here)
        (Path.pieces target ++ rest) place) :
      Leads tree follows (links + 1) here (name :: rest) place

variable {tree other : FileTree} {follows : Bool} {links : Nat} {here place : Location}
  {names : List String}

theorem stops_eq_false_iff {rest : List String} :
    (rest.isEmpty && !follows) = false ↔ rest ≠ [] ∨ follows = true := by
  cases rest <;> cases follows <;> simp

theorem steps_enters {jump : Location → List String → Except OsError Location} {name : String}
    {rest : List String} (h : tree.steps follows jump here (name :: rest) = .ok place) :
    tree.Enters here name := by
  rw [steps] at h
  cases found : tree.get? here with
  | none => simp [found] at h
  | some node =>
      refine ⟨node, found, ?_, fun named => ?_⟩
      · by_contra noDirectory
        rw [Bool.not_eq_true] at noDirectory
        simp [found, noDirectory] at h
      · by_contra refused
        rw [Bool.not_eq_true] at refused
        cases isDirectory : node.isDirectory <;> simp [found, isDirectory, named, refused] at h

theorem steps_of_enters (jump : Location → List String → Except OsError Location) {name : String}
    (enters : tree.Enters here name) (rest : List String) :
    tree.steps follows jump here (name :: rest) =
      if name = "" ∨ name = "." then tree.steps follows jump here rest
      else if name = ".." then tree.steps follows jump here.dropLast rest
      else if nameLimit < name.length then .error .nameTooLong
      else
        match tree.linkAt? (here ++ [name]) with
        | none => tree.steps follows jump (here ++ [name]) rest
        | some target =>
            if rest.isEmpty && !follows then .ok (here ++ [name])
            else
              jump (if Path.isAbsolute target then [] else here) (Path.pieces target ++ rest) := by
  obtain ⟨node, found, isDirectory, allowed⟩ := enters
  rw [steps, found]
  by_cases empty : name = ""
  · simp [isDirectory, empty]
  · simp only [isDirectory, allowed empty, empty, false_or, linkAt?]
    rfl

theorem steps_of_isName (jump : Location → List String → Except OsError Location) {name : String}
    (enters : tree.Enters here name) (isName : IsEntryName name) (rest : List String) :
    tree.steps follows jump here (name :: rest) =
      match tree.linkAt? (here ++ [name]) with
      | none => tree.steps follows jump (here ++ [name]) rest
      | some target =>
          if rest.isEmpty && !follows then .ok (here ++ [name])
          else jump (if Path.isAbsolute target then [] else here) (Path.pieces target ++ rest) := by
  obtain ⟨proper, short⟩ := isName
  simp only [List.mem_cons, List.not_mem_nil, or_false, not_or] at proper
  rw [steps_of_enters jump enters, if_neg (by simp [proper]), if_neg proper.2.2,
    if_neg (Nat.not_lt.mpr short)]

theorem leads_of_steps {jump : Location → List String → Except OsError Location}
    (jumps : ∀ here names place, jump here names = .ok place →
      ∃ fewer, links = fewer + 1 ∧ Leads tree follows fewer here names place)
    (h : tree.steps follows jump here names = .ok place) :
    Leads tree follows links here names place := by
  -- on the names; each branch that does not fail is a rule
  induction names generalizing here with
  | nil =>
      rw [steps, Except.ok.injEq] at h
      exact h ▸ .arrived links here
  | cons name rest ih =>
      have enters := steps_enters h
      rw [steps_of_enters jump enters] at h
      split at h
      · next dot => exact .stay enters dot (ih h)
      split at h
      · next dots =>
          subst dots
          exact .up enters (ih h)
      split at h
      · cases h
      have isName : IsEntryName name := by
        refine ⟨?_, by omega⟩
        simp_all
      split at h
      · next noLink => exact .down enters isName noLink (ih h)
      · next target link =>
          split at h
          · next last =>
              obtain ⟨ended, unfollowed⟩ : rest = [] ∧ follows = false := by simpa using last
              subst ended
              rw [Except.ok.injEq] at h
              exact h ▸ .lastLink enters isName link unfollowed
          · next goesOn =>
              obtain ⟨fewer, rfl, behind⟩ := jumps _ _ _ h
              exact .jump enters isName link (stops_eq_false_iff.mp (by simpa using goesOn)) behind

theorem leads_of_walk (h : tree.walk follows links here names = .ok place) :
    Leads tree follows links here names place := by
  induction links generalizing here names place with
  | zero =>
      rw [walk] at h
      exact leads_of_steps (fun _ _ _ jumped => by cases jumped) h
  | succ links ih =>
      rw [walk] at h
      exact leads_of_steps (fun _ _ _ jumped => ⟨links, rfl, ih jumped⟩) h

theorem walk_eq_steps (tree : FileTree) (follows : Bool) (links : Nat) :
    ∃ jump, tree.walk follows links = tree.steps follows jump := by
  cases links <;> exact ⟨_, rfl⟩

theorem walk_of_leads (h : Leads tree follows links here names place) :
    tree.walk follows links here names = .ok place := by
  induction h with
  | arrived links here =>
      obtain ⟨jump, walks⟩ := walk_eq_steps tree follows links
      rw [walks, steps]
  | @stay links here place name rest enters dot _ ih =>
      obtain ⟨jump, walks⟩ := walk_eq_steps tree follows links
      rw [walks] at ih ⊢
      rw [steps_of_enters jump enters, if_pos dot, ih]
  | @up links here place rest enters _ ih =>
      obtain ⟨jump, walks⟩ := walk_eq_steps tree follows links
      rw [walks] at ih ⊢
      rw [steps_of_enters jump enters, if_neg (by decide), if_pos rfl, ih]
  | @down links here place name rest enters isName noLink _ ih =>
      obtain ⟨jump, walks⟩ := walk_eq_steps tree follows links
      rw [walks] at ih ⊢
      rw [steps_of_isName jump enters isName, noLink]
      exact ih
  | @lastLink links here name target enters isName link unfollowed =>
      obtain ⟨jump, walks⟩ := walk_eq_steps tree follows links
      rw [walks, steps_of_isName jump enters isName, link]
      simp [unfollowed]
  | @jump links here place name target rest enters isName link goesOn _ ih =>
      rw [walk, steps_of_isName _ enters isName, link]
      simp only [stops_eq_false_iff.mpr goesOn, ih, Bool.false_eq_true, ↓reduceIte]

theorem walk_eq_ok_iff : tree.walk follows links here names = .ok place ↔
    Leads tree follows links here names place := ⟨leads_of_walk, walk_of_leads⟩

/-! ## More nodes -/

theorem Enters.grow {name : String} (enters : tree.Enters here name)
    (grows : ∀ place node, tree.get? place = some node → other.get? place = some node) :
    other.Enters here name := by
  obtain ⟨node, found, isDirectory, allowed⟩ := enters
  exact ⟨node, grows here node found, isDirectory, allowed⟩

theorem Enters.isSome_get? {name : String} (enters : tree.Enters here name) :
    (tree.get? here).isSome = true := by
  obtain ⟨node, found, -⟩ := enters
  simp [found]

theorem Leads.isSome_get? (h : Leads tree follows links here names place)
    (more : names ≠ []) : (tree.get? here).isSome = true := by
  cases h with
  | arrived => exact absurd rfl more
  | stay enters => exact enters.isSome_get?
  | up enters => exact enters.isSome_get?
  | down enters => exact enters.isSome_get?
  | lastLink enters => exact enters.isSome_get?
  | jump enters => exact enters.isSome_get?

theorem Leads.grow (h : Leads tree false links here names place)
    (grows : ∀ place node, tree.get? place = some node → other.get? place = some node) :
    Leads other false links here names place := by
  have linkKept {place : Location} {target : String} (link : tree.linkAt? place = some target) :
      other.linkAt? place = some target := by
    obtain ⟨node, found, isLink⟩ := Option.bind_eq_some_iff.mp link
    exact Option.bind_eq_some_iff.mpr ⟨node, grows _ node found, isLink⟩
  induction h with
  | arrived links here => exact .arrived links here
  | stay enters dot _ ih => exact .stay (enters.grow grows) dot ih
  | up enters _ ih => exact .up (enters.grow grows) ih
  | @down links here place name rest enters isName noLink behind ih =>
      cases added : other.linkAt? (here ++ [name]) with
      | none => exact .down (enters.grow grows) isName added ih
      | some target =>
          -- only a node that was not there can have become a link, and it is the last one
          cases found : tree.get? (here ++ [name]) with
          | some node =>
              have kept := grows _ node found
              simp only [linkAt?, found, kept] at noLink added
              rw [noLink] at added
              cases added
          | none =>
              cases rest with
              | cons next rest =>
                  have present := behind.isSome_get? (List.cons_ne_nil next rest)
                  simp [found] at present
              | nil =>
                  cases behind
                  exact .lastLink (enters.grow grows) isName added rfl
  | lastLink enters isName link unfollowed =>
      exact .lastLink (enters.grow grows) isName (linkKept link) unfollowed
  | jump enters isName link goesOn _ ih =>
      exact .jump (enters.grow grows) isName (linkKept link) goesOn ih

/-! ## Following a last link or not -/

theorem Leads.unfollowed (h : Leads tree true links here names place) :
    ∃ named, Leads tree false links here names named := by
  induction h with
  | arrived links here => exact ⟨here, .arrived links here⟩
  | stay enters dot _ ih =>
      obtain ⟨named, behind⟩ := ih
      exact ⟨named, .stay enters dot behind⟩
  | up enters _ ih =>
      obtain ⟨named, behind⟩ := ih
      exact ⟨named, .up enters behind⟩
  | down enters isName noLink _ ih =>
      obtain ⟨named, behind⟩ := ih
      exact ⟨named, .down enters isName noLink behind⟩
  | lastLink enters isName link unfollowed => cases unfollowed
  | @jump links here place name target rest enters isName link goesOn _ ih =>
      cases rest with
      | nil => exact ⟨_, .lastLink enters isName link rfl⟩
      | cons next rest =>
          obtain ⟨named, behind⟩ := ih
          exact ⟨named, .jump enters isName link (.inl (by simp)) behind⟩

theorem Leads.follow (h : Leads tree false links here names place)
    (noLink : tree.linkAt? place = none) : Leads tree true links here names place := by
  induction h with
  | arrived links here => exact .arrived links here
  | stay enters dot _ ih => exact .stay enters dot (ih noLink)
  | up enters _ ih => exact .up enters (ih noLink)
  | down enters isName noLinkHere _ ih => exact .down enters isName noLinkHere (ih noLink)
  | lastLink enters isName link unfollowed =>
      rw [noLink] at link
      cases link
  | jump enters isName link goesOn _ ih =>
      exact .jump enters isName link (.inr rfl) (ih noLink)

/-! ## More names -/

theorem Leads.append {more : List String} {last : Location}
    (h : Leads tree false links here names place) (noLink : tree.linkAt? place = none)
    (more_ne : more ≠ [])
    (behind : ∀ fewer, Leads tree follows fewer place more last) :
    Leads tree follows links here (names ++ more) last := by
  induction h with
  | arrived links here => exact behind links
  | stay enters dot _ ih => exact .stay enters dot (ih noLink behind)
  | up enters _ ih => exact .up enters (ih noLink behind)
  | down enters isName noLinkHere _ ih => exact .down enters isName noLinkHere (ih noLink behind)
  | lastLink enters isName link unfollowed =>
      rw [noLink] at link
      cases link
  | @jump links here place name target rest enters isName link goesOn _ ih =>
      have behind' := ih noLink behind
      rw [List.append_assoc] at behind'
      exact .jump enters isName link (.inl (by simp [more_ne])) behind'

theorem Leads.present_above {more : String}
    (h : Leads tree follows links here (names ++ [more]) place) :
    ∃ above, Leads tree false links here names above ∧ (tree.get? above).isSome = true := by
  have noName {links : Nat} {here : Location} {name : String} (enters : tree.Enters here name) :
      ∃ above, Leads tree false links here [] above ∧ (tree.get? above).isSome = true :=
    ⟨here, .arrived links here, enters.isSome_get?⟩
  generalize whole : names ++ [more] = full at h
  induction h generalizing names with
  | arrived => simp at whole
  | @stay links here place first rest enters dot behind ih =>
      cases names with
      | nil => exact noName enters
      | cons name front =>
          obtain ⟨rfl, rfl⟩ := List.cons.inj whole
          obtain ⟨above, leads, present⟩ := ih rfl
          exact ⟨above, .stay enters dot leads, present⟩
  | @up links here place rest enters behind ih =>
      cases names with
      | nil => exact noName enters
      | cons name front =>
          obtain ⟨rfl, rfl⟩ := List.cons.inj whole
          obtain ⟨above, leads, present⟩ := ih rfl
          exact ⟨above, .up enters leads, present⟩
  | @down links here place first rest enters isName noLink behind ih =>
      cases names with
      | nil => exact noName enters
      | cons name front =>
          obtain ⟨rfl, rfl⟩ := List.cons.inj whole
          obtain ⟨above, leads, present⟩ := ih rfl
          exact ⟨above, .down enters isName noLink leads, present⟩
  | @lastLink links here first target enters isName link unfollowed =>
      cases names with
      | nil => exact noName enters
      | cons name front => simp at whole
  | @jump links here place first target rest enters isName link goesOn behind ih =>
      cases names with
      | nil => exact noName enters
      | cons name front =>
          obtain ⟨rfl, rfl⟩ := List.cons.inj whole
          cases front with
          | nil =>
              -- the link is now the last name, and stands for itself
              obtain ⟨node, found, -⟩ := Option.bind_eq_some_iff.mp link
              exact ⟨_, .lastLink enters isName link rfl, by simp [found]⟩
          | cons next front =>
              obtain ⟨above, leads, present⟩ :=
                ih (List.append_assoc (Path.pieces target) (next :: front) [more])
              exact ⟨above, .jump enters isName link (.inl (by simp)) leads, present⟩

/-! ## The last name -/

theorem Leads.last_step {name : String} (h : Leads tree follows links here names place)
    (last : names.getLast? = some name) :
    ∃ fewer above, Leads tree follows fewer above [name] place := by
  induction h with
  | arrived => cases last
  | @stay links here place first rest enters dot behind ih =>
      cases rest with
      | nil =>
          obtain rfl : first = name := by simpa using last
          exact ⟨links, here, .stay enters dot behind⟩
      | cons next rest => exact ih (by simpa using last)
  | @up links here place rest enters behind ih =>
      cases rest with
      | nil =>
          obtain rfl : ".." = name := by simpa using last
          exact ⟨links, here, .up enters behind⟩
      | cons next rest => exact ih (by simpa using last)
  | @down links here place first rest enters isName noLink behind ih =>
      cases rest with
      | nil =>
          obtain rfl : first = name := by simpa using last
          exact ⟨links, here, .down enters isName noLink behind⟩
      | cons next rest => exact ih (by simpa using last)
  | @lastLink links here first target enters isName link unfollowed =>
      obtain rfl : first = name := by simpa using last
      exact ⟨links, here, .lastLink enters isName link unfollowed⟩
  | @jump links here place first target rest enters isName link goesOn behind ih =>
      cases rest with
      | nil =>
          obtain rfl : first = name := by simpa using last
          exact ⟨links + 1, here, .jump enters isName link goesOn behind⟩
      | cons next rest =>
          refine ih ?_
          rw [List.getLast?_append_of_ne_nil _ (by simp)]
          simpa using last

theorem Leads.single_name {name : String} (h : Leads tree false links here [name] place)
    (isName : name ∉ ["", ".", ".."]) : place = here ++ [name] ∧ tree.Enters here name := by
  cases h with
  | stay enters dot behind => exact absurd (by simpa using dot.imp_right .inl) isName
  | up enters behind => simp at isName
  | down enters _ noLink behind =>
      cases behind
      exact ⟨rfl, enters⟩
  | lastLink enters _ link unfollowed => exact ⟨rfl, enters⟩
  | jump enters _ link goesOn behind => simp at goesOn

theorem Leads.last_name {name : String} (h : Leads tree false links here names place)
    (last : names.getLast? = some name) (isName : name ∉ ["", ".", ".."]) :
    ∃ above, place = above ++ [name] := by
  obtain ⟨fewer, above, step⟩ := h.last_step last
  exact ⟨above, (step.single_name isName).1⟩

theorem Leads.directory_dropLast {name : String} (h : Leads tree false links here names place)
    (last : names.getLast? = some name) (isName : name ∉ ["", ".", ".."]) :
    ∃ node, tree.get? place.dropLast = some node ∧ node.isDirectory = true := by
  obtain ⟨fewer, above, step⟩ := h.last_step last
  obtain ⟨rfl, node, found, isDirectory, -⟩ := step.single_name isName
  exact ⟨node, by rwa [List.dropLast_concat], isDirectory⟩

/-! ## Whole paths -/

def startOf (directory : Location) (path : String) : Location :=
  if Path.isAbsolute path then [] else directory

theorem resolve_eq_ok_iff {directory : Location} {path : String} :
    tree.resolve directory path follows = .ok place ↔
      path.isEmpty = false ∧ path.length < pathLimit ∧
        Leads tree follows linkLimit (startOf directory path) (Path.pieces path) place := by
  rw [resolve, ← walk_eq_ok_iff, startOf]
  by_cases empty : path.isEmpty = true
  · simp [empty]
  by_cases long : pathLimit ≤ path.length
  · simp [empty, long, Nat.not_lt.mpr long]
  · simp [empty, long, Nat.lt_of_not_le long]

theorem resolve_unfollowed {directory : Location} {path : String}
    (h : tree.resolve directory path true = .ok place) :
    ∃ named, tree.resolve directory path false = .ok named := by
  obtain ⟨nonempty, short, leads⟩ := resolve_eq_ok_iff.mp h
  obtain ⟨named, unfollowed⟩ := leads.unfollowed
  exact ⟨named, resolve_eq_ok_iff.mpr ⟨nonempty, short, unfollowed⟩⟩

theorem resolve_follow {directory : Location} {path : String}
    (h : tree.resolve directory path false = .ok place) (noLink : tree.linkAt? place = none) :
    tree.resolve directory path true = .ok place := by
  obtain ⟨nonempty, short, leads⟩ := resolve_eq_ok_iff.mp h
  exact resolve_eq_ok_iff.mpr ⟨nonempty, short, leads.follow noLink⟩

theorem resolveNew_eq_ok {directory : Location} {path : String}
    (h : tree.resolveNew directory path = .ok place) :
    Path.trimSlashes path = "" ∧ place = [] ∨
      tree.resolve directory (Path.trimSlashes path) false = .ok place := by
  rw [resolveNew] at h
  split at h
  · cases h
  split at h
  · cases h
  dsimp only at h
  split at h
  · next empty => exact .inl ⟨by simpa using empty, (Except.ok.inj h).symm⟩
  · exact .inr h

theorem resolveNew_eq_resolve {directory : Location} {path : String}
    (noSlash : Path.endsInSlash path = false) :
    tree.resolveNew directory path = tree.resolve directory path false := by
  simp only [resolveNew, Path.trimSlashes_eq_self noSlash, resolve]
  by_cases empty : path.isEmpty = true
  · simp [empty]
  by_cases long : pathLimit ≤ path.length
  · simp [empty, long]
  · simp [empty, long]

/-! ## Trees in which every node stands in a directory -/

/-- Whatever has a name stands in a directory. -/
def IsTree (tree : FileTree) : Prop :=
  ∀ place name, (tree.get? (place ++ [name])).isSome = true →
    ∃ node, tree.get? place = some node ∧ node.isDirectory = true

theorem IsTree.directory_above (isTree : tree.IsTree) {above below : Location}
    (present : (tree.get? (above ++ below)).isSome = true) (proper : below ≠ []) :
    ∃ node, tree.get? above = some node ∧ node.isDirectory = true := by
  induction below using List.reverseRecOn with
  | nil => exact absurd rfl proper
  | append_singleton below name ih =>
      rw [← List.append_assoc] at present
      obtain ⟨node, found, isDirectory⟩ := isTree (above ++ below) name present
      by_cases direct : below = []
      · exact ⟨node, by simpa [direct] using found, isDirectory⟩
      · exact ih (by simp [found]) direct

theorem IsTree.directory_dropLast (isTree : tree.IsTree) {node : Inode}
    (found : tree.get? here = some node) (isDirectory : node.isDirectory = true) :
    ∃ node, tree.get? here.dropLast = some node ∧ node.isDirectory = true := by
  rcases List.eq_nil_or_concat' here with rfl | ⟨above, name, rfl⟩
  · exact ⟨node, found, isDirectory⟩
  · rw [List.dropLast_concat]
    exact isTree above name (by simp [found])

theorem Leads.directory_of_dots (isTree : tree.IsTree)
    (h : Leads tree follows links here names place)
    (dots : names.getLast? ∈ [some "", some ".", some ".."]) :
    ∃ node, tree.get? place = some node ∧ node.isDirectory = true := by
  obtain ⟨name, last, isDots⟩ : ∃ name, names.getLast? = some name ∧ name ∈ ["", ".", ".."] := by
    obtain ⟨name, member, same⟩ :
        ∃ name ∈ ["", ".", ".."], some name = names.getLast? := List.mem_map.mp dots
    exact ⟨name, same.symm, member⟩
  obtain ⟨fewer, above, step⟩ := h.last_step last
  cases step with
  | stay enters dot behind =>
      cases behind
      obtain ⟨node, found, isDirectory, -⟩ := enters
      exact ⟨node, found, isDirectory⟩
  | up enters behind =>
      cases behind
      obtain ⟨node, found, isDirectory, -⟩ := enters
      exact isTree.directory_dropLast found isDirectory
  | down enters isName noLink behind => exact absurd isDots isName.1
  | lastLink enters isName link unfollowed => exact absurd isDots isName.1
  | jump enters isName link goesOn behind => exact absurd isDots isName.1

end CallScript.FileTree
