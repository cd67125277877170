import CallScript.Proofs.Agreement

/-!
# The way of a path

The locations that are looked at when a path is followed. Trees that show the same nodes there lead
the path to the same location, or stop it with the same error.

* `FileTree.resolve_congr`, `FileTree.resolveNew_congr`: only the nodes on the way matter.
* `FileTree.Leads.ends_on_way`: a path ends where it is looked at, or right below.
* `FileTree.resolve_error_follow`: errors before a last link.
* `FileTree.not_mem_of_way`: a name that nothing on the way mentions is not met on it.
-/

namespace CallScript.FileTree

/-! ## Locations looked at -/

/-- The locations that are looked at when names are followed from a location. A last name that is
not followed is not looked at. What is looked at behind a link is left to `jump`. -/
def stepsWay (tree : FileTree) (follows : Bool) (jump : Location → List String → List Location) :
    Location → List String → List Location
  | _, [] => []
  | here, name :: rest =>
      here ::
        match tree.get? here with
        | none => []
        | some node =>
            if !node.isDirectory then []
            else if name = "" then stepsWay tree follows jump here rest
            else if !node.allows .execute then []
            else if name = "." then stepsWay tree follows jump here rest
            else if name = ".." then stepsWay tree follows jump here.dropLast rest
            else if nameLimit < name.length || rest.isEmpty && !follows then []
            else
              (here ++ [name]) ::
                match (tree.get? (here ++ [name])).bind Inode.linkTarget? with
                | none => stepsWay tree follows jump (here ++ [name]) rest
                | some target =>
                    jump (if Path.isAbsolute target then [] else here) (Path.pieces target ++ rest)

def walkWay (tree : FileTree) (follows : Bool) : Nat → Location → List String → List Location
  | 0 => tree.stepsWay follows fun _ _ => []
  | links + 1 => tree.stepsWay follows (tree.walkWay follows links)

def way (tree : FileTree) (directory : Location) (path : String) (follows : Bool) :
    List Location :=
  tree.walkWay follows linkLimit (startOf directory path) (Path.pieces path)

/-! ## Trees that agree on the way -/

/-- The trees show the same nodes at the locations. -/
def AgreeAt (places : List Location) (tree other : FileTree) : Prop :=
  ∀ place ∈ places, other.get? place = tree.get? place

variable {tree other : FileTree} {follows : Bool} {directory here : Location} {path : String}
  {names : List String}

theorem agreeAt_cons {place : Location} {places : List Location} :
    AgreeAt (place :: places) tree other ↔
      other.get? place = tree.get? place ∧ AgreeAt places tree other := List.forall_mem_cons

theorem stepsWay_of_enters (ways : Location → List String → List Location) {name : String}
    (enters : tree.Enters here name) (rest : List String) :
    tree.stepsWay follows ways here (name :: rest) =
      here ::
        if name = "" ∨ name = "." then tree.stepsWay follows ways here rest
        else if name = ".." then tree.stepsWay follows ways here.dropLast rest
        else if nameLimit < name.length || rest.isEmpty && !follows then []
        else
          (here ++ [name]) ::
            match tree.linkAt? (here ++ [name]) with
            | none => tree.stepsWay follows ways (here ++ [name]) rest
            | some target =>
                ways (if Path.isAbsolute target then [] else here)
                  (Path.pieces target ++ rest) := by
  obtain ⟨node, found, isDirectory, allowed⟩ := enters
  rw [stepsWay, found]
  by_cases empty : name = ""
  · simp [isDirectory, empty]
  · simp only [isDirectory, allowed empty, empty, false_or, linkAt?]
    rfl

theorem stepsWay_of_isName (ways : Location → List String → List Location) {name : String}
    (enters : tree.Enters here name) (isName : IsEntryName name) (rest : List String) :
    tree.stepsWay follows ways here (name :: rest) =
      here ::
        if rest.isEmpty && !follows then []
        else
          (here ++ [name]) ::
            match tree.linkAt? (here ++ [name]) with
            | none => tree.stepsWay follows ways (here ++ [name]) rest
            | some target =>
                ways (if Path.isAbsolute target then [] else here)
                  (Path.pieces target ++ rest) := by
  obtain ⟨proper, short⟩ := isName
  simp only [List.mem_cons, List.not_mem_nil, or_false, not_or] at proper
  rw [stepsWay_of_enters ways enters, if_neg (by simp [proper]), if_neg proper.2.2]
  simp [Nat.not_lt.mpr short]

theorem refused_of_not_enters {name : String} {node : Inode} (found : tree.get? here = some node)
    (stops : ¬tree.Enters here name) :
    node.isDirectory = false ∨ name ≠ "" ∧ node.allows .execute = false := by
  by_contra enters
  refine stops ⟨node, found, ?_⟩
  simpa using enters

theorem stepsWay_of_not_enters {ways : Location → List String → List Location} {name : String}
    {rest : List String} (stops : ¬tree.Enters here name) :
    tree.stepsWay follows ways here (name :: rest) = [here] := by
  rw [stepsWay]
  cases found : tree.get? here with
  | none => rfl
  | some node =>
      rcases refused_of_not_enters found stops with noDirectory | ⟨named, noEntry⟩
      · simp [noDirectory]
      · simp [named, noEntry]

theorem steps_of_not_enters {jump otherJump : Location → List String → Except OsError Location}
    {name : String} {rest : List String} (same : other.get? here = tree.get? here)
    (stops : ¬tree.Enters here name) :
    other.steps follows otherJump here (name :: rest) =
      tree.steps follows jump here (name :: rest) := by
  rw [steps, steps, same]
  cases found : tree.get? here with
  | none => rfl
  | some node =>
      rcases refused_of_not_enters found stops with noDirectory | ⟨named, noEntry⟩
      · simp [noDirectory]
      · simp [named, noEntry]

/-- Trees that agree on a way lead along the same way, to the same location or the same error. -/
theorem steps_congr {jump otherJump : Location → List String → Except OsError Location}
    {ways otherWays : Location → List String → List Location}
    (jumps : ∀ here names, AgreeAt (ways here names) tree other →
      otherJump here names = jump here names ∧ otherWays here names = ways here names)
    (agree : AgreeAt (tree.stepsWay follows ways here names) tree other) :
    other.steps follows otherJump here names = tree.steps follows jump here names ∧
      other.stepsWay follows otherWays here names = tree.stepsWay follows ways here names := by
  induction names generalizing here with
  | nil => exact ⟨rfl, rfl⟩
  | cons name rest ih =>
      have same : other.get? here = tree.get? here := agree here (by simp [stepsWay])
      by_cases enters : tree.Enters here name
      · have otherEnters : other.Enters here name := by rwa [Enters, same]
        rw [stepsWay_of_enters ways enters, agreeAt_cons] at agree
        replace agree := agree.2
        rw [steps_of_enters jump enters, steps_of_enters otherJump otherEnters,
          stepsWay_of_enters ways enters, stepsWay_of_enters otherWays otherEnters,
          List.cons.injEq, eq_self_iff_true, true_and]
        by_cases dot : name = "" ∨ name = "."
        · simp only [if_pos dot] at agree ⊢
          exact ih agree
        by_cases dots : name = ".."
        · simp only [if_neg dot, if_pos dots] at agree ⊢
          exact ih agree
        simp only [if_neg dot, if_neg dots] at agree ⊢
        by_cases long : nameLimit < name.length
        · simp [long]
        by_cases last : (rest.isEmpty && !follows) = true
        · -- the last name leads to the same location, whether it is a link or not
          obtain ⟨ended, -⟩ : rest = [] ∧ follows = false := by simpa using last
          subst ended
          simp only [long, last, Bool.or_true, ↓reduceIte, and_true]
          cases other.linkAt? (here ++ [name]) <;> cases tree.linkAt? (here ++ [name]) <;> rfl
        · simp only [long, last, decide_false, Bool.or_self, Bool.false_eq_true,
            ↓reduceIte] at agree ⊢
          obtain ⟨sameNext, agree⟩ := agreeAt_cons.mp agree
          have sameLink : other.linkAt? (here ++ [name]) = tree.linkAt? (here ++ [name]) := by
            rw [linkAt?, sameNext, ← linkAt?]
          rw [sameLink, List.cons.injEq, eq_self_iff_true, true_and]
          cases link : tree.linkAt? (here ++ [name]) with
          | none =>
              rw [link] at agree
              exact ih agree
          | some target =>
              rw [link] at agree
              exact jumps _ _ agree
      · have otherStops : ¬other.Enters here name := by rwa [Enters, same]
        rw [stepsWay_of_not_enters enters, stepsWay_of_not_enters otherStops]
        exact ⟨steps_of_not_enters same enters, rfl⟩

theorem walk_congr {links : Nat}
    (agree : AgreeAt (tree.walkWay follows links here names) tree other) :
    other.walk follows links here names = tree.walk follows links here names ∧
      other.walkWay follows links here names = tree.walkWay follows links here names := by
  induction links generalizing here names with
  | zero => exact steps_congr (fun _ _ _ => ⟨rfl, rfl⟩) agree
  | succ links ih => exact steps_congr (fun _ _ => ih) agree

theorem way_congr (agree : AgreeAt (tree.way directory path follows) tree other) :
    other.way directory path follows = tree.way directory path follows := (walk_congr agree).2

theorem resolve_congr (agree : AgreeAt (tree.way directory path follows) tree other) :
    other.resolve directory path follows = tree.resolve directory path follows := by
  rw [resolve, resolve]
  split
  · rfl
  split
  · rfl
  exact (walk_congr agree).1

theorem resolveNew_congr
    (agree : AgreeAt (tree.way directory (Path.trimSlashes path) false) tree other) :
    other.resolveNew directory path = tree.resolveNew directory path := by
  simp only [resolveNew, resolve_congr agree]

/-! ## Where the way ends -/

theorem walkWay_eq_stepsWay (tree : FileTree) (follows : Bool) (links : Nat) :
    ∃ ways, tree.walkWay follows links = tree.stepsWay follows ways := by
  cases links <;> exact ⟨_, rfl⟩

theorem mem_walkWay_self (links : Nat) (name : String) (rest : List String) :
    here ∈ tree.walkWay follows links here (name :: rest) := by
  obtain ⟨ways, walks⟩ := walkWay_eq_stepsWay tree follows links
  simp [walks, stepsWay]

theorem walkWay_stay {links : Nat} {name : String} (enters : tree.Enters here name)
    (dot : name = "" ∨ name = ".") (rest : List String) :
    tree.walkWay follows links here (name :: rest) =
      here :: tree.walkWay follows links here rest := by
  obtain ⟨ways, walks⟩ := walkWay_eq_stepsWay tree follows links
  rw [walks, stepsWay_of_enters ways enters, if_pos dot]

theorem walkWay_up {links : Nat} (enters : tree.Enters here "..") (rest : List String) :
    tree.walkWay follows links here (".." :: rest) =
      here :: tree.walkWay follows links here.dropLast rest := by
  obtain ⟨ways, walks⟩ := walkWay_eq_stepsWay tree follows links
  rw [walks, stepsWay_of_enters ways enters, if_neg (by decide), if_pos rfl]

theorem walkWay_down {links : Nat} {name : String} {rest : List String}
    (enters : tree.Enters here name) (isName : IsEntryName name)
    (noLink : tree.linkAt? (here ++ [name]) = none) (goesOn : rest ≠ [] ∨ follows = true) :
    tree.walkWay follows links here (name :: rest) =
      here :: (here ++ [name]) :: tree.walkWay follows links (here ++ [name]) rest := by
  obtain ⟨ways, walks⟩ := walkWay_eq_stepsWay tree follows links
  rw [walks, stepsWay_of_isName ways enters isName, noLink,
    if_neg (Bool.not_eq_true _ ▸ stops_eq_false_iff.mpr goesOn)]

theorem walkWay_jump {links : Nat} {name target : String} {rest : List String}
    (enters : tree.Enters here name) (isName : IsEntryName name)
    (link : tree.linkAt? (here ++ [name]) = some target) (goesOn : rest ≠ [] ∨ follows = true) :
    tree.walkWay follows (links + 1) here (name :: rest) =
      here :: (here ++ [name]) ::
        tree.walkWay follows links (if Path.isAbsolute target then [] else here)
          (Path.pieces target ++ rest) := by
  rw [walkWay, stepsWay_of_isName _ enters isName, link,
    if_neg (Bool.not_eq_true _ ▸ stops_eq_false_iff.mpr goesOn)]

/-- A path ends at or above a location on its way, or right below one if a last link is not
followed. -/
theorem Leads.ends_on_way {links : Nat} {place : Location}
    (h : Leads tree follows links here names place) (more : names ≠ []) :
    ∃ seen ∈ tree.walkWay follows links here names,
      place.dropLast <+: seen ∧ (follows = true → place <+: seen) := by
  induction h with
  | arrived => exact absurd rfl more
  | @stay links here place name rest enters dot behind ih =>
      rw [walkWay_stay enters dot]
      cases rest with
      | nil =>
          cases behind
          exact ⟨here, List.mem_cons_self, List.dropLast_prefix here,
            fun _ => List.prefix_refl here⟩
      | cons next rest =>
          obtain ⟨seen, onWay, ends⟩ := ih (List.cons_ne_nil next rest)
          exact ⟨seen, List.mem_cons_of_mem here onWay, ends⟩
  | @up links here place rest enters behind ih =>
      rw [walkWay_up enters]
      cases rest with
      | nil =>
          cases behind
          have above : here.dropLast <+: here := List.dropLast_prefix here
          exact ⟨here, List.mem_cons_self, (List.dropLast_prefix _).trans above, fun _ => above⟩
      | cons next rest =>
          obtain ⟨seen, onWay, ends⟩ := ih (List.cons_ne_nil next rest)
          exact ⟨seen, List.mem_cons_of_mem here onWay, ends⟩
  | @down links here place name rest enters isName noLink behind ih =>
      cases rest with
      | nil =>
          cases behind
          -- a last name is looked at only if a link that it might be is to be followed
          cases follows with
          | false =>
              refine ⟨here, mem_walkWay_self links _ _, ?_, nofun⟩
              rw [List.dropLast_concat]
          | true =>
              rw [walkWay_down enters isName noLink (.inr rfl)]
              exact ⟨here ++ [name], by simp, List.dropLast_prefix _,
                fun _ => List.prefix_refl _⟩
      | cons next rest =>
          obtain ⟨seen, onWay, ends⟩ := ih (List.cons_ne_nil next rest)
          rw [walkWay_down enters isName noLink (.inl (List.cons_ne_nil next rest))]
          exact ⟨seen, by simp [onWay], ends⟩
  | @lastLink links here name target enters isName link unfollowed =>
      subst unfollowed
      refine ⟨here, mem_walkWay_self links _ _, ?_, nofun⟩
      rw [List.dropLast_concat]
  | @jump links here place name target rest enters isName link goesOn behind ih =>
      have some_names : Path.pieces target ++ rest ≠ [] := by
        simp [Path.pieces, Text.pieces_ne_nil]
      obtain ⟨seen, onWay, ends⟩ := ih some_names
      rw [walkWay_jump enters isName link goesOn]
      exact ⟨seen, by simp [onWay], ends⟩

/-! ## Errors on the way -/

theorem steps_error_follow {jump followed : Location → List String → Except OsError Location}
    {error : OsError}
    (jumps : ∀ here names, names ≠ [] → jump here names = .error error →
      followed here names = .error error)
    (stops : tree.steps false jump here names = .error error) :
    tree.steps true followed here names = .error error := by
  -- on the names; the two ways to follow them part only behind a last link, where there is no error
  induction names generalizing here with
  | nil => cases stops
  | cons name rest ih =>
      by_cases enters : tree.Enters here name
      · rw [steps_of_enters _ enters] at stops ⊢
        split
        · next dot => exact ih (by simpa only [if_pos dot] using stops)
        next noDot =>
        rw [if_neg noDot] at stops
        split
        · next dots => exact ih (by simpa only [if_pos dots] using stops)
        next noDots =>
        rw [if_neg noDots] at stops
        split
        · next long => simpa only [if_pos long] using stops
        next short =>
        rw [if_neg short] at stops
        cases link : tree.linkAt? (here ++ [name]) with
        | none => exact ih (by simpa only [link] using stops)
        | some target =>
            rw [link] at stops
            cases rest with
            | nil => cases stops
            | cons next rest => exact jumps _ _ (by simp) stops
      · rw [steps] at stops ⊢
        cases found : tree.get? here with
        | none => simpa [found] using stops
        | some node =>
            rw [found] at stops
            rcases refused_of_not_enters found enters with noDirectory | ⟨named, noEntry⟩
            · simpa [noDirectory] using stops
            · simpa [named, noEntry] using stops

theorem walk_error_follow {links : Nat} {error : OsError}
    (stops : tree.walk false links here names = .error error) :
    tree.walk true links here names = .error error := by
  induction links generalizing here names with
  | zero => exact steps_error_follow (fun _ _ _ stops => stops) stops
  | succ links ih => exact steps_error_follow (fun _ _ _ => ih) stops

theorem resolve_error_follow {error : OsError}
    (stops : tree.resolve directory path false = .error error) :
    tree.resolve directory path true = .error error := by
  rw [resolve] at stops ⊢
  by_cases empty : path.isEmpty = true
  · simpa [empty] using stops
  by_cases long : pathLimit ≤ path.length
  · simpa [empty, long] using stops
  simp only [empty, long, Bool.false_eq_true, ↓reduceIte] at stops ⊢
  exact walk_error_follow stops

/-! ## Names that are not met -/

/-- No link holds a path with the name. -/
def LinksAvoid (tree : FileTree) (name : String) : Prop :=
  ∀ place target, tree.linkAt? place = some target → name ∉ Path.pieces target

variable {fresh : String}

theorem not_mem_dropLast (outside : fresh ∉ here) : fresh ∉ here.dropLast :=
  fun member => outside (List.dropLast_subset here member)

theorem not_mem_jump (avoid : tree.LinksAvoid fresh) {place : Location} {target : String}
    {rest : List String} (link : tree.linkAt? place = some target) (behind : fresh ∉ rest) :
    fresh ∉ Path.pieces target ++ rest := by
  rw [List.mem_append, not_or]
  exact ⟨avoid place target link, behind⟩

theorem not_mem_stepsWay {ways : Location → List String → List Location}
    (avoid : tree.LinksAvoid fresh)
    (jumps : ∀ here names, fresh ∉ here → fresh ∉ names → ∀ place ∈ ways here names, fresh ∉ place)
    (outside : fresh ∉ here) (unnamed : fresh ∉ names) :
    ∀ place ∈ tree.stepsWay follows ways here names, fresh ∉ place := by
  -- on the names, from any location; what is behind a link is left to the hypothesis on it
  induction names generalizing here with
  | nil => simp [stepsWay]
  | cons name rest ih =>
      obtain ⟨differ, behind⟩ := not_or.mp (List.mem_cons.not.mp unnamed)
      have next : fresh ∉ here ++ [name] := by simp [outside, differ]
      by_cases enters : tree.Enters here name
      · rw [stepsWay_of_enters ways enters, List.forall_mem_cons]
        refine ⟨outside, ?_⟩
        split
        · exact ih outside behind
        split
        · exact ih (not_mem_dropLast outside) behind
        split
        · simp
        rw [List.forall_mem_cons]
        refine ⟨next, ?_⟩
        cases link : tree.linkAt? (here ++ [name]) with
        | none => exact ih next behind
        | some target =>
            refine jumps _ _ ?_ (not_mem_jump avoid link behind)
            split
            · simp
            · exact outside
      · rw [stepsWay_of_not_enters enters]
        simpa using outside

theorem not_mem_walkWay {links : Nat} (avoid : tree.LinksAvoid fresh) (outside : fresh ∉ here)
    (unnamed : fresh ∉ names) :
    ∀ place ∈ tree.walkWay follows links here names, fresh ∉ place := by
  induction links generalizing here names with
  | zero => exact not_mem_stepsWay avoid (by simp) outside unnamed
  | succ links ih =>
      exact not_mem_stepsWay avoid (fun _ _ outside unnamed => ih outside unnamed) outside unnamed

theorem not_mem_startOf (outside : fresh ∉ directory) : fresh ∉ startOf directory path := by
  rw [startOf]
  split
  · simp
  · exact outside

theorem not_mem_of_way (avoid : tree.LinksAvoid fresh) (outside : fresh ∉ directory)
    (unnamed : fresh ∉ Path.pieces path) :
    ∀ place ∈ tree.way directory path follows, fresh ∉ place :=
  not_mem_walkWay avoid (not_mem_startOf outside) unnamed

theorem Leads.not_mem {links : Nat} {place : Location} (avoid : tree.LinksAvoid fresh)
    (h : Leads tree follows links here names place) (outside : fresh ∉ here)
    (unnamed : fresh ∉ names) : fresh ∉ place := by
  induction h with
  | arrived => exact outside
  | stay enters dot behind ih => exact ih outside (List.not_mem_of_not_mem_cons unnamed)
  | up enters behind ih =>
      exact ih (not_mem_dropLast outside) (List.not_mem_of_not_mem_cons unnamed)
  | down enters isName noLink behind ih =>
      obtain ⟨differ, rest⟩ := not_or.mp (List.mem_cons.not.mp unnamed)
      exact ih (by simp [outside, differ]) rest
  | lastLink enters isName link unfollowed =>
      obtain ⟨differ, -⟩ := not_or.mp (List.mem_cons.not.mp unnamed)
      simp [outside, differ]
  | jump enters isName link goesOn behind ih =>
      refine ih ?_ (not_mem_jump avoid link (List.not_mem_of_not_mem_cons unnamed))
      split
      · simp
      · exact outside

theorem not_mem_of_resolve {place : Location} (avoid : tree.LinksAvoid fresh)
    (outside : fresh ∉ directory) (unnamed : fresh ∉ Path.pieces path)
    (resolved : tree.resolve directory path follows = .ok place) : fresh ∉ place := by
  obtain ⟨-, -, leads⟩ := resolve_eq_ok_iff.mp resolved
  exact leads.not_mem avoid (not_mem_startOf outside) unnamed

end CallScript.FileTree
