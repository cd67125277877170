import CallScript.Shell.Utility.Remove

/-!
# Copying, moving and linking

The utilities that bring files under other names. The last operand is the name, or a directory in
which the last piece of the old path is the name.
-/

namespace CallScript.Shell.Invocation

/-- A step from one path to another, which may fail with a message. -/
abbrev Transfer := FileTree → String → String → Except String (FileTree × String)

def inside (directory source : String) : String :=
  Path.join directory ((Path.fileName? source).getD "")

/-- Whether a path leads to a directory. With `keepsLinks` a link is none. -/
def leadsToDirectory (call : Invocation) (tree : FileTree) (path : String) (keepsLinks : Bool) :
    Bool :=
  let found := if keepsLinks then tree.findNamed call.directory path
    else tree.find call.directory path
  found.toOption.any fun (_, node) => node.isDirectory

def backedUp (call : Invocation) (arguments : Arguments) (tree : FileTree) (path : String) :
    FileTree :=
  let isThere := (tree.findNamed call.directory path).toOption.any fun (_, node) =>
    !node.isDirectory
  if arguments.has "b" && isThere then
    let backup := path ++ (arguments.value? "S").getD "~"
    ((tree.rename call.directory path backup).toOption).getD tree
  else tree

/-- Does a step from each of the first operands to the last one, or into the directory that an
option names. -/
def transfer (call : Invocation) (arguments : Arguments) (action : Transfer) : Reply :=
  let step : Transfer := fun tree source target =>
    action (call.backedUp arguments tree target) source target
  let into (directory : String) (sources : List String) : Reply :=
    match call.tree.find call.directory directory with
    | .ok (_, node) =>
        if node.isDirectory then
          call.each sources fun tree source => step tree source (inside directory source)
        else call.fail ("target " ++ quoted directory ++ ": " ++ OsError.notDirectory.text) 1
    | .error e => call.fail ("target " ++ quoted directory ++ ": " ++ e.text) 1
  match arguments.value? "t", arguments.operands with
  | _, [] => call.misuse "missing file operand" 1
  | some directory, sources => into directory sources
  | none, [path] => call.misuse ("missing destination file operand after " ++ quoted path) 1
  | none, [source, target] =>
      let isInside := !arguments.has "T" &&
        call.leadsToDirectory call.tree target (arguments.has "n" && call.name.endsWith "ln")
      call.each [source] fun tree source =>
        step tree source (if isInside then inside target source else target)
  | none, operands =>
      if arguments.has "T" then
        call.misuse ("extra operand " ++ quoted (operands.getD 2 "")) 1
      else into (operands.getLastD "") operands.dropLast

def sameFile (source target : String) : String :=
  quoted source ++ " and " ++ quoted target ++ " are the same file"

def isSameFile (call : Invocation) (tree : FileTree) (source target : String) : Bool :=
  match tree.find call.directory source, tree.find call.directory target with
  | .ok (old, _), .ok (new, _) => old = new || tree.number? old = tree.number? new
  | _, _ => false

def isKept (call : Invocation) (arguments : Arguments) (tree : FileTree) (source : Inode)
    (target : String) : Bool :=
  match tree.findNamed call.directory target with
  | .error _ => false
  | .ok (_, node) =>
      arguments.last? ["n", "f", "i"] = some "n" || (arguments.has "u" && source.time ≤ node.time)

def arrow (arguments : Arguments) (front source mark target : String) : String :=
  if arguments.has "v" then front ++ quoted source ++ mark ++ quoted target ++ "\n" else ""

/-! ## Copying -/

def cpOptions : OptionSpec where
  flags := "abdfHilLnprsuvxPRTZ"
  valued := "tS"
  names := [.flag "archive" "a", .alone "attributes-only", ⟨"backup", "b", .optional⟩,
    .alone "copy-contents", .flag "dereference" "L", .flag "force" "f", .flag "interactive" "i",
    .flag "link" "l", .flag "no-clobber" "n", .flag "no-dereference" "P",
    .valued "no-preserve" "no-preserve", .flag "no-target-directory" "T",
    .flag "one-file-system" "x", .alone "parents", ⟨"preserve", "p", .optional⟩,
    .flag "recursive" "R", ⟨"reflink", "reflink", .optional⟩, .alone "remove-destination",
    .valued "sparse" "sparse", .alone "strip-trailing-slashes", .valued "suffix" "S",
    .flag "symbolic-link" "s", .valued "target-directory" "t", .flag "update" "u",
    .flag "verbose" "v", ⟨"context", "Z", .optional⟩]

/-- How a copy is made. -/
structure CopyManner where
  isWhole : Bool
  keepsLinks : Bool
  preserves : Bool
  isForced : Bool
  replaces : Bool

def CopyManner.of (arguments : Arguments) : CopyManner :=
  let isWhole := arguments.hasAny ["r", "R", "a"]
  let link? := arguments.last? ["L", "P", "d", "a", "H"]
  { isWhole := isWhole
    keepsLinks := if link? = some "L" then false
      else isWhole || [some "P", some "d", some "a"].contains link?
    preserves := arguments.hasAny ["p", "a"]
    isForced := arguments.has "f"
    replaces := arguments.has "remove-destination" }

def copyNode (call : Invocation) (manner : CopyManner) (node : Inode) (tree : FileTree)
    (target : String) : Except OsError FileTree := do
  let time := if manner.preserves then node.time else tree.now
  let mode := if manner.preserves then node.mode else FileTree.masked node.mode call.mask
  let found? := (tree.findNamed call.directory target).toOption
  match node.entry with
  | .link link =>
      let tree ← if found?.isSome then tree.unlink call.directory target else pure tree
      tree.makeLink call.directory link target
  | _ =>
      if found?.any (fun (_, node) => node.linkTarget?.isSome) &&
          (tree.find call.directory target).toOption.isNone then throw .invalid
      let tree ←
        if found?.isSome && (manner.replaces ||
            (manner.isForced && (tree.resolveFile call.directory target).toOption.isNone)) then
          tree.unlink call.directory target
        else pure tree
      let place ← tree.resolveFile call.directory target
      let written := tree.overwrite place node.content mode
      match written.number? place with
      | none => return written
      | some number =>
          return written.update number fun other =>
            if !other.isFile then other
            else if manner.preserves then { other with mode := mode, time := time }
            else other

def copyWithin (call : Invocation) (arguments : Arguments) (manner : CopyManner) :
    Nat → Transfer
  | 0, tree, _, _ => .ok (tree, "")
  | fuel + 1, tree, source, target =>
      let found := if manner.keepsLinks then tree.findNamed call.directory source
        else tree.find call.directory source
      match found with
      | .error e => .error ("cannot stat " ++ quoted source ++ ": " ++ e.text)
      | .ok (old, node) =>
          let said := arrow arguments "" source " -> " target
          let isDirectory := call.leadsToDirectory tree target false
          let isThere := (tree.findNamed call.directory target).toOption.isSome
          if isKept call arguments tree node target && !node.isDirectory then .ok (tree, "")
          else if node.isDirectory then
            if !manner.isWhole then
              .error ("-r not specified; omitting directory " ++ quoted source)
            else if isThere && !isDirectory then
              .error ("cannot overwrite non-directory " ++ quoted target ++ " with directory " ++
                quoted source)
            else
              let made := if isThere then .ok tree
                else tree.makeDirectory call.directory target call.directoryMode
              match made, tree.resolveNew call.directory target with
              | .error e, _ | _, .error e =>
                  .error ("cannot create directory " ++ quoted target ++ ": " ++ e.text)
              | .ok made, .ok new =>
                  let inner := (tree.children old).filter fun other => old ++ [other.1] ≠ new
                  let copied := inner.foldlM
                    (fun ((tree, said) : FileTree × String) other => do
                      let (tree, more) ← copyWithin call arguments manner fuel tree
                        (Path.push source other.1) (Path.push target other.1)
                      return (tree, said ++ more)) (made, if isThere then "" else said)
                  match copied with
                  | .error text => .error text
                  | .ok (copied, said) =>
                      let mode := if manner.preserves then node.mode
                        else FileTree.masked node.mode call.mask
                      let copied := if isThere && !manner.preserves then copied
                        else setMode copied call.directory target mode
                      if old ≠ new && old.isPrefixOf new then
                        .error ("cannot copy a directory, " ++ quoted source ++ ", into itself, " ++
                          quoted target)
                      else .ok (copied, said)
          else if isDirectory then
            .error ("cannot overwrite directory " ++ quoted target ++ " with non-directory")
          else if isSameFile call tree source target && !manner.keepsLinks then
            .error (sameFile source target)
          else if arguments.has "l" then
            match tree.makeName call.directory source target with
            | .ok tree => .ok (tree, said)
            | .error e =>
                .error ("cannot create hard link " ++ quoted target ++ " to " ++ quoted source ++
                  ": " ++ e.text)
          else if arguments.has "s" then
            match tree.makeLink call.directory source target with
            | .ok tree => .ok (tree, said)
            | .error e =>
                .error ("cannot create symbolic link " ++ quoted target ++ " to " ++
                  quoted source ++ ": " ++ e.text)
          else if !node.allows .read && node.isFile then
            .error ("cannot open " ++ quoted source ++ " for reading: " ++ OsError.permission.text)
          else
            match copyNode call manner node tree target with
            | .ok tree => .ok (tree, said)
            | .error .invalid => .error ("not writing through dangling symlink " ++ quoted target)
            | .error e =>
                let e := if e = .isDirectory then .notDirectory else e
                .error ("cannot create regular file " ++ quoted target ++ ": " ++ e.text)

def cp (call : Invocation) (arguments : Arguments) : Reply :=
  call.transfer arguments
    (copyWithin call arguments (.of arguments) (call.tree.names.length + 2))

/-! ## Moving -/

def mvOptions : OptionSpec where
  flags := "bfinuvTZ"
  valued := "tS"
  names := [⟨"backup", "b", .optional⟩, .flag "context" "Z", .flag "force" "f",
    .flag "interactive" "i", .flag "no-clobber" "n", .flag "no-target-directory" "T",
    .alone "strip-trailing-slashes", .valued "suffix" "S", .valued "target-directory" "t",
    .flag "update" "u", .flag "verbose" "v"]

/-- Moves a node by name. Of two names of one file the first goes. -/
def moveNode (call : Invocation) (arguments : Arguments) : Transfer := fun tree source target =>
  match tree.findNamed call.directory source with
  | .error e => .error ("cannot stat " ++ quoted source ++ ": " ++ e.text)
  | .ok (old, node) =>
      let target? := (tree.findNamed call.directory target).toOption
      let said := arrow arguments "renamed " source " -> " target
      let refuse (e : OsError) : Except String (FileTree × String) :=
        .error ("cannot move " ++ quoted source ++ " to " ++ quoted target ++ ": " ++ e.text)
      let rename : Except String (FileTree × String) :=
        match tree.rename call.directory source target with
        | .ok tree => .ok (tree, said)
        | .error .invalid =>
            .error ("cannot move " ++ quoted source ++ " to a subdirectory of itself, " ++
              quoted target)
        | .error e => refuse e
      if isKept call arguments tree node target then .ok (tree, "")
      else
        match target? with
        | some (new, other) =>
            if !node.isDirectory && new = old then .error (sameFile source target)
            else if !node.isDirectory && tree.number? old = tree.number? new then
              match tree.unlink call.directory source with
              | .ok tree => .ok (tree, said)
              | .error e => refuse e
            else if node.isDirectory && !other.isDirectory then
              .error ("cannot overwrite non-directory " ++ quoted target ++ " with directory " ++
                quoted source)
            else if !node.isDirectory && other.isDirectory then
              .error ("cannot overwrite directory " ++ quoted target ++ " with non-directory")
            else rename
        | none => rename

def mv (call : Invocation) (arguments : Arguments) : Reply :=
  call.transfer arguments (moveNode call arguments)

/-! ## Linking -/

def lnOptions : OptionSpec where
  flags := "bdfFinsrvLPT"
  valued := "tS"
  names := [⟨"backup", "b", .optional⟩, .flag "directory" "d", .flag "force" "f",
    .flag "interactive" "i", .flag "logical" "L", .flag "no-dereference" "n",
    .flag "physical" "P", .flag "relative" "r", .flag "symbolic" "s", .valued "suffix" "S",
    .valued "target-directory" "t", .flag "no-target-directory" "T", .flag "verbose" "v"]

def relativePath : Location → Location → String
  | a :: first, b :: second =>
      if a = b then relativePath first second
      else "/".intercalate (List.replicate (first.length + 1) ".." ++ b :: second)
  | first, second =>
      let names := List.replicate first.length ".." ++ second
      if names.isEmpty then "." else "/".intercalate names

def linkNode (call : Invocation) (arguments : Arguments) : Transfer := fun tree source target =>
  let isSymbolic := arguments.has "s"
  let found? := (tree.findNamed call.directory target).toOption
  let kind := if isSymbolic then "symbolic" else "hard"
  let refuse (e : OsError) : Except String (FileTree × String) :=
    let behind := if isSymbolic || e = .exists then "" else " => " ++ quoted source
    .error ("failed to create " ++ kind ++ " link " ++ quoted target ++ behind ++ ": " ++ e.text)
  let source? := if arguments.has "L" then tree.find call.directory source
    else tree.findNamed call.directory source
  let make (tree : FileTree) : Except String (FileTree × String) :=
    let text :=
      match arguments.has "r", tree.resolve call.directory source true,
        tree.resolveNew call.directory target with
      | true, .ok old, .ok new => relativePath new.dropLast old
      | _, _, _ => source
    let made := if isSymbolic then tree.makeLink call.directory text target
      else tree.makeName call.directory source target
    match made with
    | .ok tree => .ok (tree, arrow arguments "" target (if isSymbolic then " -> " else " => ") text)
    | .error e => refuse e
  let replace : Except String (FileTree × String) :=
    match found? with
    | none => make tree
    | some (new, node) =>
        if !arguments.has "f" then refuse .exists
        else if node.isDirectory then
          .error (shown target ++ ": cannot overwrite directory")
        else if source?.toOption.any fun (old, _) => old = new then
          .error (sameFile source target)
        else
          match tree.unlink call.directory target with
          | .ok tree => make tree
          | .error e => .error ("cannot remove " ++ quoted target ++ ": " ++ e.text)
  match isSymbolic, source? with
  | true, _ => replace
  | false, .error e => .error ("failed to access " ++ quoted source ++ ": " ++ e.text)
  | false, .ok (_, node) =>
      if node.isDirectory then .error (shown source ++ ": hard link not allowed for directory")
      else replace

def ln (call : Invocation) (arguments : Arguments) : Reply :=
  match arguments.has "t" || arguments.has "T", arguments.operands with
  | false, [source] =>
      call.each [source] fun tree source =>
        linkNode call arguments tree source ((Path.fileName? source).getD ".")
  | _, _ => call.transfer arguments (linkNode call arguments)

def linkUtility (call : Invocation) (arguments : Arguments) : Reply :=
  match arguments.operands with
  | [] => call.misuse "missing operand" 1
  | [path] => call.misuse ("missing operand after " ++ quoted path) 1
  | [source, target] =>
      match call.tree.makeName call.directory source target with
      | .ok tree => { call.done with tree := tree }
      | .error e =>
          call.fail ("cannot create link " ++ quoted target ++ " to " ++ quoted source ++ ": " ++
            e.text) 1
  | _ :: _ :: extra :: _ => call.misuse ("extra operand " ++ quoted extra) 1

/-! ## Installing -/

def installOptions : OptionSpec where
  flags := "bcCdDpsTvZ"
  valued := "gmotS"
  names := [⟨"backup", "b", .optional⟩, .flag "compare" "C", .flag "directory" "d",
    .valued "group" "g", .valued "mode" "m", .valued "owner" "o",
    .flag "preserve-timestamps" "p", .flag "strip" "s", .valued "suffix" "S",
    .valued "target-directory" "t", .flag "no-target-directory" "T", .flag "verbose" "v"]

def installNode (call : Invocation) (arguments : Arguments) (mode : Nat) : Transfer :=
  fun tree source target =>
    match tree.find call.directory source with
    | .error e => .error ("cannot stat " ++ quoted source ++ ": " ++ e.text)
    | .ok (_, node) =>
        if node.isDirectory then .error ("omitting directory " ++ quoted source)
        else if isSameFile call tree source target then .error (sameFile source target)
        else
          let parent := "/".intercalate (Path.pieces target).dropLast
          let start :=
            if arguments.has "D" && !parent.isEmpty then
              (makeDirectories tree call.directory parent call.directoryMode).toOption.map (·.1)
            else some tree
          let tree := start.getD tree
          let cleared := ((tree.unlink call.directory target).toOption).getD tree
          match cleared.writeBytes call.directory target node.content mode with
          | .error e => .error ("cannot create regular file " ++ quoted target ++ ": " ++ e.text)
          | .ok written =>
              .ok (setMode written call.directory target mode,
                arrow arguments "" source " -> " target)

def install (call : Invocation) (arguments : Arguments) : Reply :=
  let spec? := match arguments.value? "m" with
    | none => some (ModeSpec.octal 0o755)
    | some text => ModeSpec.ofText? text
  match spec? with
  | none => call.fail ("invalid mode " ++ quoted ((arguments.value? "m").getD "")) 1
  | some spec =>
      let mode := spec.apply 0 false 0
      if arguments.has "d" then
        if arguments.operands.isEmpty then call.misuse "missing file operand" 1
        else
          call.each arguments.operands fun tree path =>
            match makeDirectories tree call.directory path call.directoryMode with
            | .ok (tree, made) =>
                let said := made.map fun path =>
                  if arguments.has "v" then
                    call.name ++ ": creating directory " ++ quoted path ++ "\n" else ""
                .ok (setMode tree call.directory path mode, String.join said)
            | .error (step, e) =>
                .error ("cannot create directory " ++ quoted step ++ ": " ++ e.text)
      else call.transfer arguments (installNode call arguments mode)

end CallScript.Shell.Invocation
