import CallScript.Shell.Utility.Basic

/-!
# Names of files

The utilities that take paths apart, follow them or show where they lead.
-/

namespace CallScript.Shell.Invocation

def lastName (path : String) : String :=
  let trimmed := Path.trimSlashes path
  if trimmed.isEmpty then if path.isEmpty then "" else "/"
  else (Path.pieces trimmed).getLastD ""

def withoutEnding (name ending : String) : String :=
  if name.endsWith ending && name ≠ ending then (name.dropEnd ending.length).toString else name

def ended (arguments : Arguments) (text : String) : String :=
  text ++ if arguments.has "z" then "\x00" else "\n"

def basenameOptions : OptionSpec where
  flags := "az"
  valued := "s"
  names := [.flag "multiple" "a", .valued "suffix" "s", .flag "zero" "z"]
  inFront := true

def basename (call : Invocation) (arguments : Arguments) : Reply :=
  let write (ending : String) (paths : List String) : Reply :=
    call.write (String.join (paths.map fun path =>
      ended arguments (withoutEnding (lastName path) ending)))
  match arguments.operands with
  | [] => call.misuse "missing operand" 1
  | operands =>
      if arguments.hasAny ["a", "s"] then write ((arguments.value? "s").getD "") operands
      else
        match operands with
        | [path, ending] => write ending [path]
        | _ :: _ :: extra :: _ => call.misuse ("extra operand " ++ quoted extra) 1
        | paths => write "" paths

def dirnameOptions : OptionSpec where
  flags := "z"
  names := [.flag "zero" "z"]

def parentPath (path : String) : String :=
  let pieces := (Path.pieces (Path.trimSlashes path)).dropLast
  let parent := Path.trimSlashes ("/".intercalate pieces)
  if !parent.isEmpty then parent else if Path.isAbsolute path then "/" else "."

def dirname (call : Invocation) (arguments : Arguments) : Reply :=
  if arguments.operands.isEmpty then call.misuse "missing operand" 1
  else
    let parents := arguments.operands.map fun path => ended arguments (parentPath path)
    call.write (String.join parents)

/-! ## Following -/

/-- How much of a path has to be there. -/
inductive Presence where
  | all
  | allButLast
  | nothing
deriving DecidableEq

/-- The location of a path of which nothing has to be there, by its names alone. -/
def namedPlace (directory : Location) (path : String) : Location :=
  (Path.names path).foldl
    (fun place name => if name = ".." then place.dropLast else place ++ [name])
    (if Path.isAbsolute path then [] else directory)

def leadsTo (call : Invocation) (presence : Presence) (path : String) : Except OsError Location :=
  match presence with
  | .all => (call.tree.find call.directory path).map (·.1)
  | .allButLast =>
      let trimmed := Path.trimSlashes path
      call.tree.resolve call.directory (if trimmed.isEmpty then path else trimmed) true
  | .nothing =>
      match call.tree.resolve call.directory path true with
      | .ok place => .ok place
      | .error _ => .ok (namedPlace call.directory path)

def readlinkOptions : OptionSpec where
  flags := "femnqsvz"
  names := [.flag "canonicalize" "f", .flag "canonicalize-existing" "e",
    .flag "canonicalize-missing" "m", .flag "no-newline" "n", .flag "quiet" "q",
    .flag "silent" "s", .flag "verbose" "v", .flag "zero" "z"]

def readlink (call : Invocation) (arguments : Arguments) : Reply :=
  let ending := if arguments.has "n" && arguments.operands.length = 1 then ""
    else ended arguments ""
  let target (path : String) : Except OsError String :=
    match arguments.last? ["f", "e", "m"] with
    | some "f" => (leadsTo call .allButLast path).map Location.path
    | some "e" => (leadsTo call .all path).map Location.path
    | some _ => (leadsTo call .nothing path).map Location.path
    | none => do
        let (_, node) ← call.tree.findNamed call.directory path
        match node.linkTarget? with
        | some target => return target
        | none => throw .invalid
  if arguments.operands.isEmpty then call.misuse "missing operand" 1
  else
    arguments.operands.foldl
      (fun reply path =>
        match target path with
        | .ok text => reply.out (text ++ ending)
        | .error e =>
            if arguments.has "v" then call.warn reply (shown path ++ ": " ++ e.text)
            else { reply with code := 1 })
      call.done

def realpathOptions : OptionSpec where
  flags := "eLmPqsz"
  names := [.flag "canonicalize-existing" "e", .flag "canonicalize-missing" "m",
    .flag "logical" "L", .flag "physical" "P", .flag "quiet" "q", .flag "strip" "s",
    .flag "no-symlinks" "s", .flag "zero" "z", .valued "relative-to" "relative-to",
    .valued "relative-base" "relative-base"]

def realpath (call : Invocation) (arguments : Arguments) : Reply :=
  let presence : Presence :=
    match arguments.last? ["e", "m"] with
    | some "e" => .all
    | some _ => .nothing
    | none => .allButLast
  if arguments.operands.isEmpty then call.misuse "missing operand" 1
  else
    arguments.operands.foldl
      (fun reply path =>
        let place :=
          if arguments.has "s" then .ok (namedPlace call.directory path)
          else leadsTo call presence path
        match place with
        | .ok place => reply.out (ended arguments place.path)
        | .error e =>
            if arguments.has "q" then { reply with code := 1 }
            else call.warn reply (shown path ++ ": " ++ e.text))
      call.done

def pwdOptions : OptionSpec where
  flags := "LP"
  names := [.flag "logical" "L", .flag "physical" "P"]

/-- Shows the current directory, by the path that the environment has for it if that is asked for.
-/
def pwd (call : Invocation) (arguments : Arguments) : Reply :=
  let logical? := (call.environment.lookup "PWD").filter fun path =>
    Path.isAbsolute path &&
      (call.tree.find [] path).toOption.any fun (place, _) => place = call.directory
  let path := if arguments.last? ["L", "P"] = some "L" then logical?.getD call.directory.path
    else call.directory.path
  call.write (path ++ "\n")

end CallScript.Shell.Invocation
