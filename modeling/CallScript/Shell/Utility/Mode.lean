import CallScript.Shell.Number
import CallScript.Shell.Utility.Basic

/-!
# Modes

Changes to the mode of a file, spelled in octal digits or as clauses such as `go-w`, and the utility
that makes them.
-/

namespace CallScript.Shell

/-- What one operator of a clause does. -/
structure ModeChange where
  operator : Char
  /-- The bits that the letters in front name; none of them if there are no letters. -/
  affected : Nat
  letters : List Char

namespace ModeChange

def allBits : Nat := 0o7777

def classBits : List (Char × Nat) :=
  [('u', 0o4700), ('g', 0o2070), ('o', 0o1007), ('a', 0o7777)]

def letterBits : List (Char × Nat) :=
  [('r', 0o444), ('w', 0o222), ('x', 0o111), ('s', 0o6000), ('t', 0o1000)]

def classShifts : List (Char × Nat) := [('u', 64), ('g', 8), ('o', 1)]

def without (bits others : Nat) : Nat := bits - bits.land others

def bitsOf (mode : Nat) (isDirectory : Bool) (letter : Char) : Nat :=
  match classShifts.lookup letter with
  | some shift => (mode / shift % 8) * 0o111
  | none =>
      if letter = 'X' then if isDirectory || mode.land 0o111 != 0 then 0o111 else 0
      else (letterBits.lookup letter).getD 0

/-- Carries the change out. Where nobody is named, it is for all, except for the bits of the mask.
-/
def apply (mask : Nat) (isDirectory : Bool) (change : ModeChange) (mode : Nat) : Nat :=
  let named := change.letters.foldl (fun bits c => bits.lor (bitsOf mode isDirectory c)) 0
  let limit := if change.affected = 0 then without allBits mask else change.affected
  let value := named.land limit
  match change.operator with
  | '+' => mode.lor value
  | '-' => without mode value
  | _ => if change.affected = 0 then value else (without mode change.affected).lor value

end ModeChange

def isModeOperator (c : Char) : Bool := c = '+' || c = '-' || c = '='

def modeOperators (affected : Nat) : Nat → List Char → Option (List ModeChange)
  | 0, _ => none
  | _, [] => some []
  | fuel + 1, c :: rest => do
      let letters := rest.takeWhile fun c => !isModeOperator c
      guard (isModeOperator c)
      guard (letters.all "rwxXst".toList.contains ||
        (letters.length = 1 && letters.all "ugo".toList.contains))
      let others ← modeOperators affected fuel (rest.drop letters.length)
      return ⟨c, affected, letters⟩ :: others

def modeClause (clause : List Char) : Option (List ModeChange) := do
  let who := clause.takeWhile fun c => (ModeChange.classBits.lookup c).isSome
  let affected := who.foldl (fun bits c => bits.lor ((ModeChange.classBits.lookup c).getD 0)) 0
  guard (who.length < clause.length)
  modeOperators affected (clause.length + 1) (clause.drop who.length)

/-- What a text makes of modes. -/
inductive ModeSpec where
  | octal (mode : Nat)
  | changes (changes : List ModeChange)

namespace ModeSpec

def ofText? (text : String) : Option ModeSpec := do
  let isOctal (c : Char) : Bool := '0' ≤ c && c ≤ '7'
  if !text.isEmpty && text.toList.all isOctal then
    let mode := Number.ofDigits 8 text.toList
    guard (mode ≤ ModeChange.allBits)
    return .octal mode
  else
    let clauses ← (Text.pieces ',' text.toList).mapM modeClause
    return .changes clauses.flatten

def apply (mask : Nat) (isDirectory : Bool) (mode : Nat) : ModeSpec → Nat
  | .octal new => new
  | .changes clauses => clauses.foldl (fun mode change => change.apply mask isDirectory mode) mode

end ModeSpec

def modeLetters (mode : Nat) : String :=
  let triple (bits special : Nat) (letter : Char) : List Char :=
    let hasSpecial := mode.land special != 0
    let executes := bits.land 1 != 0
    let last :=
      if hasSpecial then if executes then letter else letter.toUpper
      else if executes then 'x' else '-'
    [if bits.land 4 != 0 then 'r' else '-', if bits.land 2 != 0 then 'w' else '-', last]
  String.ofList (triple (mode / 64 % 8) 0o4000 's' ++ triple (mode / 8 % 8) 0o2000 's' ++
    triple (mode % 8) 0o1000 't')

def modeDigits (mode : Nat) : String :=
  let digits := Nat.toDigits 8 mode
  String.ofList (List.replicate (4 - digits.length) '0' ++ digits)

namespace Invocation

def isDashedMode (arg : String) : Bool :=
  match arg.toList with
  | '-' :: c :: rest => (c :: rest).all "rwxXstugoa,+=01234567".toList.contains
  | _ => false

def chmodOptions : OptionSpec where
  flags := "Rcfv"
  names := [.flag "changes" "c", .flag "recursive" "R", .alone "no-preserve-root",
    .alone "preserve-root", .flag "quiet" "f", .flag "silent" "f", .flag "verbose" "v",
    .valued "reference" "reference"]

/-- The locations at and below a path, the path of each with it. Links below are left out. -/
def placesBelow (tree : FileTree) (place : Location) (path : String) :
    List (Location × String) :=
  let below := (tree.listing place).filter fun other => other.2.linkTarget?.isNone
  (place, path) :: below.map fun other =>
    (place ++ Path.pieces other.1, Path.push path other.1)

/-- Changes the mode of the node at a location, and says so where that is asked for. -/
def changeMode (call : Invocation) (arguments : Arguments) (isDashed : Bool) (spec : ModeSpec)
    (reply : Reply) (place : Location) (path : String) : Reply :=
  match reply.tree.get? place, reply.tree.number? place with
  | some node, some number =>
      if !node.isOwn then
        call.warn reply ("changing permissions of " ++ quoted path ++ ": " ++
          OsError.notPermitted.text)
      else
        let mode := spec.apply call.mask node.isDirectory node.mode
        let naive := spec.apply 0 node.isDirectory node.mode
        let both (mode : Nat) : String := modeDigits mode ++ " (" ++ modeLetters mode ++ ")"
        let reply := { reply with
          tree := reply.tree.update number fun node => { node with mode := mode } }
        let reply :=
          if mode ≠ node.mode && arguments.hasAny ["v", "c"] then
            reply.out ("mode of " ++ quoted path ++ " changed from " ++ both node.mode ++ " to " ++
              both mode ++ "\n")
          else if arguments.has "v" then
            reply.out ("mode of " ++ quoted path ++ " retained as " ++ both mode ++ "\n")
          else reply
        if isDashed && ModeChange.without mode naive != 0 then
          call.warn reply (shown path ++ ": new permissions are " ++ modeLetters mode ++ ", not " ++
            modeLetters naive)
        else reply
  | _, _ => reply

def chmod (call : Invocation) : Reply :=
  match chmodOptions.read (call.args.filter fun arg => !isDashedMode arg) with
  | .error text => call.misuse text 1
  | .ok arguments =>
      let dashed := call.args.filter isDashedMode
      let run (spec : ModeSpec) (paths : List String) : Reply :=
        paths.foldl
          (fun reply path =>
            match reply.tree.find call.directory path with
            | .error e => call.warn reply ("cannot access " ++ quoted path ++ ": " ++ e.text)
            | .ok (place, _) =>
                let places :=
                  if arguments.has "R" then placesBelow reply.tree place path else [(place, path)]
                places.foldl
                  (fun reply (place, path) =>
                    call.changeMode arguments (!dashed.isEmpty) spec reply place path) reply)
          call.done
      match arguments.value? "reference", dashed ++ arguments.operands with
      | some path, paths =>
          match call.tree.find call.directory path with
          | .ok (_, node) => run (.octal node.mode) paths
          | .error e =>
              call.fail ("failed to get attributes of " ++ quoted path ++ ": " ++ e.text) 1
      | none, [] => call.misuse "missing operand" 1
      | none, [mode] => call.misuse ("missing operand after " ++ quoted mode) 1
      | none, mode :: paths =>
          match ModeSpec.ofText? mode with
          | none => call.misuse ("invalid mode: " ++ quoted mode) 1
          | some spec => run spec paths

end Invocation
end CallScript.Shell
