import CallScript.Shell.Calendar
import CallScript.Shell.Utility.Basic

/-!
# Times and sizes of files

The utilities that change when a file was changed and how long it is, and the one that writes its
input to several files.
-/

namespace CallScript.Shell.Invocation

def touchOptions : OptionSpec where
  flags := "acfhm"
  valued := "drt"
  names := [.valued "time" "time", .flag "no-create" "c", .valued "date" "d",
    .valued "reference" "r", .flag "no-dereference" "h"]

def touchTime (call : Invocation) (arguments : Arguments) : Except String Nat :=
  let now := call.tree.now
  match arguments.value? "t", arguments.value? "r", arguments.value? "d" with
  | some stamp, _, _ =>
      match Calendar.stamp? now stamp with
      | some time => .ok time
      | none => .error ("invalid date format " ++ quoted stamp)
  | none, some path, date? =>
      match call.tree.find call.directory path with
      | .ok (_, node) => .ok ((date?.bind (Calendar.moment? node.time)).getD node.time)
      | .error e => .error ("failed to get attributes of " ++ quoted path ++ ": " ++ e.text)
  | none, none, some date =>
      match Calendar.moment? now date with
      | some time => .ok time
      | none => .error ("invalid date format " ++ quoted date)
  | none, none, none => .ok now

def touch (call : Invocation) (arguments : Arguments) : Reply :=
  match touchTime call arguments with
  | .error text => call.fail text 1
  | .ok time =>
      let stamp (tree : FileTree) (place : Location) : FileTree :=
        match tree.number? place with
        | some number =>
            if arguments.has "a" && !arguments.has "m" then tree
            else tree.update number fun node => { node with time := time }
        | none => tree
      if arguments.operands.isEmpty then call.misuse "missing file operand" 1
      else
        call.each arguments.operands fun tree path =>
          let found := if arguments.has "h" then tree.findNamed call.directory path
            else tree.find call.directory path
          match found with
          | .ok (place, node) =>
              if node.isOwn || node.allows .write then .ok (stamp tree place, "")
              else .error ("cannot touch " ++ quoted path ++ ": " ++ OsError.permission.text)
          | .error e =>
              if arguments.hasAny ["c", "h"] then
                if e = .noEntry then .ok (tree, "")
                else .error ("setting times of " ++ quoted path ++ ": " ++ e.text)
              else
                match tree.resolveFile call.directory path with
                | .error .isDirectory =>
                    .error ("setting times of " ++ quoted path ++ ": " ++ OsError.noEntry.text)
                | .error e => .error ("cannot touch " ++ quoted path ++ ": " ++ e.text)
                | .ok place => .ok (stamp (tree.overwrite place .empty call.fileMode) place, "")

/-! ## Sizes -/

def truncateOptions : OptionSpec where
  flags := "co"
  valued := "rs"
  names := [.flag "no-create" "c", .flag "io-blocks" "o", .valued "reference" "r",
    .valued "size" "s"]

def sizeUnits : List (String × Nat) :=
  [("", 1), ("K", 1024), ("KiB", 1024), ("KB", 1000), ("k", 1024), ("kB", 1000), ("M", 1048576),
    ("MiB", 1048576), ("MB", 1000000), ("m", 1048576), ("G", 1073741824), ("GiB", 1073741824),
    ("GB", 1000000000), ("b", 512), ("c", 1), ("w", 2)]

def size? (text : List Char) : Option Nat := do
  let digits := text.takeWhile Char.isDigit
  let unit ← sizeUnits.lookup (String.ofList (text.drop digits.length))
  if digits.isEmpty then
    guard (text.length > 0)
    return unit
  else return Number.ofDigits 10 digits * unit

def newSize? (old : Nat) (text : List Char) : Option Nat := do
  match text with
  | '+' :: rest => return old + (← size? rest)
  | '-' :: rest => return old - (← size? rest)
  | '<' :: rest => return min old (← size? rest)
  | '>' :: rest => return max old (← size? rest)
  | '/' :: rest =>
      let unit ← size? rest
      guard (unit > 0)
      return old / unit * unit
  | '%' :: rest =>
      let unit ← size? rest
      guard (unit > 0)
      return (old + unit - 1) / unit * unit
  | _ => size? text

def resized (content : ByteArray) (size : Nat) : ByteArray :=
  content.extract 0 size ++ ⟨Array.replicate (size - content.size) 0⟩

def truncate (call : Invocation) (arguments : Arguments) : Reply :=
  let reference? : Option (Except String Nat) := (arguments.value? "r").map fun path =>
    match call.tree.find call.directory path with
    | .ok (_, node) => .ok node.content.size
    | .error e => .error ("cannot stat " ++ quoted path ++ ": " ++ e.text)
  match arguments.value? "s", reference? with
  | none, none => call.misuse "you must specify either '--size' or '--reference'" 1
  | _, some (.error text) => call.fail text 1
  | size?, reference? =>
      let base? := (reference?.bind Except.toOption)
      let text := size?.getD ""
      if size?.isSome && (newSize? 0 text.toList).isNone then
        call.fail ("Invalid number: " ++ quoted text) 1
      else if arguments.operands.isEmpty then call.misuse "missing file operand" 1
      else
        call.each arguments.operands fun tree path =>
          let isThere := (tree.find call.directory path).toOption.isSome
          if !isThere && arguments.has "c" then .ok (tree, "")
          else
            match tree.resolveFile call.directory path with
            | .error e => .error ("cannot open " ++ quoted path ++ " for writing: " ++ e.text)
            | .ok place =>
                let content := ((tree.get? place).map Inode.content).getD .empty
                let old := base?.getD content.size
                let size := if size?.isSome then (newSize? old text.toList).getD old else old
                .ok (tree.overwrite place (resized content size) call.fileMode, "")

/-! ## Several outputs -/

def teeOptions : OptionSpec where
  flags := "aip"
  names := [.flag "append" "a", .flag "ignore-interrupts" "i",
    ⟨"output-error", "p", .optional⟩]

def tee (call : Invocation) (arguments : Arguments) : Reply :=
  match call.input with
  | .error e => call.fail ("read error: " ++ e.text) 1
  | .ok input =>
      let step (tree : FileTree) (path : String) : Except String (FileTree × String) :=
        match tree.resolveFile call.directory path with
        | .error e => .error (shown path ++ ": " ++ e.text)
        | .ok place =>
            let old := if arguments.has "a" then ((tree.get? place).map Inode.content).getD .empty
              else .empty
            .ok (tree.overwrite place (old ++ input) call.fileMode, "")
      let reply := call.each arguments.operands step
      { reply.out (Octets.ofBytes input) with use := .all }

/-! ## Temporary files -/

def mktempOptions : OptionSpec where
  flags := "dqtu"
  valued := "p"
  names := [.flag "directory" "d", .flag "quiet" "q", .flag "dry-run" "u",
    .valued "suffix" "suffix", ⟨"tmpdir", "p", .optional⟩]

def freshLetters (seed count : Nat) : List Char :=
  let letters := "abcdefghijklmnopqrstuvwxyz0123456789".toList
  (List.range count).map fun n =>
    letters.getD ((seed / Nat.shiftLeft 1 n + 7 * n) % letters.length) 'a'

def mktemp (call : Invocation) (arguments : Arguments) : Reply :=
  let root := (call.environment.lookup "TMPDIR").getD "/tmp"
  let template := arguments.operands.headD "tmp.XXXXXXXXXX"
  let isInside := arguments.operands.isEmpty || arguments.hasAny ["p", "t"]
  let marks := (template.toList.reverse.dropWhile (· ≠ 'X')).takeWhile (· = 'X')
  let ending := template.toList.reverse.takeWhile (· ≠ 'X')
  let front := template.toList.take (template.length - ending.length - marks.length)
  let name := String.ofList
    (front ++ freshLetters (call.tree.nodes.length * 7919) marks.length ++ ending.reverse) ++
      (arguments.value? "suffix").getD ""
  let path := if isInside then Path.push ((arguments.value? "p").getD root) name else name
  if marks.length < 3 then
    call.fail ("too few X's in template " ++ quoted template) 1
  else if arguments.has "u" then call.write (path ++ "\n")
  else
    let kind := if arguments.has "d" then "directory" else "file"
    let made :=
      if arguments.has "d" then call.tree.makeDirectory call.directory path 0o700
      else call.tree.writeBytes call.directory path .empty 0o600
    match made with
    | .ok tree => { call.write (path ++ "\n") with tree := tree }
    | .error e =>
        let shape := if isInside then Path.push ((arguments.value? "p").getD root) template
          else template
        call.fail ("failed to create " ++ kind ++ " via template " ++ quoted shape ++ ": " ++
          e.text) 1

end CallScript.Shell.Invocation
