import CallScript.Shell.Pattern
import CallScript.Shell.Utility.Mode

/-!
# Listing files

The utilities that show which files there are and what they are like.
-/

namespace CallScript.Shell.Invocation

/-! ## Directories -/

def lsOptions : OptionSpec where
  flags := "aAbBcCdDfFgGhHiklLmnNopqQrRsStuUvxXZ1"
  valued := "ITw"
  names := [.flag "all" "a", .flag "almost-all" "A", ⟨"classify", "F", .optional⟩,
    ⟨"color", "color", .optional⟩, .flag "dereference" "L", .flag "directory" "d",
    .alone "file-type", .valued "format" "format", .alone "group-directories-first",
    .flag "human-readable" "h", .flag "ignore-backups" "B", .flag "inode" "i",
    .flag "quote-name" "Q", .flag "recursive" "R", .flag "reverse" "r", .flag "size" "s",
    .valued "sort" "sort", .valued "time" "time", .flag "literal" "N"]

/-- A file of a listing, with the name that it goes by. -/
structure Listed where
  name : String
  place : Location
  node : Inode

def kindLetter (node : Inode) : Char :=
  match node.entry with
  | .directory => 'd'
  | .file _ => '-'
  | .link _ => 'l'
  | .null => 'c'

def sizeOf (node : Inode) : Nat :=
  match node.entry with
  | .directory => 4096
  | .file content => content.size
  | .link target => target.length
  | .null => 0

def classSign (arguments : Arguments) (node : Inode) : String :=
  if node.isDirectory then if arguments.hasAny ["F", "p", "file-type"] then "/" else ""
  else if node.linkTarget?.isSome then if arguments.hasAny ["F", "file-type"] then "@" else ""
  else if node.isFile && node.isExecutable && arguments.has "F" then "*"
  else ""

def ordered (arguments : Arguments) (files : List Listed) : List Listed :=
  let byName := files.mergeSort fun a b => a.name ≤ b.name
  let sorted :=
    match arguments.last? ["t", "S", "U", "f"] with
    | some "t" => byName.mergeSort fun a b => a.node.time ≥ b.node.time
    | some "S" => byName.mergeSort fun a b => sizeOf a.node ≥ sizeOf b.node
    | _ => byName
  if arguments.has "r" then sorted.reverse else sorted

def listingLine (call : Invocation) (arguments : Arguments) (file : Listed) : String :=
  let name := if arguments.has "Q" then "\"" ++ file.name ++ "\"" else file.name
  let full := name ++ classSign arguments file.node
  if arguments.hasAny ["l", "n", "o", "g"] then
    let links := ((call.tree.number? file.place).map call.tree.nameCount).getD 1
    let target := (file.node.linkTarget?.map (" -> " ++ ·)).getD ""
    String.ofList [kindLetter file.node] ++ modeLetters file.node.mode ++ " " ++ toString links ++
      " user user " ++ toString (sizeOf file.node) ++ " Jan  1  1970 " ++ full ++ target
  else full

def listingText (call : Invocation) (arguments : Arguments) (files : List Listed) : String :=
  let lines := (ordered arguments files).map (listingLine call arguments)
  if arguments.has "m" then
    if lines.isEmpty then "" else ", ".intercalate lines ++ "\n"
  else String.join (lines.map (· ++ "\n"))

def filesIn (call : Invocation) (arguments : Arguments) (place : Location) : List Listed :=
  let inner := (call.tree.children place).map fun other =>
    ⟨other.1, place ++ [other.1], other.2⟩
  let dots := [".", ".."].filterMap fun name =>
    let there := if name = "." then place else place.dropLast
    (call.tree.get? there).map fun node => (⟨name, there, node⟩ : Listed)
  if arguments.last? ["a", "A", "f"] = some "A" then inner
  else if arguments.hasAny ["a", "f"] then dots ++ inner
  else inner.filter fun file => file.name.toList.head? ≠ some '.'

/-- Shows directories one after the other, with those inside of them if that is asked for. -/
def listDirectories (call : Invocation) (arguments : Arguments) (isTitled : Bool) :
    Nat → List Listed → Bool → Reply → Reply
  | 0, _, _, reply => reply
  | _, [], _, reply => reply
  | fuel + 1, directory :: others, isFirst, reply =>
      if !directory.node.allows .read then
        let reply := call.warn reply ("cannot open directory " ++ quoted directory.name ++ ": " ++
          OsError.permission.text)
        listDirectories call arguments isTitled fuel others isFirst { reply with code := 2 }
      else
        let files := filesIn call arguments directory.place
        let title := if isTitled then directory.name ++ ":\n" else ""
        let total := if arguments.hasAny ["l", "n", "o", "g", "s"] then "total 0\n" else ""
        let text := (if isFirst then "" else "\n") ++ title ++ total ++
          listingText call arguments files
        let inner := if arguments.has "R" then
          ((ordered arguments files).filter fun file =>
            file.node.isDirectory && ! [".", ".."].contains file.name).map fun file =>
              { file with name := Path.push directory.name file.name } else []
        listDirectories call arguments isTitled fuel (inner ++ others) false (reply.out text)

def ls (call : Invocation) (arguments : Arguments) : Reply :=
  let paths := if arguments.operands.isEmpty then ["."] else arguments.operands
  let follows := arguments.has "L" || !arguments.hasAny ["d", "F", "l"]
  let found : List (String × Except OsError Listed) := paths.map fun path =>
    let named := (call.tree.findNamed call.directory path).map fun (place, node) =>
      (⟨path, place, node⟩ : Listed)
    match call.tree.find call.directory path with
    | .ok (place, node) =>
        if follows && (arguments.has "L" || node.isDirectory) then (path, .ok ⟨path, place, node⟩)
        else (path, named)
    | .error e => (path, named.mapError fun _ => e)
  let reply := found.foldl
    (fun reply (path, result) =>
      match result with
      | .ok _ => reply
      | .error e =>
          { call.warn reply ("cannot access " ++ quoted path ++ ": " ++ e.text) with code := 2 })
    call.done
  let listed := found.filterMap fun other => other.2.toOption
  let isOpened (file : Listed) : Bool := file.node.isDirectory && !arguments.has "d"
  let files := listed.filter fun file => !isOpened file
  let directories := ordered arguments (listed.filter isOpened)
  let reply := reply.out (listingText call arguments files)
  listDirectories call arguments (1 < paths.length || arguments.has "R")
    (call.tree.names.length + paths.length + 2) directories files.isEmpty reply

/-! ## Properties -/

def statOptions : OptionSpec where
  flags := "Lft"
  valued := "c"
  names := [.flag "dereference" "L", .flag "file-system" "f", .valued "format" "c",
    .valued "printf" "printf", .flag "terse" "t"]

def kindName (node : Inode) : String :=
  match node.entry with
  | .directory => "directory"
  | .file content => if content.isEmpty then "regular empty file" else "regular file"
  | .link _ => "symbolic link"
  | .null => "character special file"

def statText (tree : FileTree) (file : Listed) : List Char → List Char
  | '%' :: c :: rest =>
      let number? := tree.number? file.place
      let text : String :=
        match c with
        | 'n' => file.name
        | 's' => toString (sizeOf file.node)
        | 'a' => String.ofList (Nat.toDigits 8 file.node.mode)
        | 'A' => String.ofList [kindLetter file.node] ++ modeLetters file.node.mode
        | 'F' => kindName file.node
        | 'h' => toString ((number?.map tree.nameCount).getD 1)
        | 'i' => toString (number?.getD 0 + 1)
        | 'N' => quoted file.name ++
            (file.node.linkTarget?.map fun target => " -> " ++ quoted target).getD ""
        | 'X' | 'Y' | 'Z' => toString (file.node.time / 1000000000)
        | 'u' | 'g' => if file.node.isOwn then "1000" else "0"
        | 'U' | 'G' => if file.node.isOwn then "user" else "root"
        | '%' => "%"
        | _ => "?"
      text.toList ++ statText tree file rest
  | c :: rest => c :: statText tree file rest
  | [] => []

def stat (call : Invocation) (arguments : Arguments) : Reply :=
  if arguments.operands.isEmpty then call.misuse "missing operand" 1
  else
    call.each arguments.operands fun tree path =>
      let found := if arguments.has "L" then tree.find call.directory path
        else tree.findNamed call.directory path
      match found with
      | .error e => .error ("cannot statx " ++ quoted path ++ ": " ++ e.text)
      | .ok (place, node) =>
          let text (format : String) : String :=
            String.ofList (statText tree ⟨path, place, node⟩ format.toList)
          match arguments.last? ["c", "printf"] with
          | some "printf" => .ok (tree, text ((arguments.value? "printf").getD ""))
          | _ => .ok (tree, text ((arguments.value? "c").getD "  File: %N") ++ "\n")

/-! ## Searching -/

/-- What is asked about files. -/
inductive Test where
  | name (pattern : Pattern)
  | path (pattern : Pattern)
  | kind (letter : Char)
  | newer (time : Nat)
  | isEmpty
  | print (ending : String)
  | delete
  | never
  | always
  | negate (test : Test)
  | both (first second : Test)
  | either (first second : Test)

/-- What a search is told: how deep it goes, and what it asks. -/
structure Search where
  least : Nat
  greatest? : Option Nat
  test : Test
  acts : Bool

mutual

def readTest (call : Invocation) : Nat → List String → Except String (Test × List String)
  | 0, _ => .error "too many tests"
  | _, [] => .ok (.always, [])
  | fuel + 1, word :: rest => do
      match word, rest with
      | "!", _ | "-not", _ =>
          let (test, behind) ← readTest call fuel rest
          return (.negate test, behind)
      | "(", _ =>
          let (test, behind) ← readEither call fuel rest
          match behind with
          | ")" :: behind => return (test, behind)
          | _ => throw "invalid expression; expected to find a ')' but didn't see one."
      | "-name", text :: behind => return (.name (Pattern.ofText text), behind)
      | "-path", text :: behind => return (.path (Pattern.ofText text), behind)
      | "-type", text :: behind => return (.kind (text.toList.headD '?'), behind)
      | "-newer", path :: behind =>
          match call.tree.find call.directory path with
          | .ok (_, node) => return (.newer node.time, behind)
          | .error e => throw (quoted path ++ ": " ++ e.text)
      | "-empty", _ => return (.isEmpty, rest)
      | "-print", _ => return (.print "\n", rest)
      | "-print0", _ => return (.print "\x00", rest)
      | "-delete", _ => return (.delete, rest)
      | "-true", _ => return (.always, rest)
      | "-false", _ => return (.never, rest)
      | "-maxdepth", _ :: behind | "-mindepth", _ :: behind => return (.always, behind)
      | "-depth", _ => return (.always, rest)
      | _, _ =>
          if rest.isEmpty && ["-name", "-path", "-type", "-newer"].contains word then
            throw ("missing argument to " ++ quoted word)
          else throw ("unknown predicate " ++ quoted word)

def readBoth (call : Invocation) : Nat → List String → Except String (Test × List String)
  | 0, _ => .error "too many tests"
  | fuel + 1, words => do
      let (first, behind) ← readTest call fuel words
      match behind with
      | [] | ")" :: _ | "-o" :: _ | "-or" :: _ => return (first, behind)
      | "-a" :: rest | "-and" :: rest =>
          let (second, behind) ← readBoth call fuel rest
          return (.both first second, behind)
      | _ =>
          let (second, behind) ← readBoth call fuel behind
          return (.both first second, behind)

def readEither (call : Invocation) : Nat → List String → Except String (Test × List String)
  | 0, _ => .error "too many tests"
  | fuel + 1, words => do
      let (first, behind) ← readBoth call fuel words
      match behind with
      | "-o" :: rest | "-or" :: rest =>
          let (second, behind) ← readEither call fuel rest
          return (.either first second, behind)
      | _ => return (first, behind)

end

def numberBehind? (word : String) : List String → Option Nat
  | first :: second :: rest =>
      if first = word then Number.natural? second.toList else numberBehind? word (second :: rest)
  | _ => none

def Search.ofWords (call : Invocation) (words : List String) : Except String Search := do
  let (test, behind) ← readEither call (4 * words.length + 4) words
  unless behind.isEmpty do throw ("unexpected argument " ++ quoted (behind.headD ""))
  return ⟨(numberBehind? "-mindepth" words).getD 0, numberBehind? "-maxdepth" words, test,
    words.any ["-print", "-print0", "-delete"].contains⟩

/-- Asks about a file: the answer, and the reply behind it. -/
def Test.ask (file : Listed) : Test → Reply → Bool × Reply
  | .name pattern, reply => (pattern.fits (file.place.getLastD file.name).toList, reply)
  | .path pattern, reply => (pattern.fits file.name.toList, reply)
  | .kind letter, reply =>
      let own := if kindLetter file.node = '-' then 'f' else kindLetter file.node
      (letter = own, reply)
  | .newer time, reply => (time < file.node.time, reply)
  | .isEmpty, reply =>
      (if file.node.isDirectory then !reply.tree.hasChildren file.place
        else file.node.isFile && file.node.content.isEmpty, reply)
  | .print ending, reply => (true, reply.out (file.name ++ ending))
  | .delete, reply => (true, { reply with tree := reply.tree.erase file.place })
  | .never, reply => (false, reply)
  | .always, reply => (true, reply)
  | .negate test, reply =>
      let (answer, reply) := test.ask file reply
      (!answer, reply)
  | .both first second, reply =>
      let (answer, reply) := first.ask file reply
      if answer then second.ask file reply else (false, reply)
  | .either first second, reply =>
      let (answer, reply) := first.ask file reply
      if answer then (true, reply) else second.ask file reply

def searchFrom (search : Search) (isDeep : Bool) : Nat → Nat → Listed → Reply → Reply
  | 0, _, _, reply => reply
  | fuel + 1, depth, file, reply =>
      let here (reply : Reply) : Reply :=
        if depth < search.least then reply
        else
          let (answer, reply) := search.test.ask file reply
          if answer && !search.acts then reply.out (file.name ++ "\n") else reply
      let below (reply : Reply) : Reply :=
        if file.node.isDirectory && search.greatest?.all (depth < ·) then
          (reply.tree.children file.place).foldl
            (fun reply other =>
              searchFrom search isDeep fuel (depth + 1)
                ⟨Path.push file.name other.1, file.place ++ [other.1], other.2⟩ reply)
            reply
        else reply
      if isDeep then here (below reply) else below (here reply)

def find (call : Invocation) : Reply :=
  let isWord (word : String) : Bool :=
    word.startsWith "-" || word = "(" || word = "!" || word = ")"
  let paths := call.args.takeWhile fun arg => !isWord arg
  let words := call.args.drop paths.length
  let paths := if paths.isEmpty then ["."] else paths
  match Search.ofWords call words with
  | .error text => call.fail text 1
  | .ok search =>
      let isDeep := words.any ["-delete", "-depth"].contains
      paths.foldl
        (fun reply path =>
          match reply.tree.findNamed call.directory path with
          | .error e => call.warn reply (quoted path ++ ": " ++ e.text)
          | .ok (place, node) =>
              searchFrom search isDeep (reply.tree.names.length + 2) 0 ⟨path, place, node⟩ reply)
        call.done

end CallScript.Shell.Invocation
