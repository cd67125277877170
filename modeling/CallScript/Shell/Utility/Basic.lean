import CallScript.Launch
import CallScript.Shell.CharClass
import CallScript.Shell.Options

/-!
# What utilities have in common

A utility sees its arguments, its input and the file tree, and answers with the tree it leaves, what
it writes and its exit code. All texts are octet texts.
-/

namespace CallScript.Shell

structure Invocation where
  name : String
  args : List String
  input : Except OsError ByteArray
  inputSize? : Option Nat
  inputFile? : Option Nat
  outputFile? : Option Nat
  directory : Location
  tree : FileTree
  about : String
  mask : Nat
  environment : List (String × String)

/-- How much of its input a utility uses. -/
inductive Use where
  | nothing
  | all
  /-- The front of a file. From a pipe it takes whole blocks. -/
  | front (size : Nat)
  /-- Not more than it needs, wherever that comes from. -/
  | exactly (size : Nat)
deriving DecidableEq

structure Reply where
  tree : FileTree
  written : List (Stream × String)
  code : Nat
  use : Use
  /-- Whether what is written comes out as it is written. If not, the output comes at the end. -/
  isOrdered : Bool

namespace Reply

def out (reply : Reply) (text : String) : Reply :=
  if text.isEmpty then reply else { reply with written := reply.written ++ [(.out, text)] }

def err (reply : Reply) (text : String) : Reply :=
  { reply with written := reply.written ++ [(.err, text)] }

def parts (reply : Reply) : List (Stream × String) :=
  if reply.isOrdered then reply.written
  else
    reply.written.filter (fun part => part.1 = .err) ++
      reply.written.filter fun part => part.1 = .out

end Reply

/-! ## Names in messages -/

def escapeLetters : List (Char × Char) :=
  [('\x07', 'a'), ('\x08', 'b'), ('\x09', 't'), ('\x0a', 'n'), ('\x0b', 'v'), ('\x0c', 'f'),
    ('\x0d', 'r')]

def escaped (c : Char) : List Char :=
  match escapeLetters.lookup c with
  | some letter => ['\\', letter]
  | none =>
      let digits := Nat.toDigits 8 c.toNat
      '\\' :: List.replicate (3 - digits.length) '0' ++ digits

/-- A character of which everything can be seen: controls behind a caret, and those from 128 on
behind a mark. -/
def caretChar (c : Char) : List Char :=
  let low (c : Char) : List Char :=
    if c.toNat < 32 then ['^', Char.ofNat (c.toNat + 64)]
    else if c.toNat = 127 then ['^', '?']
    else [c]
  if c.toNat < 128 then low c else 'M' :: '-' :: low (Char.ofNat (c.toNat - 128))

/-- Characters inside of single quotes; `isEscaping` says whether the quotes are of the kind in
which backslashes count. -/
def quotedChars (isEscaping : Bool) : List Char → List Char
  | [] => []
  | c :: rest =>
      if !isPrintable c then
        (if isEscaping then [] else "'$'".toList) ++ escaped c ++ quotedChars true rest
      else
        (if isEscaping then "''".toList else []) ++
          (if c = '\'' then "'\\''".toList else [c]) ++ quotedChars false rest

def fitsDoubleQuotes (c : Char) : Bool := c.isAlphanum || " %+,-./:@_'~#{}]".toList.contains c

def quoted (name : String) : String :=
  let chars := name.toList
  if chars.contains '\'' && chars.all fitsDoubleQuotes then "\"" ++ name ++ "\""
  else
    let front := if chars.contains '\'' && !chars.all isPrintable then "''" else ""
    front ++ "'" ++ String.ofList (quotedChars false chars) ++ "'"

def needsQuotes (name : String) : Bool :=
  let chars := name.toList
  chars.isEmpty || chars = ['\x7b'] || chars = ['\x7d'] ||
    (chars.head?.any fun c => c = '#' || c = '~') ||
    chars.any fun c => !isPrintable c || " !\"$&'()*;<=>?[\\^`|".toList.contains c

def shown (name : String) : String := if needsQuotes name then quoted name else name

namespace Invocation

def done (call : Invocation) : Reply := ⟨call.tree, [], 0, .nothing, false⟩

def write (call : Invocation) (text : String) : Reply := call.done.out text

def message (call : Invocation) (text : String) : String := call.name ++ ": " ++ text ++ "\n"

def fail (call : Invocation) (text : String) (code : Nat) : Reply :=
  { call.done.err (call.message text) with code := code }

def warn (call : Invocation) (reply : Reply) (text : String) : Reply :=
  { reply.err (call.message text) with code := 1 }

def helpHint (call : Invocation) : String :=
  "Try '" ++ call.name ++ " --help' for more information.\n"

def usage (call : Invocation) (arguments : String) : String :=
  "Usage: " ++ call.name ++ " " ++ arguments ++ "\n"

def misuse (call : Invocation) (text : String) (code : Nat) : Reply :=
  { call.done.err (call.message text ++ call.helpHint) with code := code }

/-- The content of a file; a dash is the standard input, and so is its path. -/
def content (call : Invocation) (path : String) : Except OsError String :=
  let isInput := path = "-" || path = "/dev/stdin"
  let bytes := if isInput then call.input else call.tree.readBytes call.directory path
  bytes.map Octets.ofBytes

def isOutput (call : Invocation) (path : String) : Bool :=
  let file? :=
    if path = "-" || path = "/dev/stdin" then call.inputFile?
    else do
      let (place, _) ← (call.tree.find call.directory path).toOption
      call.tree.number? place
  file?.isSome && file? = call.outputFile?

def useOf (paths : List String) : Use :=
  if paths.contains "-" || paths.contains "/dev/stdin" then .all else .nothing

/-- Does a step for each operand; a step that fails leaves a message and the code 1. -/
def each (call : Invocation) (paths : List String)
    (step : FileTree → String → Except String (FileTree × String)) : Reply :=
  paths.foldl
    (fun reply path =>
      match step reply.tree path with
      | .ok (tree, out) => { reply with tree := tree }.out out
      | .error text => call.warn reply text)
    call.done

def eachContent (call : Invocation) (paths : List String)
    (step : Reply → String → String → Reply) : Reply :=
  let reply := paths.foldl
    (fun reply path =>
      match call.content path with
      | .ok content => step reply path content
      | .error e => call.warn reply (shown path ++ ": " ++ e.text))
    call.done
  { reply with use := useOf paths }

def pathsOf (arguments : Arguments) : List String :=
  if arguments.operands.isEmpty then ["-"] else arguments.operands

def withOptions (spec : OptionSpec) (code : Nat) (utility : Invocation → Arguments → Reply)
    (call : Invocation) : Reply :=
  match spec.read call.args with
  | .error text => call.misuse text code
  | .ok arguments =>
      if arguments.has "version" then call.write call.about
      else if arguments.has "help" then call.write (call.usage "[OPTION]...")
      else utility call arguments

def fileMode (call : Invocation) : Nat := FileTree.masked FileTree.fileMode call.mask

def directoryMode (call : Invocation) : Nat := FileTree.masked FileTree.directoryMode call.mask

end Invocation

/-! ## Lines -/

def linesOf (text : String) : List (List Char) :=
  let pieces := Text.pieces '\n' text.toList
  if pieces.getLast? = some [] then pieces.dropLast else pieces

end CallScript.Shell
