import CallScript.Shell.Digest
import CallScript.Shell.Utility.Basic

/-!
# Sums of files

The utilities that show sums and digests of files, that check digests, and that spell bytes in
letters.
-/

namespace CallScript.Shell

def byteValues (text : String) : List Nat := text.toList.map Char.toNat

/-- A digest by the name it is shown by. -/
structure DigestKind where
  title : String
  digest : List Nat → List Nat

namespace DigestKind

def hex (kind : DigestKind) (content : String) : String :=
  Digest.hexText (kind.digest (byteValues content))

def all : List (String × DigestKind) :=
  [("md5", ⟨"MD5", Digest.md5⟩), ("sha1", ⟨"SHA1", Digest.sha1⟩),
    ("sha224", ⟨"SHA224", Digest.sha224⟩), ("sha256", ⟨"SHA256", Digest.sha256⟩),
    ("sha384", ⟨"SHA384", Digest.sha384⟩), ("sha512", ⟨"SHA512", Digest.sha512⟩)]

end DigestKind

namespace Invocation

/-! ## Plain sums -/

def cksumOptions : OptionSpec where
  valued := "al"
  names := [.valued "algorithm" "a", .alone "untagged", .alone "tag"]

/-- A name behind a sum; the standard input has none unless it was asked for. -/
def nameBehind (arguments : Arguments) (path : String) : String :=
  if arguments.operands.isEmpty then "" else " " ++ path

def crcLine (arguments : Arguments) (path content : String) : String :=
  toString (Digest.crc (byteValues content)) ++ " " ++ toString content.length ++
    nameBehind arguments path ++ "\n"

def blockCount (size : Nat) (content : String) : Nat := (content.length + size - 1) / size

def turnedLine (arguments : Arguments) (path content : String) : String :=
  let digits := toString (Digest.turnedSum (byteValues content))
  let blocks := toString (blockCount 1024 content)
  "".pushn '0' (5 - digits.length) ++ digits ++ "".pushn ' ' (6 - blocks.length) ++ blocks ++
    nameBehind arguments path ++ "\n"

def plainLine (arguments : Arguments) (path content : String) : String :=
  toString (Digest.plainSum (byteValues content)) ++ " " ++ toString (blockCount 512 content) ++
    nameBehind arguments path ++ "\n"

def showSums (call : Invocation) (arguments : Arguments)
    (line : Arguments → String → String → String) : Reply :=
  call.eachContent (pathsOf arguments) fun reply path content =>
    reply.out (line arguments path content)

def sumOptions : OptionSpec where
  flags := "rs"
  names := [.flag "sysv" "s"]

def sum (call : Invocation) (arguments : Arguments) : Reply :=
  call.showSums arguments (if arguments.last? ["r", "s"] = some "s" then plainLine else turnedLine)

/-! ## Digests -/

def digestOptions : OptionSpec where
  flags := "bctwz"
  names := [.flag "binary" "b", .flag "check" "c", .alone "ignore-missing", .alone "quiet",
    .alone "status", .alone "strict", .alone "tag", .flag "text" "t", .flag "warn" "w",
    .flag "zero" "z"]

/-- The line for the digest of a file. A name that would break the line is spelled with backslashes.
-/
def digestLine (kind : DigestKind) (arguments : Arguments) (path content : String) : String :=
  let isPlain := arguments.has "z" || path.toList.all fun c => c ≠ '\\' && c ≠ '\n' && c ≠ '\r'
  let name :=
    if isPlain then path
    else
      String.ofList (path.toList.flatMap fun c =>
        if c = '\\' then ['\\', '\\'] else if c = '\n' then ['\\', 'n']
        else if c = '\r' then ['\\', 'r'] else [c])
  let isBinary := arguments.last? ["b", "t"] = some "b"
  let ended := if arguments.has "z" then "\x00" else "\n"
  (if isPlain then "" else "\\") ++
    (if arguments.has "tag" then kind.title ++ " (" ++ name ++ ") = " ++ kind.hex content
      else kind.hex content ++ (if isBinary then " *" else "  ") ++ name) ++ ended

def listedDigest? (kind : DigestKind) (line : List Char) : Option (String × String) := do
  let isHex (c : Char) : Bool := c.isDigit || ('a' ≤ c.toLower && c.toLower ≤ 'f')
  let size := 2 * (kind.digest []).length
  let mark := (kind.title ++ " (").toList
  if mark.isPrefixOf line then
    let rest := line.drop mark.length
    let name := rest.take (rest.length - size - 4)
    let digest := rest.drop (rest.length - size)
    guard ((rest.drop name.length).take 4 = ") = ".toList && digest.all isHex)
    return (String.ofList digest, String.ofList name)
  else
    let digest := line.take size
    let behind := line.drop size
    guard (digest.length = size && digest.all isHex && behind.length > 2 &&
      behind.head? = some ' ')
    return (String.ofList digest, String.ofList (behind.drop 2))

/-- What has come out of a check so far. -/
structure CheckState where
  reply : Reply
  listed : Nat
  wrong : Nat
  missing : Nat

def checkLine (call : Invocation) (kind : DigestKind) (arguments : Arguments) (state : CheckState)
    (line : List Char) : CheckState :=
  match listedDigest? kind line with
  | none => state
  | some (digest, path) =>
      let state := { state with listed := state.listed + 1 }
      let isSilent := arguments.has "status"
      match call.content path with
      | .error e =>
          if arguments.has "ignore-missing" && e = .noEntry then state
          else
            let reply := state.reply.err (call.message (shown path ++ ": " ++ e.text))
            { state with
              reply := if isSilent then reply else reply.out (path ++ ": FAILED open or read\n")
              missing := state.missing + 1 }
      | .ok content =>
          let isRight := kind.hex content = digest.toLower
          let text :=
            if isSilent || (isRight && arguments.has "quiet") then ""
            else path ++ (if isRight then ": OK\n" else ": FAILED\n")
          { state with
            reply := state.reply.out text, wrong := state.wrong + if isRight then 0 else 1 }

def checkList (call : Invocation) (kind : DigestKind) (arguments : Arguments) (reply : Reply)
    (path content : String) : Reply :=
  let state := (linesOf content).foldl (checkLine call kind arguments) ⟨reply, 0, 0, 0⟩
  if state.listed = 0 then
    call.warn state.reply (shown path ++ ": no properly formatted checksum lines found")
  else
    let count (n : Nat) (one many : String) : String :=
      "WARNING: " ++ toString n ++ " " ++ if n = 1 then one else many
    let warnings :=
      (if state.missing > 0 then
        [count state.missing "listed file could not be read" "listed files could not be read"]
        else []) ++
      if state.wrong > 0 then
        [count state.wrong "computed checksum did NOT match" "computed checksums did NOT match"]
        else []
    let reply := if arguments.has "status" then state.reply
      else warnings.foldl (fun reply text => reply.err (call.message text)) state.reply
    { reply with code := if warnings.isEmpty then reply.code else 1 }

def digestSum (kind : DigestKind) (call : Invocation) (arguments : Arguments) : Reply :=
  let reply :=
    if arguments.has "c" then
      call.eachContent (pathsOf arguments) (call.checkList kind arguments)
    else
      call.eachContent (pathsOf arguments) fun reply path content =>
        reply.out (digestLine kind arguments path content)
  { reply with isOrdered := arguments.has "c" }

def cksum (call : Invocation) (arguments : Arguments) : Reply :=
  match arguments.value? "a" with
  | none | some "crc" => call.showSums arguments crcLine
  | some "bsd" => call.showSums arguments turnedLine
  | some "sysv" => call.showSums arguments plainLine
  | some name =>
      match DigestKind.all.lookup name with
      | some kind =>
          let isTagged := arguments.last? ["untagged", "tag"] ≠ some "untagged"
          digestSum kind call (if isTagged then arguments.add "tag" none else arguments)
      | none =>
          let names := ["bsd", "sysv", "crc", "md5", "sha1", "sha224", "sha256", "sha384", "sha512",
            "blake2b", "sm3"]
          let shown := "\n".intercalate (names.map fun name => "  - '" ++ name ++ "'")
          let problem := "invalid argument '" ++ name ++ "' for '--algorithm'"
          call.misuse (problem ++ "\nValid arguments are:\n" ++ shown) 1

/-! ## Letters -/

def base64Options : OptionSpec where
  flags := "di"
  valued := "w"
  names := [.flag "decode" "d", .flag "ignore-garbage" "i", .valued "wrap" "w"]

/-- Lines of a width; no width is a single line without an end. -/
def wrapped (width : Nat) : Nat → List Char → List Char
  | 0, text => text
  | _, [] => []
  | fuel + 1, text =>
      if width = 0 then text else text.take width ++ '\n' :: wrapped width fuel (text.drop width)

def base64 (call : Invocation) (arguments : Arguments) : Reply :=
  match (arguments.value? "w").map (fun text => (text, Number.natural? text.toList)),
      arguments.operands with
  | some (text, none), _ => call.fail ("invalid wrap size: " ++ quoted text) 1
  | _, _ :: extra :: _ => call.misuse ("extra operand " ++ quoted extra) 1
  | width?, operands =>
      let path := operands.headD "-"
      let width := (width?.bind (·.2)).getD 76
      let reply :=
        match call.content path with
        | .error .isDirectory => call.fail ("read error: " ++ OsError.isDirectory.text) 1
        | .error e => call.fail (shown path ++ ": " ++ e.text) 1
        | .ok content =>
            if arguments.has "d" then
              let isLetter (c : Char) : Bool := c = '=' || Digest.letters64.contains c
              let text := content.toList.filter fun c =>
                if arguments.has "i" then isLetter c else c ≠ '\n'
              let (bytes, isRight) := Digest.decode64 text.length text
              let reply := call.write (String.ofList (bytes.map Char.ofNat))
              if isRight then reply else call.warn reply "invalid input"
            else
              let text := Digest.encode64 (byteValues content)
              call.write (String.ofList (wrapped width text.length text))
      { reply with use := useOf [path] }

end Invocation
end CallScript.Shell
