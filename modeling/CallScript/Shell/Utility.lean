import CallScript.Shell.Utility.Cat
import CallScript.Shell.Utility.Checksum
import CallScript.Shell.Utility.Columns
import CallScript.Shell.Utility.Compare
import CallScript.Shell.Utility.Copy
import CallScript.Shell.Utility.Count
import CallScript.Shell.Utility.Diff
import CallScript.Shell.Utility.Dump
import CallScript.Shell.Utility.Edit
import CallScript.Shell.Utility.Evaluate
import CallScript.Shell.Utility.Exchange
import CallScript.Shell.Utility.Grep
import CallScript.Shell.Utility.Join
import CallScript.Shell.Utility.Listing
import CallScript.Shell.Utility.Order
import CallScript.Shell.Utility.Part
import CallScript.Shell.Utility.PathName
import CallScript.Shell.Utility.Print
import CallScript.Shell.Utility.Sequence
import CallScript.Shell.Utility.Test
import CallScript.Shell.Utility.Touch

/-!
# Utilities

The programs that a machine has besides the shell, by name, and the files that hold them.

A file holds such a program if its content begins with a mark, the name of the utility and a line
break. What follows is the text that the utility shows about itself.
-/

namespace CallScript.Shell

open Invocation

/-- The utilities by name. Those that run other programs are not among them. -/
def utilities : List (String × (Invocation → Reply)) :=
  [("cat", withOptions catOptions 1 cat), ("chmod", chmod),
    ("mkdir", withOptions mkdirOptions 1 mkdir), ("rmdir", withOptions rmdirOptions 1 rmdir),
    ("rm", withOptions rmOptions 1 rm), ("unlink", withOptions {} 1 unlink),
    ("cp", withOptions cpOptions 1 cp), ("mv", withOptions mvOptions 1 mv),
    ("ln", withOptions lnOptions 1 ln), ("link", withOptions {} 1 linkUtility),
    ("install", withOptions installOptions 1 Invocation.install),
    ("basename", withOptions basenameOptions 1 basename),
    ("dirname", withOptions dirnameOptions 1 dirname),
    ("readlink", withOptions readlinkOptions 1 readlink),
    ("realpath", withOptions realpathOptions 1 realpath), ("pwd", withOptions pwdOptions 1 pwd),
    ("touch", withOptions touchOptions 1 touch),
    ("truncate", withOptions truncateOptions 1 truncate), ("tee", withOptions teeOptions 1 tee),
    ("mktemp", withOptions mktempOptions 1 mktemp), ("ls", withOptions lsOptions 2 ls),
    ("stat", withOptions statOptions 1 stat), ("find", find),
    ("head", head), ("tail", tail), ("cut", withOptions cutOptions 1 cut),
    ("wc", withOptions wcOptions 1 wc), ("sort", withOptions sortOptions 2 sort),
    ("uniq", withOptions uniqOptions 1 uniq), ("comm", withOptions commOptions 1 comm),
    ("tac", withOptions tacOptions 1 tac), ("nl", withOptions nlOptions 1 nl),
    ("rev", withOptions {} 1 rev),
    ("fold", fun call =>
      withOptions foldOptions 1 fold { call with args := expandWidth "-w" call.args }),
    ("expand", fun call =>
      withOptions expandOptions 1 expand { call with args := expandWidth "-t" call.args }),
    ("paste", withOptions pasteOptions 1 paste),
    ("seq", fun call =>
      withOptions seqOptions 1 seq { call with args := markNegative call.args }),
    ("yes", withOptions {} 1 yes), ("tr", withOptions trOptions 1 tr),
    ("grep", grep), ("sed", edit), ("expr", expr), ("cmp", cmp),
    ("diff", diff), ("join", withOptions joinOptions 1 Invocation.join),
    ("cksum", withOptions cksumOptions 1 cksum), ("sum", withOptions sumOptions 1 sum),
    ("base64", withOptions base64Options 1 base64),
    ("od", fun call =>
      withOptions odOptions 1 od { call with args := expandLineWidth call.args }),
    ("printf", printf), ("echo", echo), ("true", done),
    ("false", fun call => { call.done with code := 1 }),
    ("sync", withOptions syncOptions 1 fun call _ => call.done),
    ("test", fun call => call.test call.args), ("[", bracket)] ++
    DigestKind.all.map fun (name, kind) =>
      (name ++ "sum", withOptions digestOptions 1 (digestSum kind))

/-- Programs that are no utilities in this sense: the shells, and what runs other programs. -/
def otherPrograms : List String :=
  ["sh", "dash", "bash", "sleep", "env", "nohup", "nice", "stdbuf", "timeout", "xargs"]

/-! ## Programs as files -/

/-- The beginning of a file that holds a program. It makes no text. -/
def programMark : String := "\x7fELF\x02\x01\x01\xff\n"

def programContent (name about : String) : ByteArray :=
  Octets.toBytes (programMark ++ name ++ "\n" ++ Octets.ofText about)

/-- The program that a file holds: its name and what it shows about itself. -/
def programOf? (content : ByteArray) : Option (String × String) :=
  let mark := Octets.toBytes programMark
  if (content.extract 0 mark.size).data = mark.data then
    let rest := (Octets.ofBytes (content.extract mark.size content.size)).toList
    let name := rest.takeWhile (· ≠ '\n')
    some (String.ofList name, String.ofList (rest.drop (name.length + 1)))
  else none

def scripts : List (String × String) :=
  [("egrep", "#!/bin/sh\ncmd=$\x7b0##*/\x7d\nexec grep -E \"$@\"\n"),
    ("fgrep", "#!/bin/sh\ncmd=$\x7b0##*/\x7d\nexec grep -F \"$@\"\n")]

def systemNode (entry : Entry) (mode : Nat) : Inode := ⟨entry, mode, false, 0⟩

def systemDirectories : List Location :=
  [["boot"], ["etc"], ["home"], ["media"], ["mnt"], ["opt"], ["root"], ["run"], ["srv"],
    ["usr", "include"], ["usr", "lib"], ["usr", "lib64"], ["usr", "local", "bin"],
    ["usr", "local", "lib"], ["usr", "sbin"], ["usr", "share"], ["usr", "src"], ["var", "cache"],
    ["var", "lib"], ["var", "log"], ["var", "tmp"]]

def systemLinks : List (String × String) :=
  [("bin", "usr/bin"), ("lib", "usr/lib"), ("lib64", "usr/lib64"), ("sbin", "usr/sbin")]

def userList : String := "root:x:0:0:root:/root:/bin/sh\n"

/-- Adds to a tree what a machine has for its own use: directories, the shell, the utilities, the
list of users, the null file and an empty input. `about` gives what a utility shows about itself. -/
def install (about : String → String) (tree : FileTree) : FileTree :=
  let tree := systemDirectories.foldl
    (fun tree place => tree.place place (systemNode .directory 0o755)) tree
  let names := otherPrograms ++ utilities.map (·.1)
  let tree := names.foldl
    (fun tree name =>
      let content := programContent name (about name)
      tree.place ["usr", "bin", name] (systemNode (.file content) 0o755)) tree
  let tree := scripts.foldl
    (fun tree (name, text) =>
      tree.place ["usr", "bin", name] (systemNode (.file text.toUTF8) 0o755)) tree
  let tree := systemLinks.foldl
    (fun tree (name, target) => tree.place [name] (systemNode (.link target) 0o777)) tree
  let tree := tree.place ["etc", "passwd"] (systemNode (.file userList.toUTF8) 0o644)
  let tree := tree.place ["dev", "stdin"] (systemNode .null 0o666)
  tree.place ["dev", "null"] (systemNode .null 0o666)

end CallScript.Shell
