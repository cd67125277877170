import CallScript.IoError
import CallScript.Text.Pieces

/-!
# Paths as text

A path is a text whose pieces are divided by slashes; the paths that the file system gets are octet
texts. The functions of this module look at the text alone and never at a file.
-/

namespace CallScript.Path

def pieces (path : String) : List String := (Text.pieces '/' path.toList).map String.ofList

def isAbsolute (path : String) : Bool := path.toList.head? = some '/'

def endsInSlash (path : String) : Bool := path.toList.getLast? = some '/'

def trimSlashes (path : String) : String :=
  String.ofList (path.toList.reverse.dropWhile (· = '/')).reverse

/-- The pieces that name something: empty pieces and single dots do not. -/
def names (path : String) : List String :=
  (pieces path).filter fun piece => piece ≠ "" && piece ≠ "."

/-- The last name. A path that ends in two dots has none. -/
def fileName? (path : String) : Option String :=
  (names path).getLast?.filter (· ≠ "..")

/-- Divides a file name at its last dot. A name without a dot, or with none but the first character,
is all stem. -/
def divideAtDot (name : List Char) : List Char × Option (List Char) :=
  match name.reverse.dropWhile (· ≠ '.') with
  | [] => (name, none)
  | _ :: stem =>
      if stem.isEmpty then (name, none)
      else (stem.reverse, some (name.reverse.takeWhile (· ≠ '.')).reverse)

def stem? (path : String) : Option String :=
  (fileName? path).map fun name => String.ofList (divideAtDot name.toList).1

def extension? (path : String) : Option String :=
  (fileName? path).bind fun name => (divideAtDot name.toList).2.map String.ofList

def push (base piece : String) : String :=
  if base.isEmpty || endsInSlash base then base ++ piece else base ++ "/" ++ piece

def join (directory path : String) : String :=
  if isAbsolute path then path else push directory path

/-- Where an absolute path starts. Exactly two leading slashes are kept. -/
def root (path : String) : String :=
  match path.toList with
  | '/' :: '/' :: '/' :: _ => "/"
  | '/' :: '/' :: _ => "//"
  | _ => "/"

/-- The absolute form of a path: single dots and repeated slashes go, double dots and a slash at the
end stay. The path of the current directory may not be known; only a relative path needs it. -/
def absolute (current : Except IoError String) (path : String) : Except IoError String :=
  if path.isEmpty then .error .emptyPath
  else do
    let base ← if isAbsolute path then .ok (root path) else current
    let full := (names path).foldl push base
    return if endsInSlash path then push full "" else full

end CallScript.Path
