import CallScript.Shell.State

/-!
# Lines of the input

The line that `read` takes from the standard input. Unless it is read raw, a backslash quotes the
character behind it, and joins the line with the next one where that is a line break.
-/

namespace CallScript.Shell

/-- How many bytes the first line of a text takes, and whether a line break ends it. -/
def lineSize (raw : Bool) : List UInt8 → Nat × Bool
  | [] => (0, false)
  | byte :: rest =>
      if byte = 10 then (1, true)
      else if byte = 92 && !raw then
        match rest with
        | [] => (1, false)
        | _ :: rest =>
            let (size, isEnded) := lineSize raw rest
            (size + 2, isEnded)
      else
        let (size, isEnded) := lineSize raw rest
        (size + 1, isEnded)

theorem lineSize_le (raw : Bool) (text : List UInt8) : (lineSize raw text).1 ≤ text.length := by
  fun_induction lineSize raw text <;> simp_all

def lineChars (raw : Bool) : List Char → List (Char × Bool)
  | [] => []
  | c :: rest =>
      if c = '\\' && !raw then
        match rest with
        | [] => []
        | c :: rest => if c = '\n' then lineChars raw rest else (c, true) :: lineChars raw rest
      else if c = '\n' || c = '\x00' then lineChars raw rest
      else (c, false) :: lineChars raw rest

/-- A line that has been read. -/
structure InputLine where
  chars : List (Char × Bool)
  isEnded : Bool
  size : Nat

def InputLine.take (raw : Bool) (input : ByteArray) : InputLine :=
  let (size, isEnded) := lineSize raw input.data.toList
  let text := Octets.ofBytes (input.extract 0 size)
  ⟨lineChars raw text.toList, isEnded, size⟩

/-- Reads a line into parameters. At the end of the input, and where nothing can be read, the status
is 1. -/
def State.readLine (state : State) (raw : Bool) (names : List String) : State :=
  let line := InputLine.take raw ((state.input 0).toOption.getD .empty)
  let fields := lineFields state.separators names.length line.chars
  let state := (names.zip fields).foldl
    (fun state (name, field) => state.assign name (String.ofList field))
    (state.consume 0 line.size)
  if state.isActive then { state with status := if line.isEnded then 0 else 1 } else state

end CallScript.Shell
