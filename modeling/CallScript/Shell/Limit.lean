import CallScript.Shell.State

/-!
# Limits of a process

What a process may use at most, with the command `ulimit` that shows and sets it. Each limit has a
value that holds and one up to which the process may raise it again. Nothing is limited at first.
-/

namespace CallScript.Shell

/-- Whether a number is at most another one, where no number means that there is no limit. -/
def isWithin : Option Nat → Option Nat → Bool
  | _, none => true
  | none, some _ => false
  | some a, some b => a ≤ b

def State.limit (state : State) (letter : Char) : Limit :=
  (state.limits.lookup letter).getD ⟨none, none⟩

def Limit.change (old new : Limit) : Except OsError Limit :=
  if !isWithin new.soft? new.hard? then .error .invalid
  else if !isWithin new.hard? old.hard? then .error .notPermitted
  else .ok new

def limitOf? (text : String) : Option (Option Nat) :=
  if text = "unlimited" then some none
  else if text.toList.all Char.isDigit then some (some (Number.ofDigits 10 text.toList))
  else none

/-- Shows or sets a limit. The last letter says which one, and the others whether the value that
holds is meant, or the one up to which it may be raised. -/
def State.changeLimit (state : State) (letters : List Char) (args : List String) : State :=
  let letter := ((letters.filter fun c => c ≠ 'H' && c ≠ 'S').getLast?).getD 'f'
  let (isHard, isSoft) := (letters.contains 'H', letters.contains 'S')
  let old := state.limit letter
  match args with
  | [] =>
      let value? := if isHard && !isSoft then old.hard? else old.soft?
      { state.writeText 1 ((value?.map fun value => toString value).getD "unlimited" ++ "\n") with
        status := 0 }
  | [text] =>
      match limitOf? text with
      | none => state.complain "bad number" 2
      | some value? =>
          let new : Limit :=
            ⟨if isSoft || !isHard then value? else old.soft?,
              if isHard || !isSoft then value? else old.hard?⟩
          match old.change new with
          | .ok limit =>
              let others := state.limits.filter fun other => other.1 ≠ letter
              { state with status := 0, limits := (letter, limit) :: others }
          | .error e => state.complain ("error setting limit (" ++ e.text ++ ")") 2
  | _ => state.complain "too many arguments" 2

end CallScript.Shell
