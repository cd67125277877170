import CallScript.Shell.Number

/-!
# Intervals of time

The times that a script can wait for, as it spells them: a decimal number of seconds, or of a longer
unit that a letter names.
-/

namespace CallScript.Shell

/-- Units of time by their letters, in seconds. -/
def intervalUnits : List (List Char × Nat) :=
  [([], 1), (['s'], 1), (['m'], 60), (['h'], 3600), (['d'], 86400)]

def secondLength : Nat := 1000000000

def interval? (text : String) : Option Nat := do
  let whole := text.toList.takeWhile Char.isDigit
  let rest := text.toList.drop whole.length
  let part := if rest.head? = some '.' then rest.tail.takeWhile Char.isDigit else []
  let rest := if rest.head? = some '.' then rest.drop (part.length + 1) else rest
  guard (!whole.isEmpty || !part.isEmpty)
  let unit ← intervalUnits.lookup rest
  let digits := (part ++ List.replicate 9 '0').take 9
  return (Number.ofDigits 10 whole * secondLength + Number.ofDigits 10 digits) * unit

end CallScript.Shell
