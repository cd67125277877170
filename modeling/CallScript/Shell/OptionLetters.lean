/-!
# Option letters

The options of a command of the shell itself: letters behind a dash in front of the arguments.
-/

namespace CallScript.Shell

/-- The letters of the options in front of the arguments, and the other arguments. -/
def takeOptions (known : List Char) : List String → Except String (List Char × List String)
  | [] => .ok ([], [])
  | arg :: args =>
      match arg.toList with
      | ['-', '-'] => .ok ([], args)
      | '-' :: letter :: letters =>
          match (letter :: letters).find? fun c => !known.contains c with
          | some c => .error ("Illegal option -" ++ String.ofList [c])
          | none => do
              let (others, args) ← takeOptions known args
              return (letter :: letters ++ others, args)
      | _ => .ok ([], arg :: args)

end CallScript.Shell
