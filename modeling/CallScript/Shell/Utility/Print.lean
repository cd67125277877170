import CallScript.Shell.OptionLetters
import CallScript.Shell.Condition
import CallScript.Shell.Format
import CallScript.Shell.Interval
import CallScript.Shell.Utility.Basic

/-!
# Texts, conditions and pauses

The utilities that write their arguments, that ask whether something holds, and that only wait.
-/

namespace CallScript.Shell.Invocation

/-! ## Texts -/

def problemText (argument : String) : Format.Problem → String
  | .noNumber => argument ++ ": expected numeric value"
  | .notWhole => argument ++ ": not completely converted"
  | .outOfRange => argument ++ ": Numerical result out of range"

def mistakeText : Format.Mistake → String
  | .unknown directive => directive ++ ": invalid directive"
  | .unfinished _ => "missing format character"

def ownPrintf (call : Invocation) : Reply :=
  match takeOptions [] call.args with
  | .error text => call.fail text 2
  | .ok (_, []) => call.fail "usage: printf format [arg ...]" 2
  | .ok (_, format :: args) =>
      let result := Format.printf .plain format args
      let problems := result.problems.map fun (argument, problem) => problemText argument problem
      let messages := problems ++ (result.invalid?.map mistakeText).toList
      let reply := messages.foldl (fun reply text => reply.err (call.message text)) call.done
      { reply.out (String.ofList result.written) with
        code := if result.invalid?.isSome then 2 else if result.problems.isEmpty then 0 else 1 }

def fullDialect : Format.Dialect := ⟨true, "hlLjzt".toList, [('q', shown)]⟩

def fullProblemText (argument : String) : Format.Problem → String
  | .noNumber => quoted argument ++ ": expected a numeric value"
  | .notWhole => quoted argument ++ ": value not completely converted"
  | .outOfRange => quoted argument ++ ": Numerical result out of range"

def printf (call : Invocation) : Reply :=
  let args := if call.args.head? = some "--" then call.args.tail else call.args
  if call.args = ["--help"] then call.write (call.usage "FORMAT [ARGUMENT]...")
  else if call.args = ["--version"] then call.write call.about
  else
    match args with
    | [] => call.misuse "missing operand" 1
    | format :: args =>
        let result := Format.printf fullDialect format args
        let problems := result.problems.map fun (argument, problem) =>
          fullProblemText argument problem
        let mistakes := result.invalid?.toList.map fun mistake =>
          match mistake with
          | .unknown directive | .unfinished directive =>
              directive ++ ": invalid conversion specification"
        let excess :=
          if result.invalid?.isNone && !result.args.isEmpty && !result.ended then
            result.args.take 1
          else []
        let warnings := excess.map fun first =>
          "warning: ignoring excess arguments, starting with " ++ quoted first
        let messages := problems ++ mistakes ++ warnings
        let reply := messages.foldl (fun reply text => reply.err (call.message text)) call.done
        { reply.out (String.ofList result.written) with
          code := if problems.isEmpty && mistakes.isEmpty then 0 else 1 }

def isEchoOption (arg : String) : Bool :=
  match arg.toList with
  | '-' :: letter :: letters => (letter :: letters).all fun c => ['n', 'e', 'E'].contains c
  | _ => false

def echo (call : Invocation) : Reply :=
  if call.args = ["--help"] then call.write (call.usage "[SHORT-OPTION]... [STRING]...")
  else if call.args = ["--version"] then call.write call.about
  else
    let options := call.args.takeWhile isEchoOption
    let letters := options.flatMap fun option => option.toList.tail
    let escapes := (letters.filter (· ≠ 'n')).getLast? = some 'e'
    let args := call.args.drop options.length
    let args := if letters.contains 'n' then "-n" :: args else args
    call.write (Format.echo fullDialect escapes args)

/-! ## Conditions -/

def ownTest (call : Invocation) (args : List String) : Reply :=
  match Condition.eval call.tree call.directory args with
  | .ok true => call.done
  | .ok false => { call.done with code := 1 }
  | .error text => call.fail text 2

def ownBracket (call : Invocation) : Reply :=
  if call.args.getLast? = some "]" then call.ownTest call.args.dropLast
  else call.fail "missing ]" 2

/-! ## Pauses -/

def sleep (call : Invocation) (arguments : Arguments) : Reply :=
  match arguments.operands, arguments.operands.find? fun text => (interval? text).isNone with
  | [], _ => call.misuse "missing operand" 1
  | _, some text => call.misuse ("invalid time interval " ++ quoted text) 1
  | _, none => call.done

def syncOptions : OptionSpec where
  flags := "df"
  names := [.flag "data" "d", .flag "file-system" "f"]

end CallScript.Shell.Invocation
