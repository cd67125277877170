import CallScript.Main
import CallScript.Proofs.AllOrNothing
import CallScript.Proofs.ByteCursor
import CallScript.Proofs.CarriageReturn
import CallScript.Proofs.CrateName
import CallScript.Proofs.ExitCode
import CallScript.Proofs.FileShortcut
import CallScript.Proofs.FirstFailure
import CallScript.Proofs.Indentation
import CallScript.Proofs.Independence
import CallScript.Proofs.Joining
import CallScript.Proofs.LeftBehind
import CallScript.Proofs.LineCount
import CallScript.Proofs.RefusedCharacters
import CallScript.Proofs.SelfDelimiting
import CallScript.Proofs.SourceLine
import CallScript.Proofs.StatementLoop
import CallScript.Proofs.WrittenSource
import CallScript.Text.Lossy
