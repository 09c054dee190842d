import Toolpath.Device.MoveKeeper
import Toolpath.Device.Printer
import Toolpath.Device.ToolChanger
import Toolpath.Machine.Step
import Toolpath.Main
import Toolpath.Repetition
import Toolpath.Sample.CalibrationSquare
import Toolpath.Sample.SingleLine
import Toolpath.Proofs.Pass
import Toolpath.Proofs.Course
import Toolpath.Proofs.Past
import Toolpath.Proofs.Renewal
import Toolpath.Proofs.ActionLog
import Toolpath.Proofs.Double.Nearest
import Toolpath.Proofs.Double.Rounding
import Toolpath.Proofs.Numeral.Grammar
import Toolpath.Proofs.Double.Storage
import Toolpath.Proofs.Double.Decimal
import Toolpath.Proofs.Numeral.Value
import Toolpath.Proofs.Word.Reading
import Toolpath.Proofs.Word.Rendering
import Toolpath.Proofs.Replay
import Toolpath.Proofs.FirstHandOver
import Toolpath.Proofs.Word.Remark
import Toolpath.Proofs.Double.Identity
import Toolpath.Proofs.Framing
import Toolpath.Proofs.Numeral.Written
import Toolpath.Proofs.Plays
import Toolpath.Proofs.PrinterCounts
import Toolpath.Proofs.Sample.CalibrationSquare
import Toolpath.Proofs.Sample.Independence
import Toolpath.Proofs.Composition
import Toolpath.Proofs.Drift
import Toolpath.Proofs.LetterCase
import Toolpath.Proofs.Registers
import Toolpath.Proofs.Listing
import Toolpath.Proofs.ShownRate
import Toolpath.Proofs.ParameterOrder
import Toolpath.Proofs.Failure
import Toolpath.Proofs.BedCode
import Toolpath.Proofs.PrinterHistory
import Toolpath.Proofs.Rebasing
import Toolpath.Proofs.Separation
import Toolpath.Proofs.Sample.SingleLine
import Toolpath.Proofs.Idempotence
import Toolpath.Proofs.Numeral.ReadBack
import Toolpath.Proofs.Word.Printed
