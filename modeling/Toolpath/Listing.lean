/-
Toolpath/Listing.lean

A program listed as the actions it asks for, one to a line, with the log of its broken
words and a summary beside the list.  This is all that the command line shows.

The arithmetic of the machine may write into the log, too.  What it has to say about a change
of the registers is left open; it comes at the place in the log at which the change is made.
-/
import Toolpath.Changes
import Toolpath.Device.Recorder
import Toolpath.Number.Fixed

namespace Toolpath

/-! ### One action -/

namespace Action

/-- The name of an action, with blanks after it up to a column. -/
def column (a : Action) : Text :=
  a.name.toList.rightpad 16 ' ' ++ [' ']

/-- A position, with the letter of each axis. -/
def positionText (p : PerAxis Float) : Text :=
  [' '].intercalate (Axis.all.map fun i => i.letter :: Fixed.write 3 (p.get i))

/-- An action on a line of its own. -/
def listing (a : Action) : Text :=
  match a with
  | .rapidMove target => a.column ++ positionText target
  | .coordinatedMove target => a.column ++ positionText target
  | .setFeedrate v => a.column ++ Significant.write v
  | .setTemperature v => a.column ++ Significant.write v
  | .setFanSpeed v => a.column ++ Significant.write v
  | .waitTemperature => a.name.toList
  | .disableMotors => a.name.toList
  | .goHome axes => a.column ++ axes.maskText
  | .handOver w => a.column ++ w.text ++ " '".toList ++ w.rest ++ ['\'']

end Action

/-! ### The whole program -/

/-- What can be chosen about a listing. -/
structure ListingOptions where
  /-- Whether the program begins in inches. -/
  inch : Bool := false
  /-- Whether the log shows more than warnings. -/
  verbose : Bool := false
  /-- What the arithmetic says about a change of the registers, in lines.  It can depend on the
  changes before; of these the last one comes first. -/
  remarks : List Machine.AppliedStep → Machine.AppliedStep → List Text := fun _ _ => []

/-- What is shown of a program. -/
structure Listing where
  /-- The actions. -/
  output : Text
  /-- The log and the summary. -/
  log : Text
  /-- Whether a word was broken. -/
  failed : Bool
  deriving DecidableEq

namespace Listing

/-- Whether the log shows entries of a severity. -/
def shows (o : ListingOptions) : Severity → Bool
  | .debug => false
  | .info => o.verbose
  | .warning => true

/-- An entry of the log with its severity and its origin. -/
def entryLine (e : LogEntry) : Text :=
  e.severity.name.toList ++ " gcodemachine.gcode.interpreter: ".toList ++ e.message

/-- The counts of lines, of actions and of broken words. -/
def counts (lines actions errors : Nat) : Text :=
  Decimal.digits lines ++ " lines, ".toList ++ Decimal.digits actions
    ++ " actions, ".toList ++ Decimal.digits errors ++ " errors".toList

/-! ### What comes into the log -/

/-- Something of which the log can tell. -/
inductive Notice
  | change (x : Machine.AppliedStep)
  | entry (e : LogEntry)
  deriving DecidableEq

/-- What there is for the log in several lines, in order.  A recorder has nothing to say about
actions, so the entries of a line come when all its changes are made. -/
def notices (i : Interpreter Recording) : List Text → List Notice
  | [] => []
  | line :: lines =>
    let j := i.readLine {} recorder line
    (Machine.appliedSteps {} i.machine (i.changes {} recorder line)).map Notice.change
      ++ (j.logSince recorder i.journal.size).map Notice.entry ++ notices j lines

/-- The lines of the log, after some changes. -/
def tell (o : ListingOptions) (earlier : List Machine.AppliedStep) : List Notice → List Text
  | [] => []
  | .change x :: more => o.remarks earlier x ++ tell o (x :: earlier) more
  | .entry e :: more =>
    if shows o e.severity then entryLine e :: tell o earlier more else tell o earlier more

/-! ### The run and its listing -/

/-- The lines that are read before the program. -/
def opening (o : ListingOptions) : List Text :=
  if o.inch then ["G20".toList] else []

/-- The interpreter before the program: at power-on, and in inches if that was chosen. -/
def before (o : ListingOptions) : Interpreter Recording :=
  (opening o).foldl (Interpreter.readLine {} recorder) (Interpreter.start {} #[])

/-- The lines of a program, as its text comes in.  Its newlines may be of any kind. -/
def programLines (program : Text) : List Text :=
  Text.lines (Text.unifyNewlines program)

/-- The interpreter when the program is read. -/
def run (o : ListingOptions) (program : Text) : Interpreter Recording :=
  (before o).readLines {} recorder (programLines program)

/-- All that there is for the log of a program.  Its lines are counted from the first one. -/
def programNotices (o : ListingOptions) (program : Text) : List Notice :=
  notices (Interpreter.start {} #[]) (opening o)
    ++ notices { before o with lineCount := 0, diagnostics := #[] } (programLines program)

/-- The listing of a program. -/
def ofProgram (o : ListingOptions) (program : Text) : Listing :=
  let i := run o program
  { output := Text.unlines (i.device.toList.map Action.listing)
    log := Text.unlines (tell o [] (programNotices o program)
      ++ [[], counts i.lineCount i.device.size i.diagnostics.size])
    failed := ! i.diagnostics.isEmpty }

end Listing

end Toolpath
