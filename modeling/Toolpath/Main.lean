/-
Toolpath/Main.lean

The command line: the listing of a program from a file, or from the standard input.
-/
import Toolpath.Listing
import Toolpath.Machine.Operation

namespace Toolpath.CommandLine

/-- How the command is called. -/
def usage : String :=
  "usage: toolpath [--inch] [--verbose] FILE   (- for the standard input)"

/-- The options and the file that the arguments name, if they name one file. -/
def readArguments (o : ListingOptions) (file : Option String) :
    List String → Option (ListingOptions × String)
  | [] => file.map fun f => (o, f)
  | "--inch" :: more => readArguments { o with inch := true } file more
  | "--verbose" :: more => readArguments { o with verbose := true } file more
  | "-v" :: more => readArguments { o with verbose := true } file more
  | f :: more => if file.isSome then none else readArguments o (some f) more

/-- All of a stream. -/
partial def readStream (input : IO.FS.Stream) (before : String) : IO String := do
  let line ← input.getLine
  if line.isEmpty then return before else readStream input (before ++ line)

end Toolpath.CommandLine

open Toolpath in
/-- List the program that the arguments name; the exit code tells a broken word. -/
def main (arguments : List String) : IO UInt32 := do
  match CommandLine.readArguments {} none arguments with
  | none =>
    IO.eprintln CommandLine.usage
    return 2
  | some (options, file) =>
    let program ←
      if file == "-" then CommandLine.readStream (← IO.getStdin) "" else IO.FS.readFile file
    let listing := Listing.ofProgram { options with remarks := Machine.AppliedStep.remark }
      program.toList
    IO.print (String.ofList listing.output)
    IO.eprint (String.ofList listing.log)
    return if listing.failed then 1 else 0
