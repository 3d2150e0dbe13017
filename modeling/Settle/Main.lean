import Settle.CommandLine.Rehearsal

/-!
# The program

The words behind the program's name are a command, and the document on the standard input is a
rehearsal of it. What is told goes to the standard error, and so does a complaint; what is said of
a success goes to the standard output.
-/

namespace Settle.Program

/-- How the program is used. -/
def usage : String :=
  "usage: wait KIND NAME [--api-version V] [--namespace N] [--config FILE] [--operation OP] " ++
    "[--timeout T]\n" ++
  "       apply -f FILE [--config FILE] [--operation OP]\n" ++
  "       delete -f FILE [--config FILE] [--timeout T] [--cascade Background|Foreground]"

/-- The steps that a wait may take. -/
def steps : Nat := 1000000

/-- All that is left to read. -/
partial def readAll (input : IO.FS.Stream) (seen : String) : IO String := do
  let line ← input.getLine
  if line.isEmpty then return seen else readAll input (seen ++ line)

def complain (t : Text) : IO Unit := IO.eprintln t.toStringLossy

/-- What is said of a failure that a command does not account for. -/
def escapedText : Rejection → Text
  | .issues is => (Halt.rejected "Settings" is).text
  | .failed f  => f.kind ++ ": " ++ f.message

/-- Prints a report. -/
def print (r : Report) : IO Unit := do
  r.notices.forM fun n => complain n.line
  if let some c := r.complaint? then complain c
  if let some f := r.escaped? then complain (escapedText f)
  if let some o := r.output? then IO.println o.toStringLossy

/-- Rehearses the command that the words spell and answers with its exit code. -/
def rehearse (words : List String) : IO UInt32 := do
  match Document.ofYaml (← readAll (← IO.getStdin) "") with
  | .error f =>
    complain f.message
    return 2
  | .ok d =>
    match Command.runWords (Rehearsal.surroundings d) steps (words.map Text.ofString) with
    | .misused =>
      IO.eprintln usage
      return 2
    | .endless =>
      complain "the wait goes on"
      return 1
    | .report r =>
      print r
      return r.code.toUInt32

end Settle.Program

def main (words : List String) : IO UInt32 := Settle.Program.rehearse words
