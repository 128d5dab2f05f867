import DocQuery.Command.Arguments

/-!
# The program

Reads the words of the command line, and the standard input where a command asks for it, and prints
what the command yields.  Errors go to the standard error, and the exit code tells them apart.
-/

namespace DocQuery

/-- The rest of a stream. -/
partial def readAll (stream : IO.FS.Stream) (before : String) : IO String := do
  let line ← stream.getLine
  if line.isEmpty then return before else readAll stream (before ++ line)

/-- The invocation with the documents it needs. -/
def supplyInput (invocation : Invocation) : IO Invocation := do
  if invocation.needsInput then
    return invocation.withInput (← readAll (← IO.getStdin) "")
  else
    return invocation

/-- Runs the program and returns its exit code. -/
def program (args : List String) : IO UInt32 := do
  match Invocation.ofArguments args with
  | .error e =>
    IO.eprintln e.message
    return 2
  | .ok invocation =>
    match (← supplyInput invocation).output with
    | .ok text =>
      IO.println text
      return 0
    | .error e =>
      IO.eprintln e.message
      return 1

end DocQuery

def main (args : List String) : IO UInt32 :=
  DocQuery.program args
