import Bcpl.CommandLine.FileTree
import Bcpl.CommandLine.Run

/-!
The program as it is run: files, surroundings and output are those of the system.
-/

namespace Bcpl

/-- The failure that an error of the system stands for. A directory is told from a file in its
place by the number of the error, which is 21 when the directory is read. -/
def failureOfSystem : IO.Error → Failure
  | .inappropriateType _ number _ => if number = 21 then .isDirectory else .notDirectory
  | .invalidArgument _ _ _ => .nameTooLong
  | .permissionDenied _ _ _ => .permissionDenied
  | _ => .fileNotFound

def readFile (path : Text) : IO (Except Failure Text) := do
  try
    return textOfBytes (← IO.FS.readBinFile (String.ofList path))
  catch error => return .error (failureOfSystem error)

def fetch : Except Refusal Invocation → IO (Except Failure Text)
  | .ok invocation => if invocation.inline then return .ok [] else readFile invocation.input
  | .error _ => return .ok []

def surroundings : IO Environment := do
  let valueOf (name : String) : IO (Option Text) := return (← IO.getEnv name).map String.toList
  return ⟨← valueOf "RUST_LOG", ← valueOf "TERM", ← valueOf "NO_COLOR"⟩

end Bcpl

open Bcpl in
def main (arguments : List String) : IO UInt32 := do
  let arguments := arguments.map String.toList
  let content ← fetch (Invocation.ofArguments arguments)
  let completion := runProgram arguments (← surroundings) fun _ => content
  (← IO.getStderr).putStr (String.ofList completion.errors)
  (← IO.getStdout).write completion.output.toByteArray
  return completion.exitCode.toUInt32
