import Bcpl.Text.Basic

/-!
Output to a place that may take only a limited number of bytes. What does not fit is cut off, and
nothing is written behind the cut.
-/

namespace Bcpl

structure Output where
  written : List UInt8
  /-- Whether everything was written. -/
  complete : Bool
deriving DecidableEq, Repr

namespace Output

def after (bytes : List UInt8) (output : Output) : Output :=
  { output with written := bytes ++ output.written }

/-- Write texts one after the other to a place with room for `room` bytes, or with room for all. -/
def write (room : Option Nat) : List Text → Output
  | [] => ⟨[], true⟩
  | text :: rest =>
      let bytes := text.bytes
      match room with
      | none => (write none rest).after bytes
      | some room =>
          if bytes.length ≤ room then (write (some (room - bytes.length)) rest).after bytes
          else ⟨bytes.take room, false⟩

end Output

end Bcpl
