import Bcpl.Diagnostic.Drawing
import Bcpl.Source.Store

/-!
A session keeps the texts it was given and the messages reported on them, in order.
-/

namespace Bcpl

structure Session where
  sources : Store Source := {}
  reported : List Diagnostic := []

namespace Session

def addSource (session : Session) (source : Source) : Nat × Session :=
  let (number, sources) := session.sources.insert source
  (number, { session with sources })

/-- Keep a message. The answer is whether the session may go on: a warning does not stop it. -/
def report (session : Session) (diagnostic : Diagnostic) : Bool × Session :=
  (diagnostic.severity = .warning, { session with reported := session.reported ++ [diagnostic] })

def draw (session : Session) (diagnostic : Diagnostic) (config : Config) (color : Bool) :
    Except Fault Text :=
  diagnostic.draw config session.sources.get? color

end Session

end Bcpl
