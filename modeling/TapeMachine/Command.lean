import TapeMachine.Command.Compile
import TapeMachine.Command.Fill
import TapeMachine.Command.Run

set_option autoImplicit false

namespace TapeMachine

/-- A command. -/
inductive Command
  | run
  | compile
  | fill
  deriving DecidableEq

namespace Command

/-- Carry out a command whose arguments have been read; arguments that are refused end it. -/
def withArguments (u : Usage) (activity : Arguments → Activity Nat) (arguments : List String) :
    Activity Nat :=
  match Arguments.read u arguments with
  | .accepted a => activity a
  | .refused => pure 2
  | .helped => pure 0

/-- Carry out a command; returns the exit status. -/
def perform : Command → List String → Activity Nat
  | .run => withArguments runUsage performRun
  | .compile => withArguments compileUsage performCompile
  | .fill => performFill

end Command

end TapeMachine
