import TypeSurvey.Survey.BindingReport
import TypeSurvey.Survey.FinalReport
import TypeSurvey.Survey.ScriptReport
import TypeSurvey.Task.Session

/-!
# Outcomes of programs

A program works on a folder. It leaves the folder changed, has written its output, and has come to
its end, has left with a code, or was stopped by a fault.
-/

namespace TypeSurvey.Program

/-- The faults that stop a program. -/
inductive Fault
  | path (fault : PathFault)
  | read (fault : ReadFault)
  | source (fault : Source.Fault)
  | session (fault : Task.SessionFault)
  | final (fault : Survey.FinalFault)
  | value (fault : TypeSurvey.Fault)
  /-- A pattern has a bracket that is not closed. -/
  | openBracket
  /-- A script is stopped by an exception of a class that is no failure. -/
  | stopped (className message : Text)

namespace Fault

def message : Fault → Text
  | path fault => fault.message
  | read fault => fault.message
  | source fault => fault.message
  | session fault => fault.message
  | final fault => fault.message
  | value fault => fault.message
  | openBracket => "unterminated character set at position 0".toList
  | stopped _ message => message

/-- The name of the class of exceptions that a fault belongs to. -/
def className : Fault → Text
  | path fault => fault.className
  | read fault => fault.className
  | source fault => fault.className
  | session fault => fault.className
  | final fault => fault.className
  | value fault => fault.className
  | openBracket => "error".toList
  | stopped className _ => className

def ofBinding : Survey.BindingFault → Fault
  | .read fault => .read fault
  | .source fault => .source fault
  | .write fault => .path fault

end Fault

/-- How a program ends. -/
inductive Ending
  | finished
  | exited (code : Value)
  | failed (fault : Fault)

/-- What a program leaves. -/
structure Outcome where
  folder : Folder
  output : Text
  ending : Ending

end TypeSurvey.Program
