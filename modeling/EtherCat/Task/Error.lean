import EtherCat.Interface.Command

/-!
# Errors of tasks
-/

namespace EtherCat

/-- The working counter that was expected, and the one that came. -/
structure UnexpectedWkc where
  expected : UInt16
  recieved : UInt16
  deriving DecidableEq, Repr

/-- The errors of every task, and those of one kind of task. -/
inductive TaskError (E : Type)
  | unexpectedCommand
  | unexpectedWkc (wkc : UnexpectedWkc)
  | interface (error : PhyError)
  | taskSpecific (error : E)
  | timeout
  deriving DecidableEq, Repr

end EtherCat
