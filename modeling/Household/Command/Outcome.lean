import Household.Command.Options
import Household.Layer.File

/-! # Outcomes of commands

What a command prints, and why it failed if it did.
-/

set_option autoImplicit false

namespace Household.Command

inductive Failure where
  | load (fault : LoadFault)
  | badOption (fault : BadOption)

def Failure.message : Failure → String
  | load fault => fault.message
  | badOption fault => fault.message

structure Outcome where
  output : String
  failure : Option Failure

def lines (texts : List String) : String := String.join (texts.map (· ++ "\n"))

end Household.Command
