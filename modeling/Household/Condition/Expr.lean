import Household.Condition.Token

/-! # Conditions as trees

The tree of a condition, and what can be wrong with a condition before or while it is evaluated.
-/

set_option autoImplicit false

namespace Household.Condition

inductive Variable where
  | hour
  | minute
  | weekday
  deriving DecidableEq, Repr

/-- The questions that a condition may ask; there are no others. -/
inductive Call where
  | isWeekday
  | isWeekend
  | isDaytime
  | isWorkHours
  | occupants
  | state (key : String)
  deriving DecidableEq, Repr

inductive Comparison where
  | eq
  | notEq
  | lt
  | lte
  | gt
  | gte
  deriving DecidableEq, Repr

inductive Expr where
  | bool (b : Bool)
  | num (x : Float)
  | str (s : String)
  | var (v : Variable)
  | call (c : Call)
  | not (e : Expr)
  | and (a b : Expr)
  | or (a b : Expr)
  | compare (a : Expr) (op : Comparison) (b : Expr)
  | within (needle haystack : Expr) (negated : Bool)
  deriving DecidableEq

namespace Expr

def size : Expr → Nat
  | not e => e.size + 1
  | and a b | or a b | compare a _ b | within a b _ => a.size + b.size + 1
  | _ => 1

theorem size_pos (e : Expr) : 0 < e.size := by cases e <;> simp [size]

end Expr

inductive GrammarFault where
  | lexical (fault : LexFault)
  | tooLong (count : Nat)
  | tooDeep
  | trailing (tokens : List Token)
  | unclosed
  | noValue (found : Option Token)
  | badArgument (function : String) (found : Option Token)
  deriving DecidableEq

def maxTokens : Nat := 1024

def maxDepth : Nat := 64

def GrammarFault.message : GrammarFault → String
  | lexical fault => fault.message
  | tooLong count => s!"expression too long ({count} tokens, limit {maxTokens})"
  | tooDeep => "expression nested too deeply"
  | trailing tokens => "unexpected tokens after expression: " ++ Token.shownList tokens
  | unclosed => "expected closing parenthesis"
  | noValue found => "expected a value, got " ++ Token.shownOption found
  | badArgument function found =>
    s!"expected string argument or ')' in call to {function}, got " ++ Token.shownOption found

inductive KindFault where
  | order (left right : String)
  | memberOf (haystack : String)
  | member (needle : String)
  deriving DecidableEq, Repr

def KindFault.message : KindFault → String
  | order left right => s!"cannot order {left} and {right}"
  | memberOf haystack => s!"cannot test membership in a {haystack}"
  | member needle => s!"cannot test membership of a {needle}"

inductive Fault where
  | grammar (fault : GrammarFault)
  | unknownFunction (name : String)
  | arity (function : String) (expected found : Nat)
  | unknownIdentifier (name : String)
  | kindMismatch (fault : KindFault)
  deriving DecidableEq

def Fault.message : Fault → String
  | grammar fault => "syntax error: " ++ fault.message
  | unknownFunction name => s!"unknown function '{name}'"
  | arity function expected found =>
    s!"function '{function}' takes {expected} argument(s), got {found}"
  | unknownIdentifier name => s!"unknown identifier '{name}'"
  | kindMismatch fault => "type mismatch: " ++ fault.message

end Household.Condition
