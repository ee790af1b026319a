import Household.Condition.Expr

/-! # From tokens to trees

Precedence from weak to strong: `or`, `and`, `not`, one comparison or membership test, and single
values. `not` and parentheses nest at most 64 deep: a reader for one level is built from the reader
for the level below it.
-/

set_option autoImplicit false

namespace Household.Condition

open Household.Text

abbrev Parser := List Token → Except Fault (Expr × List Token)

def malformed {α : Type} (fault : GrammarFault) : Except Fault α := .error (.grammar fault)

def folded (name : String) : String := String.ofList (name.toList.map asciiLower)

/-- Further operands after the same connective, added to the tree from the left. Every round takes
a token, which `fuel` counts. -/
def chainFrom (mark : Token) (build : Expr → Expr → Expr) (operand : Parser) :
    Nat → Expr → Parser
  | 0, left, tokens => .ok (left, tokens)
  | fuel + 1, left, tokens =>
    match tokens with
    | t :: rest =>
      if t = mark then
        match operand rest with
        | .error fault => .error fault
        | .ok (right, rest) => chainFrom mark build operand fuel (build left right) rest
      else .ok (left, tokens)
    | [] => .ok (left, tokens)

def chain (mark : Token) (build : Expr → Expr → Expr) (operand : Parser) : Parser := fun tokens =>
  match operand tokens with
  | .error fault => .error fault
  | .ok (left, rest) => chainFrom mark build operand rest.length left rest

def disjunction (operand : Parser) : Parser := chain .or .or (chain .and .and operand)

/-- The strings of a call up to its closing parenthesis. Identifiers count as strings, and commas
after the first string are passed over. -/
def readArguments (function : String) : List String → List Token →
    Except Fault (List String × List Token)
  | _, [] => malformed (.badArgument function none)
  | args, t :: rest =>
    match t with
    | .closeParen => .ok (args, rest)
    | .comma =>
      if args.isEmpty then malformed (.badArgument function (some t))
      else readArguments function args rest
    | .str s | .ident s => readArguments function (args ++ [s]) rest
    | _ => malformed (.badArgument function (some t))

def callOf (function : String) (args : List String) : Except Fault Call :=
  let nullary (c : Call) : Except Fault Call :=
    if args.isEmpty then .ok c else .error (.arity function 0 args.length)
  match folded function with
  | "is_weekday" => nullary .isWeekday
  | "is_weekend" => nullary .isWeekend
  | "is_daytime" => nullary .isDaytime
  | "is_work_hours" => nullary .isWorkHours
  | "occupants" => nullary .occupants
  | "state" =>
    match args with
    | [key] => .ok (.state key)
    | _ => .error (.arity function 1 args.length)
  | _ => .error (.unknownFunction function)

def readCall (function : String) (tokens : List Token) : Except Fault (Expr × List Token) :=
  match readArguments function [] tokens with
  | .error fault => .error fault
  | .ok (args, rest) => (callOf function args).map fun c => (.call c, rest)

def variableOf (name : String) : Except Fault Variable :=
  match folded name with
  | "hour" => .ok .hour
  | "minute" => .ok .minute
  | "weekday" | "day" => .ok .weekday
  | _ => .error (.unknownIdentifier name)

/-- A single value. `inner` reads what stands in parentheses, if they are still allowed. -/
def primary (inner : Option Parser) : Parser := fun tokens =>
  match tokens with
  | .openParen :: rest =>
    match inner with
    | none => malformed .tooDeep
    | some inner =>
      match inner rest with
      | .error fault => .error fault
      | .ok (e, .closeParen :: rest) => .ok (e, rest)
      | .ok (_, _) => malformed .unclosed
  | .yes :: rest => .ok (.bool true, rest)
  | .no :: rest => .ok (.bool false, rest)
  | .num x :: rest => .ok (.num x, rest)
  | .str s :: rest => .ok (.str s, rest)
  | .ident name :: .openParen :: rest => readCall name rest
  | .ident name :: rest => (variableOf name).map fun v => (.var v, rest)
  | t :: _ => malformed (.noValue (some t))
  | [] => malformed (.noValue none)

def comparisonOf? : Token → Option Comparison
  | .eq => some .eq
  | .notEq => some .notEq
  | .lt => some .lt
  | .lte => some .lte
  | .gt => some .gt
  | .gte => some .gte
  | _ => none

inductive Relation where
  | compare (op : Comparison)
  | within (negated : Bool)
  deriving DecidableEq, Repr

def Relation.build (r : Relation) (a b : Expr) : Expr :=
  match r with
  | .compare op => .compare a op b
  | .within negated => .within a b negated

def relation? : List Token → Option (Relation × List Token)
  | .within :: rest => some (.within false, rest)
  | .not :: .within :: rest => some (.within true, rest)
  | t :: rest => (comparisonOf? t).map fun op => (.compare op, rest)
  | [] => none

def comparison (value : Parser) : Parser := fun tokens =>
  match value tokens with
  | .error fault => .error fault
  | .ok (left, rest) =>
    match relation? rest with
    | none => .ok (left, rest)
    | some (r, rest) => (value rest).map fun (right, rest) => (r.build left right, rest)

def unary (below : Option Parser) : Parser := fun tokens =>
  match tokens with
  | .not :: rest =>
    match below with
    | none => malformed .tooDeep
    | some below => (below rest).map fun (e, rest) => (.not e, rest)
  | _ => comparison (primary (below.map disjunction)) tokens

/-- The reader of negations and comparisons with `room` levels below it. -/
def unaryAt : Nat → Parser
  | 0 => unary none
  | room + 1 => unary (some (unaryAt room))

def exprAt (room : Nat) : Parser := disjunction (unaryAt room)

def ofTokens (ts : List Token) : Except Fault Expr :=
  if maxTokens < ts.length then malformed (.tooLong ts.length)
  else
    match exprAt maxDepth ts with
    | .error fault => .error fault
    | .ok (e, []) => .ok e
    | .ok (_, rest) => malformed (.trailing rest)

/-- The tree of a condition. An empty condition is true. -/
def parse (source : String) : Except Fault Expr :=
  match trim source.toList with
  | [] => .ok (.bool true)
  | text =>
    match tokens text with
    | .error fault => malformed (.lexical fault)
    | .ok ts => ofTokens ts

end Household.Condition
