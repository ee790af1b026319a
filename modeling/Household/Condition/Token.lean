import Household.Decimal.Reading
import Household.Decimal.Written
import Household.Text.Quoted
import Household.Text.Space

/-! # Tokens of conditions

Words, strings, numbers and marks of the language in which conditions are written. Keywords are
recognised in any ASCII case.
-/

set_option autoImplicit false

namespace Household.Condition

open Household.Text

inductive Token where
  | ident (name : String)
  | str (s : String)
  | num (x : Float)
  | yes
  | no
  | and
  | or
  | not
  | within
  | eq
  | notEq
  | lt
  | lte
  | gt
  | gte
  | openParen
  | closeParen
  | comma
  deriving DecidableEq

namespace Token

def shown : Token → String
  | ident name => "Ident(" ++ quoted name ++ ")"
  | str s => "Str(" ++ quoted s ++ ")"
  | num x => "Num(" ++ Decimal.write .quoted x ++ ")"
  | yes => "True"
  | no => "False"
  | and => "And"
  | or => "Or"
  | not => "Not"
  | within => "In"
  | eq => "Eq"
  | notEq => "NotEq"
  | lt => "Lt"
  | lte => "Lte"
  | gt => "Gt"
  | gte => "Gte"
  | openParen => "LParen"
  | closeParen => "RParen"
  | comma => "Comma"

def shownOption : Option Token → String
  | none => "None"
  | some t => "Some(" ++ t.shown ++ ")"

def shownList (ts : List Token) : String := "[" ++ ", ".intercalate (ts.map shown) ++ "]"

def ofWord (word : List Char) : Token :=
  let name := String.ofList (word.map asciiLower)
  if name = "and" then and
  else if name = "or" then or
  else if name = "not" then not
  else if name = "in" then within
  else if name = "true" then yes
  else if name = "false" then no
  else ident (String.ofList word)

end Token

inductive LexFault where
  | openString
  | loneAmpersand
  | loneBar
  | badNumber (text : String)
  | badCharacter (c : Char)
  deriving DecidableEq, Repr

def LexFault.message : LexFault → String
  | openString => "unterminated string literal"
  | loneAmpersand => "expected '&&'"
  | loneBar => "expected '||'"
  | badNumber text => s!"invalid number: {text}"
  | badCharacter c => "unexpected character: " ++ String.ofList [c]

def isTokenGap (c : Char) : Bool := c = ' ' || c = '\t' || c = '\n' || c = '\r'

def startsNumber (c : Char) : Bool := isDigit c || c = '-'

def continuesNumber (c : Char) : Bool := isDigit c || c = '.'

def startsWord (c : Char) : Bool := isLetter c || c = '_'

def continuesWord (c : Char) : Bool := isLetter c || isNumber c || c = '_'

/-- The content of a string up to its closing quote, and the rest. A backslash stands before a
character that is taken as it is. -/
def readQuoted (quote : Char) : List Char → Option (List Char × List Char)
  | [] => none
  | '\\' :: c :: rest => (readQuoted quote rest).map fun (content, rest) => (c :: content, rest)
  | c :: rest =>
    if c = '\\' then none
    else if c = quote then some ([], rest)
    else (readQuoted quote rest).map fun (content, rest) => (c :: content, rest)

def withEquals (long short : Token) : List Char → Token × List Char
  | '=' :: rest => (long, rest)
  | rest => (short, rest)

def readToken (c : Char) (rest : List Char) : Except LexFault (Token × List Char) :=
  match c with
  | '(' => .ok (.openParen, rest)
  | ')' => .ok (.closeParen, rest)
  | ',' => .ok (.comma, rest)
  | '>' => .ok (withEquals .gte .gt rest)
  | '<' => .ok (withEquals .lte .lt rest)
  | '=' => .ok (withEquals .eq .eq rest)
  | '!' => .ok (withEquals .notEq .not rest)
  | '&' =>
    match rest with
    | '&' :: rest => .ok (.and, rest)
    | _ => .error .loneAmpersand
  | '|' =>
    match rest with
    | '|' :: rest => .ok (.or, rest)
    | _ => .error .loneBar
  | c =>
    if c = '"' ∨ c = '\'' then
      match readQuoted c rest with
      | some (content, rest) => .ok (.str (String.ofList content), rest)
      | none => .error .openString
    else if startsNumber c then
      let text := c :: rest.takeWhile continuesNumber
      match Decimal.read? text with
      | some x => .ok (.num x, rest.dropWhile continuesNumber)
      | none => .error (.badNumber (String.ofList text))
    else if startsWord c then
      .ok (Token.ofWord (c :: rest.takeWhile continuesWord), rest.dropWhile continuesWord)
    else .error (.badCharacter c)

/-- Every step takes at least one character, which `fuel` counts. -/
def tokensFrom : Nat → List Char → Except LexFault (List Token)
  | _, [] => .ok []
  | 0, _ :: _ => .ok []
  | fuel + 1, c :: rest =>
    if isTokenGap c then tokensFrom fuel rest
    else
      match readToken c rest with
      | .error fault => .error fault
      | .ok (token, rest) => (tokensFrom fuel rest).map (token :: ·)

def tokens (s : List Char) : Except LexFault (List Token) := tokensFrom s.length s

theorem length_withEquals_le (long short : Token) (s : List Char) :
    (withEquals long short s).2.length ≤ s.length := by
  unfold withEquals
  split <;> simp

theorem length_readQuoted_lt {quote : Char} {s content rest : List Char}
    (h : readQuoted quote s = some (content, rest)) : rest.length < s.length := by
  fun_induction readQuoted quote s generalizing content rest with
  | case1 => simp at h
  | case2 c s ih =>
    simp only [Option.map_eq_some_iff, Prod.exists, Prod.mk.injEq] at h
    obtain ⟨content', rest', h, _, rfl⟩ := h
    have := ih h
    simp only [List.length_cons]
    omega
  | case3 => simp at h
  | case4 =>
    simp only [Option.some.injEq, Prod.mk.injEq] at h
    simp [← h.2]
  | case5 c s _ _ _ ih =>
    simp only [Option.map_eq_some_iff, Prod.exists, Prod.mk.injEq] at h
    obtain ⟨content', rest', h, _, rfl⟩ := h
    have := ih h
    simp only [List.length_cons]
    omega

theorem length_dropWhile_le (p : Char → Bool) (s : List Char) :
    (s.dropWhile p).length ≤ s.length := (List.dropWhile_sublist p).length_le

end Household.Condition
