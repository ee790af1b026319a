import Household.Proofs.Condition.Parsing
import Household.Proofs.Condition.Spacing

/-! # Conditions written out

The ways to write a tree down as a condition, and that the tree is read back from each of them.
-/

set_option autoImplicit false

namespace Household.Condition

open Household.Text

def Expr.numbers : Expr → List Float
  | num x => [x]
  | not e => e.numbers
  | and a b | or a b | compare a _ b | within a b _ => a.numbers ++ b.numbers
  | _ => []

/-- The tokens of a tree with at most `room` levels of negations and parentheses. A closed list can
be an operand: it is a literal, a variable, a call, or stands in parentheses. -/
inductive Renders : Bool → Nat → Expr → List Token → Prop
  | bool {room : Nat} (b : Bool) : Renders true room (.bool b) [if b then .yes else .no]
  | num {room : Nat} (x : Float) : Renders true room (.num x) [.num x]
  | str {room : Nat} (s : String) : Renders true room (.str s) [.str s]
  | var {room : Nat} {name : String} {v : Variable} (h : folded name ∈ v.names) :
      Renders true room (.var v) [.ident name]
  | call {room : Nat} {name : String} {c : Call} (h : folded name = c.name) :
      Renders true room (.call c)
        (.ident name :: .openParen :: (c.arguments.map .str ++ [.closeParen]))
  | parens {closed : Bool} {room : Nat} {e : Expr} {ts : List Token}
      (h : Renders closed room e ts) :
      Renders true (room + 1) e (.openParen :: (ts ++ [.closeParen]))
  | not {room : Nat} {e : Expr} {ts : List Token} (h : Renders true room e ts) :
      Renders false (room + 1) (.not e) (.not :: ts)
  | join {room : Nat} {a b : Expr} {s t : List Token} (c : Connective)
      (ha : Renders true room a s) (hb : Renders true room b t) :
      Renders false room (c.build a b) (s ++ c.token :: t)
  | relate {room : Nat} {a b : Expr} {s t : List Token} (r : Relation)
      (ha : Renders true room a s) (hb : Renders true room b t) :
      Renders false room (r.build a b) (s ++ (r.tokens ++ t))

/-! ### Written trees are derived -/

def Derives (r : Rank) (room : Nat) (e : Expr) (ts : List Token) : Prop :=
  ∃ d : Derivation r, d.tokens = ts ∧ d.expr = e ∧ d.depth ≤ room

namespace Derives

variable {c : Connective} {room : Nat} {a b e : Expr} {s t ts : List Token}

theorem of_atom (a : Atom) : Derives .primary room a.expr a.tokens :=
  ⟨.atom a, rfl, rfl, Nat.zero_le room⟩

theorem parens (h : Derives (.chain .or) room e ts) :
    Derives .primary (room + 1) e (.openParen :: (ts ++ [.closeParen])) := by
  obtain ⟨d, rfl, rfl, hDepth⟩ := h
  exact ⟨.parens d, rfl, rfl, Nat.succ_le_succ hDepth⟩

theorem relate (r : Relation) (ha : Derives .primary room a s) (hb : Derives .primary room b t) :
    Derives .comparison room (r.build a b) (s ++ (r.tokens ++ t)) := by
  obtain ⟨d, rfl, rfl, hDepth⟩ := ha
  obtain ⟨d', rfl, rfl, hDepth'⟩ := hb
  exact ⟨.relate d r d', rfl, rfl, Nat.max_le.mpr ⟨hDepth, hDepth'⟩⟩

theorem single (h : Derives .primary room e ts) : Derives .comparison room e ts := by
  obtain ⟨d, rfl, rfl, hDepth⟩ := h
  exact ⟨.single d, rfl, rfl, hDepth⟩

theorem not (h : Derives .unary room e ts) : Derives .unary (room + 1) (.not e) (.not :: ts) := by
  obtain ⟨d, rfl, rfl, hDepth⟩ := h
  exact ⟨.not d, rfl, rfl, Nat.succ_le_succ hDepth⟩

theorem plain (h : Derives .comparison room e ts) : Derives .unary room e ts := by
  obtain ⟨d, rfl, rfl, hDepth⟩ := h
  exact ⟨.plain d, rfl, rfl, hDepth⟩

theorem chain (h : Derives c.operand room e ts) : Derives (.chain c) room e ts := by
  obtain ⟨d, rfl, rfl, hDepth⟩ := h
  exact ⟨.chain d .nil, List.append_nil _, rfl, Nat.max_le.mpr ⟨hDepth, Nat.zero_le room⟩⟩

theorem join (ha : Derives c.operand room a s) (hb : Derives c.operand room b t) :
    Derives (.chain c) room (c.build a b) (s ++ c.token :: t) := by
  obtain ⟨d, rfl, rfl, hDepth⟩ := ha
  obtain ⟨d', rfl, rfl, hDepth'⟩ := hb
  refine ⟨.chain d (.cons d' .nil), ?_, rfl, ?_⟩
  · simp [Derivation.tokens, Tail.tokens]
  · exact Nat.max_le.mpr ⟨hDepth, Nat.max_le.mpr ⟨hDepth', Nat.zero_le room⟩⟩

theorem whole (h : Derives .unary room e ts) : Derives (.chain .or) room e ts :=
  chain (c := .or) (chain (c := .and) h)

theorem operand (h : Derives .unary room e ts) : Derives c.operand room e ts := by
  cases c with
  | and => exact h
  | or => exact chain (c := .and) h

end Derives

theorem Call.takes_arguments (c : Call) : c.Takes (c.arguments.map .str) := by
  cases c with
  | state key => exact ⟨0, .inl rfl⟩
  | _ => rfl

theorem Renders.derives {closed : Bool} {room : Nat} {e : Expr} {ts : List Token}
    (h : Renders closed room e ts) :
    (closed = true → Derives .primary room e ts) ∧ Derives (.chain .or) room e ts := by
  have hClosed {closed : Bool} {room : Nat} {e : Expr} {ts : List Token}
      (h : Derives .primary room e ts) :
      (closed = true → Derives .primary room e ts) ∧ Derives (.chain .or) room e ts :=
    ⟨fun _ => h, h.single.plain.whole⟩
  -- operands are closed, so they are primaries wherever they stand
  induction h with
  | bool b => cases b <;> exact hClosed (.of_atom (.bool _))
  | num x => exact hClosed (.of_atom (.num x))
  | str s => exact hClosed (.of_atom (.str s))
  | var h => exact hClosed (.of_atom (.var _ _ h))
  | @call _ name c h => exact hClosed (.of_atom (.call name c _ h c.takes_arguments))
  | parens _ ih => exact hClosed ih.2.parens
  | not _ ih => exact ⟨nofun, (ih.1 rfl).single.plain.not.whole⟩
  | join c _ _ iha ihb =>
    have hJoin := Derives.join (c := c) (iha.1 rfl).single.plain.operand
      (ihb.1 rfl).single.plain.operand
    refine ⟨nofun, ?_⟩
    cases c with
    | and => exact hJoin.chain (c := .or)
    | or => exact hJoin
  | relate r _ _ iha ihb => exact ⟨nofun, ((iha.1 rfl).relate r (ihb.1 rfl)).plain.whole⟩

/-! ### Written trees have readable tokens -/

/-- A variable or question keeps its name in any case, and none is a keyword. -/
theorem isName_of_folded {name known : String} (h : folded name = known)
    (hKnown : known.toList ≠ [] ∧ known.toList.all isNameChar = true ∧
      ∀ k ∈ keywords, k.1 ≠ known) : IsName name.toList := by
  subst h
  rw [folded, String.toList_ofList] at hKnown
  obtain ⟨hNonempty, hChars, hKeyword⟩ := hKnown
  refine ⟨fun hNil => hNonempty (by rw [hNil]; rfl), hChars, fun t ht => hKeyword _ ht rfl⟩

theorem Variable.isName {name : String} {v : Variable} (h : folded name ∈ v.names) :
    IsName name.toList := by
  have hAll : ∀ known ∈ v.names, known.toList ≠ [] ∧ known.toList.all isNameChar = true ∧
      ∀ k ∈ keywords, k.1 ≠ known := by
    cases v <;> decide
  exact isName_of_folded rfl (hAll _ h)

theorem Call.isName {name : String} {c : Call} (h : folded name = c.name) :
    IsName name.toList := by
  have hState : "state".toList ≠ [] ∧ "state".toList.all isNameChar = true ∧
      ∀ k ∈ keywords, k.1 ≠ "state" := by decide
  refine isName_of_folded h ?_
  cases c with
  | state key => exact hState
  | _ => decide

theorem Relation.isLexeme (r : Relation) : ∀ t ∈ r.tokens, t.IsLexeme := by
  rcases r with (_ | _ | _ | _ | _ | _) | (_ | _) <;>
    simp [tokens, Comparison.token, Token.IsLexeme]

theorem Expr.numbers_build (c : Connective) (a b : Expr) :
    (c.build a b).numbers = a.numbers ++ b.numbers := by
  cases c <;> rfl

theorem Expr.numbers_relate (r : Relation) (a b : Expr) :
    (r.build a b).numbers = a.numbers ++ b.numbers := by
  cases r <;> rfl

theorem Renders.isLexeme {closed : Bool} {room : Nat} {e : Expr} {ts : List Token}
    (h : Renders closed room e ts) (hNumbers : ∀ x ∈ e.numbers, (Token.num x).IsLexeme) :
    ∀ t ∈ ts, t.IsLexeme := by
  induction h with
  | bool b => cases b <;> simp [Token.IsLexeme]
  | num x => simpa [Expr.numbers] using hNumbers
  | str s => simp [Token.IsLexeme]
  | var h => simpa [Token.IsLexeme] using Variable.isName h
  | @call _ name c h =>
    have hName := Call.isName h
    cases c <;> simpa [Token.IsLexeme, Call.arguments] using hName
  | parens _ ih =>
    refine List.forall_mem_cons.mpr ⟨trivial, List.forall_mem_append.mpr ⟨ih hNumbers, ?_⟩⟩
    exact List.forall_mem_singleton.mpr trivial
  | not _ ih => exact List.forall_mem_cons.mpr ⟨trivial, ih hNumbers⟩
  | join c _ _ iha ihb =>
    rw [Expr.numbers_build, List.forall_mem_append] at hNumbers
    have hToken : c.token.IsLexeme := by cases c <;> trivial
    exact List.forall_mem_append.mpr
      ⟨iha hNumbers.1, List.forall_mem_cons.mpr ⟨hToken, ihb hNumbers.2⟩⟩
  | relate r _ _ iha ihb =>
    rw [Expr.numbers_relate, List.forall_mem_append] at hNumbers
    exact List.forall_mem_append.mpr
      ⟨iha hNumbers.1, List.forall_mem_append.mpr ⟨r.isLexeme, ihb hNumbers.2⟩⟩

/-- A list of tokens that neither begins with an equality nor ends with an operator, and in which
no two tokens could be taken for one. -/
structure Orderly (ts : List Token) : Prop where
  chain : ts.IsChain Token.Apart
  head : ts.head? ≠ some .eq
  last : ∃ t, ts.getLast? = some t ∧ t.takesEquals = false

namespace Orderly

variable {s t middle : List Token}

theorem singleton {x : Token} (hEq : x ≠ .eq) (hTakes : x.takesEquals = false) : Orderly [x] where
  chain := .singleton x
  head := fun h => hEq (Option.some.inj h)
  last := ⟨x, rfl, hTakes⟩

theorem isChain_append (ht : Orderly t) (hMiddle : middle.IsChain Token.Apart) :
    (middle ++ t).IsChain Token.Apart := by
  refine List.isChain_append.mpr ⟨hMiddle, ht.chain, fun x _ y hy _ => ?_⟩
  rintro rfl
  exact ht.head hy

theorem last_append (s : List Token) (ht : Orderly t) :
    ∃ x, (s ++ t).getLast? = some x ∧ x.takesEquals = false := by
  obtain ⟨x, hLast, hTakes⟩ := ht.last
  exact ⟨x, by rw [List.getLast?_append, hLast, Option.some_or], hTakes⟩

/-- Operators may stand between two lists. -/
theorem append (hs : Orderly s) (hMiddle : middle.IsChain Token.Apart) (ht : Orderly t) :
    Orderly (s ++ (middle ++ t)) where
  chain := by
    refine List.isChain_append.mpr ⟨hs.chain, ht.isChain_append hMiddle, fun x hx y _ hTakes => ?_⟩
    obtain ⟨x', hLast, hTakes'⟩ := hs.last
    obtain rfl := Option.some.inj (hLast.symm.trans hx)
    exact absurd (hTakes.symm.trans hTakes') (by decide)
  head := by
    obtain ⟨x, hLast, -⟩ := hs.last
    rw [List.head?_append_of_ne_nil s (by rintro rfl; cases hLast)]
    exact hs.head
  last := by
    rw [← List.append_assoc]
    exact ht.last_append (s ++ middle)

theorem not (ht : Orderly t) : Orderly (.not :: t) where
  chain := ht.isChain_append (.singleton Token.not)
  head := by simp
  last := ht.last_append [.not]

end Orderly

theorem Relation.isChain (r : Relation) : r.tokens.IsChain Token.Apart := by
  rcases r with (_ | _ | _ | _ | _ | _) | (_ | _) <;> simp [tokens, Token.Apart]

theorem Renders.orderly {closed : Bool} {room : Nat} {e : Expr} {ts : List Token}
    (h : Renders closed room e ts) : Orderly ts := by
  have hOpen : Orderly [.openParen] := .singleton (by simp) rfl
  have hClose : Orderly [.closeParen] := .singleton (by simp) rfl
  induction h with
  | bool b => cases b <;> exact .singleton (by simp) rfl
  | num x => exact .singleton (by simp) rfl
  | str s => exact .singleton (by simp) rfl
  | var h => exact .singleton (by simp) rfl
  | @call _ name c h =>
    have hName : Orderly [.ident name] := .singleton (by simp) rfl
    have hArguments : (Token.openParen :: c.arguments.map .str).IsChain Token.Apart := by
      cases c <;> simp [Call.arguments, Token.Apart, Token.takesEquals]
    exact hName.append hArguments hClose
  | parens _ ih => exact hOpen.append ih.chain hClose
  | not _ ih => exact ih.not
  | join c _ _ iha ihb => exact iha.append (.singleton c.token) ihb
  | relate r _ _ iha ihb => exact iha.append r.isChain ihb

/-! ### Written trees are read back -/

/-- A tree is read back from its text, whichever of its ways it is written in. White space around
the text does no harm. -/
theorem parse_of_renders {closed : Bool} {e : Expr} {ts : List Token} {s : List Char}
    (before after : List Char) (hRenders : Renders closed 64 e ts) (hLength : ts.length ≤ 1024)
    (hText : Spaced ts s)
    (hFinite : ∀ x ∈ e.numbers, Decimal.isFinite x = true)
    (hRead : ∀ x ∈ e.numbers, Decimal.read? (Decimal.write .plain x).toList = some x)
    (hBefore : before.all isSpace = true) (hAfter : after.all isSpace = true) :
    parse (String.ofList (before ++ s ++ after)) = .ok e := by
  have hLex := hRenders.isLexeme fun x hx => ⟨hFinite x hx, hRead x hx⟩
  have hTokens : tokens s = .ok ts :=
    tokensFrom_of_spaced hText hLex hRenders.orderly.chain (Nat.le_refl _)
  have hTree : exprAt maxDepth ts = .ok (e, []) := by
    obtain ⟨d, rfl, rfl, hDepth⟩ := hRenders.derives.2
    simpa using (reads_exprAt maxDepth).complete d [] hDepth (Rank.endsAt_nil _)
  obtain ⟨hNonempty, hFirst⟩ := hText.any_head? hLex
  have hTrim := trim_append hBefore hAfter hNonempty hFirst (hText.any_getLast? hLex)
  obtain ⟨c, rest, rfl⟩ := List.exists_cons_of_ne_nil hNonempty
  simp only [parse, String.toList_ofList, hTrim, hTokens, ofTokens]
  rw [if_neg (show ¬ maxTokens < ts.length from Nat.not_lt.mpr hLength), hTree]

theorem spaced_hour : Spaced
    [.openParen, .ident "Hour", .gte, .num (Decimal.nearest true 25 (-1)), .closeParen, .notEq,
      .str "it's"]
    ['(', 'H', 'o', 'u', 'r', ' ', '>', '=', '-', '2', '.', '5', ')', ' ', '\n', '!', '=', '\'',
      'i', 't', '\\', '\'', 's', '\''] := by
  have hNumber : (Decimal.write .plain (Decimal.nearest true 25 (-1))).toList =
      ['-', '2', '.', '5'] := by decide +kernel
  have hStr : Spaced [.str "it's"] ['\'', 'i', 't', '\\', '\'', 's', '\''] :=
    .single (.str (.inr rfl) (.plain (by decide) (by decide) (.plain (by decide) (by decide)
      (.escape (.plain (by decide) (by decide) .close)))))
  have hNotEq : Spaced [.notEq, .str "it's"] (['!', '='] ++ ([] ++ _)) :=
    .cons (.mark (by decide)) rfl (by decide) hStr
  have hClose : Spaced (.closeParen :: _) ([')'] ++ ([' ', '\n'] ++ _)) :=
    .cons (.mark (by decide)) rfl (by decide) hNotEq
  have hNum : Spaced (.num (Decimal.nearest true 25 (-1)) :: _)
      (['-', '2', '.', '5'] ++ ([] ++ _)) :=
    .cons (hNumber ▸ .num _) rfl (by decide) hClose
  have hGte : Spaced (.gte :: _) (['>', '='] ++ ([] ++ _)) :=
    .cons (.mark (by decide)) rfl (by decide) hNum
  have hHour : Spaced (.ident "Hour" :: _) (['H', 'o', 'u', 'r'] ++ ([' '] ++ _)) :=
    .cons (.ident "Hour") rfl (by decide) hGte
  have hOpen : Spaced (.openParen :: _) (['('] ++ ([] ++ _)) :=
    .cons (.mark (by decide)) rfl (by decide) hHour
  exact hOpen

theorem parse_of_renders_hour :
    parse "\t(Hour >=-2.5) \n!='it\\'s' " =
      .ok (.compare (.compare (.var .hour) .gte (.num (Decimal.nearest true 25 (-1)))) .notEq
        (.str "it's")) := by
  have hHour : Renders true 63 (.var .hour) [.ident "Hour"] := .var (by decide)
  have hRenders := Renders.relate (.compare .notEq)
    (.parens (.relate (.compare .gte) hHour (.num (Decimal.nearest true 25 (-1))))) (.str "it's")
  have hFinite : ∀ x ∈ [Decimal.nearest true 25 (-1)], Decimal.isFinite x = true := by
    decide +kernel
  have hRead : ∀ x ∈ [Decimal.nearest true 25 (-1)],
      Decimal.read? (Decimal.write .plain x).toList = some x := by decide +kernel
  have hParse :=
    parse_of_renders ['\t'] [' '] hRenders (by decide) spaced_hour hFinite hRead rfl rfl
  simpa only [String.reduceOfList, List.cons_append, List.nil_append, Relation.build] using hParse

end Household.Condition
