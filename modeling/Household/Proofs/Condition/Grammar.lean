import Household.Condition.Parser

/-! # The grammar of conditions

How conditions derive lists of tokens, apart from any way of reading them. A derivation keeps what
the tree of a condition forgets: redundant parentheses, the case of names and the commas of calls.
-/

set_option autoImplicit false

namespace Household.Condition

/-! ### Marks and names -/

inductive Connective where
  | and
  | or
  deriving DecidableEq

namespace Connective

def token : Connective → Token
  | and => .and
  | or => .or

def build : Connective → Expr → Expr → Expr
  | and => .and
  | or => .or

end Connective

def Comparison.token : Comparison → Token
  | eq => .eq
  | notEq => .notEq
  | lt => .lt
  | lte => .lte
  | gt => .gt
  | gte => .gte

def Relation.tokens : Relation → List Token
  | compare op => [op.token]
  | within false => [.within]
  | within true => [.not, .within]

/-- The folded names of a variable. -/
def Variable.names : Variable → List String
  | hour => ["hour"]
  | minute => ["minute"]
  | weekday => ["weekday", "day"]

/-- The folded name of a question. -/
def Call.name : Call → String
  | isWeekday => "is_weekday"
  | isWeekend => "is_weekend"
  | isDaytime => "is_daytime"
  | isWorkHours => "is_work_hours"
  | occupants => "occupants"
  | state _ => "state"

/-- What may stand between the parentheses of a question. -/
def Call.Takes : Call → List Token → Prop
  | state key, given => ∃ commas : Nat,
      given = .str key :: List.replicate commas .comma ∨
      given = .ident key :: List.replicate commas .comma
  | _, given => given = []

/-! ### Derivations -/

/-- What is derived without another derivation inside. -/
inductive Atom where
  | bool (b : Bool)
  | num (x : Float)
  | str (s : String)
  | var (name : String) (v : Variable) (known : folded name ∈ v.names)
  | call (name : String) (c : Call) (given : List Token) (known : folded name = c.name)
    (taken : c.Takes given)

namespace Atom

def tokens : Atom → List Token
  | bool true => [.yes]
  | bool false => [.no]
  | num x => [.num x]
  | str s => [.str s]
  | var name _ _ => [.ident name]
  | call name _ given _ _ => .ident name :: .openParen :: (given ++ [.closeParen])

def expr : Atom → Expr
  | bool b => .bool b
  | num x => .num x
  | str s => .str s
  | var _ v _ => .var v
  | call _ c _ _ _ => .call c

end Atom

/-- The symbols of the grammar. -/
inductive Rank where
  | primary
  | comparison
  | unary
  | chain (c : Connective)

/-- What a connective joins. -/
def Connective.operand : Connective → Rank
  | and => .unary
  | or => .chain .and

mutual

inductive Derivation : Rank → Type where
  | atom (a : Atom) : Derivation .primary
  | parens (inner : Derivation (.chain .or)) : Derivation .primary
  | single (a : Derivation .primary) : Derivation .comparison
  | relate (a : Derivation .primary) (r : Relation) (b : Derivation .primary) :
      Derivation .comparison
  | not (inner : Derivation .unary) : Derivation .unary
  | plain (inner : Derivation .comparison) : Derivation .unary
  | chain {c : Connective} (first : Derivation c.operand) (more : Tail c) : Derivation (.chain c)

/-- Any number of operands, each after its connective. -/
inductive Tail : Connective → Type where
  | nil {c : Connective} : Tail c
  | cons {c : Connective} (next : Derivation c.operand) (more : Tail c) : Tail c

end

mutual

def Derivation.tokens {r : Rank} : Derivation r → List Token
  | .atom a => a.tokens
  | .parens inner => .openParen :: (inner.tokens ++ [.closeParen])
  | .single a => a.tokens
  | .relate a r b => a.tokens ++ (r.tokens ++ b.tokens)
  | .not inner => .not :: inner.tokens
  | .plain inner => inner.tokens
  | .chain first more => first.tokens ++ more.tokens

def Tail.tokens {c : Connective} : Tail c → List Token
  | .nil => []
  | .cons next more => c.token :: (next.tokens ++ more.tokens)

end

mutual

def Derivation.expr {r : Rank} : Derivation r → Expr
  | .atom a => a.expr
  | .parens inner => inner.expr
  | .single a => a.expr
  | .relate a r b => r.build a.expr b.expr
  | .not inner => .not inner.expr
  | .plain inner => inner.expr
  | .chain first more => more.expr first.expr

/-- The tree that stands to the left takes in the operands one by one. -/
def Tail.expr {c : Connective} : Tail c → Expr → Expr
  | .nil, left => left
  | .cons next more, left => more.expr (c.build left next.expr)

end

mutual

/-- The largest number of negations and parentheses around one primary. -/
def Derivation.depth {r : Rank} : Derivation r → Nat
  | .atom _ => 0
  | .parens inner => inner.depth + 1
  | .single a => a.depth
  | .relate a _ b => max a.depth b.depth
  | .not inner => inner.depth + 1
  | .plain inner => inner.depth
  | .chain first more => max first.depth more.depth

def Tail.depth {c : Connective} : Tail c → Nat
  | .nil => 0
  | .cons next more => max next.depth more.depth

end

/-! ### What may follow -/

/-- The tokens that may stand behind a symbol inside of a condition. -/
def Rank.follow : Rank → List Token
  | .chain .or => [.closeParen]
  | .chain .and => [.closeParen, .or]
  | .unary | .comparison => [.closeParen, .or, .and]
  | .primary => [.closeParen, .or, .and, .not, .within, .eq, .notEq, .lt, .lte, .gt, .gte]

/-- The list is empty or starts with a token that may follow. -/
def Rank.EndsAt (r : Rank) (rest : List Token) : Prop := ∀ t ∈ rest.head?, t ∈ r.follow

namespace Rank

theorem endsAt_nil (r : Rank) : r.EndsAt [] := by simp [EndsAt]

@[simp]
theorem endsAt_cons {r : Rank} {t : Token} {rest : List Token} :
    r.EndsAt (t :: rest) ↔ t ∈ r.follow := by
  simp [EndsAt]

theorem EndsAt.mono {r s : Rank} {rest : List Token} (h : r.EndsAt rest)
    (hSub : r.follow ⊆ s.follow) : s.EndsAt rest := fun t ht => hSub (h t ht)

theorem follow_chain_subset (c : Connective) : (Rank.chain c).follow ⊆ c.operand.follow := by
  cases c <;> simp [follow, Connective.operand]

theorem token_mem_follow (c : Connective) : c.token ∈ c.operand.follow := by
  cases c <;> simp [follow, Connective.operand, Connective.token]

theorem token_notMem_follow (c : Connective) : c.token ∉ (Rank.chain c).follow := by
  cases c <;> simp [follow, Connective.token]

theorem EndsAt.operand {c : Connective} {rest : List Token} (h : (Rank.chain c).EndsAt rest) :
    c.operand.EndsAt rest := h.mono (follow_chain_subset c)

theorem EndsAt.tail {c : Connective} {rest : List Token} (h : (Rank.chain c).EndsAt rest)
    (more : Tail c) : c.operand.EndsAt (more.tokens ++ rest) := by
  cases more with
  | nil => simpa [Tail.tokens] using h.operand
  | cons next more => simp [Tail.tokens, token_mem_follow]

theorem EndsAt.primary {rest : List Token} (h : Rank.comparison.EndsAt rest) :
    Rank.primary.EndsAt rest := h.mono (by simp [follow])

theorem endsAt_relation (r : Relation) (rest : List Token) :
    Rank.primary.EndsAt (r.tokens ++ rest) := by
  rcases r with (_ | _ | _ | _ | _ | _) | (_ | _) <;>
    simp [Relation.tokens, Comparison.token, follow]

end Rank

/-! ### One derivation for one list of tokens -/

/-- Lists of arguments have no closing parenthesis. -/
theorem Call.Takes.ne_closeParen {c : Call} {given : List Token} (h : c.Takes given) :
    .closeParen ∉ given := by
  cases c with
  | state key =>
    obtain ⟨commas, rfl | rfl⟩ := h <;> simp
  | _ => simp [show given = [] from h]

theorem Variable.eq_of_mem_names {v v' : Variable} {name : String} (h : name ∈ v.names)
    (h' : name ∈ v'.names) : v = v' := by
  cases v <;> cases v' <;> grind [names]

theorem Call.eq_of_takes {c c' : Call} {given : List Token} (hName : c.name = c'.name)
    (h : c.Takes given) (h' : c'.Takes given) : c = c' := by
  cases c with
  | state key =>
    cases c' with
    | state key' =>
      obtain ⟨_, rfl | rfl⟩ := h <;> obtain ⟨_, h' | h'⟩ := h' <;>
        simp_all only [List.cons.injEq, Token.str.injEq, Token.ident.injEq, reduceCtorEq,
          false_and]
    | _ => simp [name] at hName
  | _ => cases c' <;> first | rfl | simp [name] at hName

theorem eq_of_append_cons {α : Type} {x : α} {s s' rest rest' : List α} (hx : x ∉ s)
    (hx' : x ∉ s') (h : s ++ x :: rest = s' ++ x :: rest') : s = s' ∧ rest = rest' := by
  induction s generalizing s' with
  | nil =>
    cases s' with
    | nil => exact ⟨rfl, (List.cons.inj h).2⟩
    | cons y' s' => exact absurd ((List.cons.inj h).1 ▸ List.mem_cons_self) hx'
  | cons y s ih =>
    cases s' with
    | nil => exact absurd ((List.cons.inj h).1 ▸ List.mem_cons_self) hx
    | cons y' s' =>
      obtain ⟨rfl, hTail⟩ := List.cons.inj h
      obtain ⟨rfl, rfl⟩ := ih (List.not_mem_of_not_mem_cons hx)
        (List.not_mem_of_not_mem_cons hx') hTail
      exact ⟨rfl, rfl⟩

theorem Rank.not_endsAt_openParen (rest : List Token) :
    ¬ Rank.primary.EndsAt (.openParen :: rest) := by
  simp [follow]

theorem Atom.head_ne_openParen (a : Atom) (rest : List Token) :
    (a.tokens ++ rest).head? ≠ some .openParen := by
  rcases a with (_ | _) | _ | _ | _ | _ <;> simp [tokens]

theorem Atom.unique {a a' : Atom} {rest rest' : List Token} (hEnd : Rank.primary.EndsAt rest)
    (hEnd' : Rank.primary.EndsAt rest') (h : a.tokens ++ rest = a'.tokens ++ rest') :
    a = a' ∧ rest = rest' := by
  rcases a with (_ | _) | x | s | ⟨name, v, known⟩ | ⟨name, c, given, known, taken⟩ <;>
    rcases a' with (_ | _) | x' | s' | ⟨name', v', known'⟩ | ⟨name', c', given', known', taken'⟩ <;>
    simp only [tokens, List.cons_append, List.nil_append, List.append_assoc, List.cons.injEq,
      reduceCtorEq, false_and, true_and, Token.num.injEq, Token.str.injEq, Token.ident.injEq] at h
  · exact ⟨rfl, h⟩
  · exact ⟨rfl, h⟩
  · obtain ⟨rfl, rfl⟩ := h
    exact ⟨rfl, rfl⟩
  · obtain ⟨rfl, rfl⟩ := h
    exact ⟨rfl, rfl⟩
  · obtain ⟨rfl, rfl⟩ := h
    obtain rfl := Variable.eq_of_mem_names known known'
    exact ⟨rfl, rfl⟩
  · obtain ⟨rfl, rfl⟩ := h
    exact absurd hEnd (Rank.not_endsAt_openParen _)
  · obtain ⟨rfl, rfl⟩ := h
    exact absurd hEnd' (Rank.not_endsAt_openParen _)
  · obtain ⟨rfl, h⟩ := h
    obtain ⟨rfl, rfl⟩ := eq_of_append_cons taken.ne_closeParen taken'.ne_closeParen h
    obtain rfl := Call.eq_of_takes (known.symm.trans known') taken taken'
    exact ⟨rfl, rfl⟩

theorem Derivation.head_ne_not (d : Derivation .primary) (rest : List Token) :
    (d.tokens ++ rest).head? ≠ some .not := by
  cases d with
  | atom a => rcases a with (_ | _) | _ | _ | _ | _ <;> simp [Derivation.tokens, Atom.tokens]
  | parens inner => simp [Derivation.tokens]

theorem Derivation.head_comparison_ne_not (d : Derivation .comparison) (rest : List Token) :
    (d.tokens ++ rest).head? ≠ some .not := by
  cases d with
  | single a => simpa [Derivation.tokens] using a.head_ne_not rest
  | relate a r b =>
    simpa [Derivation.tokens] using a.head_ne_not (r.tokens ++ (b.tokens ++ rest))

theorem Rank.not_endsAt_relation (r : Relation) (rest : List Token) :
    ¬ Rank.comparison.EndsAt (r.tokens ++ rest) := by
  rcases r with (_ | _ | _ | _ | _ | _) | (_ | _) <;>
    simp [Relation.tokens, Comparison.token, follow]

theorem Relation.unique {r r' : Relation} {s s' : List Token}
    (h : r.tokens ++ s = r'.tokens ++ s') : r = r' ∧ s = s' := by
  rcases r with (_ | _ | _ | _ | _ | _) | (_ | _) <;>
    rcases r' with (_ | _ | _ | _ | _ | _) | (_ | _) <;>
    simp_all [Relation.tokens, Comparison.token]

mutual

theorem Derivation.unique {r : Rank} (d d' : Derivation r) {rest rest' : List Token}
    (hEnd : r.EndsAt rest) (hEnd' : r.EndsAt rest') (h : d.tokens ++ rest = d'.tokens ++ rest') :
    d = d' ∧ rest = rest' := by
  -- of two derivations that part ways, one ends before a token that may not follow it
  match d, d' with
  | .atom a, .atom a' =>
    obtain ⟨rfl, rfl⟩ := Atom.unique hEnd hEnd' h
    exact ⟨rfl, rfl⟩
  | .atom a, .parens inner =>
    exact absurd (congrArg List.head? h) (a.head_ne_openParen rest)
  | .parens inner, .atom a =>
    exact absurd (congrArg List.head? h.symm) (a.head_ne_openParen rest')
  | .parens inner, .parens inner' =>
    simp only [Derivation.tokens, List.cons_append, List.append_assoc, List.cons.injEq,
      true_and] at h
    obtain ⟨rfl, hRest⟩ :=
      Derivation.unique inner inner' (by simp [Rank.follow]) (by simp [Rank.follow]) h
    exact ⟨rfl, by simpa using hRest⟩
  | .single a, .single a' =>
    obtain ⟨rfl, rfl⟩ := Derivation.unique a a' hEnd.primary hEnd'.primary h
    exact ⟨rfl, rfl⟩
  | .single a, .relate a' r b =>
    simp only [Derivation.tokens, List.append_assoc] at h
    obtain ⟨_, rfl⟩ := Derivation.unique a a' hEnd.primary (Rank.endsAt_relation r _) h
    exact absurd hEnd (Rank.not_endsAt_relation r _)
  | .relate a r b, .single a' =>
    simp only [Derivation.tokens, List.append_assoc] at h
    obtain ⟨_, rfl⟩ := Derivation.unique a a' (Rank.endsAt_relation r _) hEnd'.primary h
    exact absurd hEnd' (Rank.not_endsAt_relation r _)
  | .relate a r b, .relate a' r' b' =>
    simp only [Derivation.tokens, List.append_assoc] at h
    obtain ⟨rfl, hRight⟩ :=
      Derivation.unique a a' (Rank.endsAt_relation r _) (Rank.endsAt_relation r' _) h
    obtain ⟨rfl, hLast⟩ := Relation.unique hRight
    obtain ⟨rfl, rfl⟩ := Derivation.unique b b' hEnd.primary hEnd'.primary hLast
    exact ⟨rfl, rfl⟩
  | .not inner, .not inner' =>
    obtain ⟨rfl, rfl⟩ := Derivation.unique inner inner' hEnd hEnd' (List.cons.inj h).2
    exact ⟨rfl, rfl⟩
  | .not inner, .plain inner' =>
    exact absurd (congrArg List.head? h.symm) (inner'.head_comparison_ne_not rest')
  | .plain inner, .not inner' =>
    exact absurd (congrArg List.head? h) (inner.head_comparison_ne_not rest)
  | .plain inner, .plain inner' =>
    obtain ⟨rfl, rfl⟩ := Derivation.unique inner inner' hEnd hEnd' h
    exact ⟨rfl, rfl⟩
  | .chain first more, .chain first' more' =>
    simp only [Derivation.tokens, List.append_assoc] at h
    obtain ⟨rfl, hMore⟩ := Derivation.unique first first' (hEnd.tail more) (hEnd'.tail more') h
    obtain ⟨rfl, rfl⟩ := Tail.unique more more' hEnd hEnd' hMore
    exact ⟨rfl, rfl⟩

theorem Tail.unique {c : Connective} (more more' : Tail c) {rest rest' : List Token}
    (hEnd : (Rank.chain c).EndsAt rest) (hEnd' : (Rank.chain c).EndsAt rest')
    (h : more.tokens ++ rest = more'.tokens ++ rest') : more = more' ∧ rest = rest' := by
  match more, more' with
  | .nil, .nil => exact ⟨rfl, h⟩
  | .nil, .cons next more =>
    simp only [Tail.tokens, List.nil_append, List.cons_append] at h
    exact absurd (Rank.endsAt_cons.mp (h ▸ hEnd)) (Rank.token_notMem_follow c)
  | .cons next more, .nil =>
    simp only [Tail.tokens, List.nil_append, List.cons_append] at h
    exact absurd (Rank.endsAt_cons.mp (h ▸ hEnd')) (Rank.token_notMem_follow c)
  | .cons next more, .cons next' more' =>
    simp only [Tail.tokens, List.cons_append, List.append_assoc, List.cons.injEq, true_and] at h
    obtain ⟨rfl, hMore⟩ := Derivation.unique next next' (hEnd.tail more) (hEnd'.tail more') h
    obtain ⟨rfl, rfl⟩ := Tail.unique more more' hEnd hEnd' hMore
    exact ⟨rfl, rfl⟩

end

end Household.Condition
