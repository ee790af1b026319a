import Household.Proofs.Condition.Parsing

/-! # How deep reading goes

A reader that knows its depth goes down one level for every negation and every opening parenthesis,
and refuses to do so at the limit. Its runs are described without a bound built into them: there is
a run for every list of tokens, it goes no deeper than the limit allows, and its outcome is that of
the reader with as many levels left.
-/

set_option autoImplicit false

namespace Household.Condition

/-! ## Trees and the tokens they come from -/

@[simp]
theorem Atom.size_expr (a : Atom) : a.expr.size = 1 := by cases a <;> rfl

theorem Atom.length_tokens_pos (a : Atom) : 0 < a.tokens.length := by
  rcases a with (_ | _) | _ | _ | _ | _ <;> simp [tokens]

@[simp]
theorem Relation.size_build (r : Relation) (a b : Expr) :
    (r.build a b).size = a.size + b.size + 1 := by
  cases r <;> rfl

theorem Relation.length_tokens_pos (r : Relation) : 0 < r.tokens.length := by
  rcases r with op | (_ | _) <;> simp [tokens]

@[simp]
theorem Connective.size_build (c : Connective) (a b : Expr) :
    (c.build a b).size = a.size + b.size + 1 := by
  cases c <;> rfl

mutual

/-- A tree has no more nodes than the tokens it comes from. -/
theorem Derivation.size_expr_le {r : Rank} (d : Derivation r) :
    d.expr.size ≤ d.tokens.length := by
  match d with
  | .atom a =>
    rw [Derivation.expr, a.size_expr]
    exact a.length_tokens_pos
  | .parens inner =>
    have hInner := inner.size_expr_le
    simp only [Derivation.expr, Derivation.tokens, List.length_cons, List.length_append]
    omega
  | .single a => exact a.size_expr_le
  | .relate a r b =>
    have hLeft := a.size_expr_le
    have hRight := b.size_expr_le
    have hRelation := r.length_tokens_pos
    simp only [Derivation.expr, Derivation.tokens, r.size_build, List.length_append]
    omega
  | .not inner => exact Nat.succ_le_succ inner.size_expr_le
  | .plain inner => exact inner.size_expr_le
  | .chain first more =>
    have hFirst := first.size_expr_le
    have hMore := more.size_expr_le first.expr
    simp only [Derivation.expr, Derivation.tokens, List.length_append]
    omega

theorem Tail.size_expr_le {c : Connective} (more : Tail c) (left : Expr) :
    (more.expr left).size ≤ left.size + more.tokens.length := by
  match more with
  | .nil => exact Nat.le_refl _
  | .cons next more =>
    have hNext := next.size_expr_le
    have hMore := more.size_expr_le (c.build left next.expr)
    rw [c.size_build] at hMore
    simp only [Tail.expr, Tail.tokens, List.length_cons, List.length_append]
    omega

end

/-- What a reader takes is at least one token, and a token for every node of the tree. -/
theorem Rank.Reads.taken {r : Rank} {room : Nat} {p : Parser} (h : r.Reads room p)
    {ts rest : List Token} {e : Expr} (hRead : p ts = .ok (e, rest)) :
    ∃ taken, taken ++ rest = ts ∧ taken ≠ [] ∧ e.size ≤ taken.length := by
  obtain ⟨d, hTokens, rfl, -⟩ := h.sound hRead
  have hSize := d.size_expr_le
  refine ⟨d.tokens, hTokens, ?_, hSize⟩
  exact List.ne_nil_of_length_pos (Nat.lt_of_lt_of_le d.expr.size_pos hSize)

theorem Rank.Reads.length_lt {r : Rank} {room : Nat} {p : Parser} (h : r.Reads room p)
    {ts rest : List Token} {e : Expr} (hRead : p ts = .ok (e, rest)) :
    rest.length < ts.length := by
  obtain ⟨taken, rfl, hTaken, -⟩ := h.taken hRead
  have hPos := List.length_pos_iff.mpr hTaken
  rw [List.length_append]
  omega

/-! ## Readers by symbol -/

/-- What reads between parentheses, with `room` levels left outside of them. -/
def withinParens : Nat → Option Parser
  | 0 => none
  | room + 1 => some (exprAt room)

def Rank.reader (room : Nat) : Rank → Parser
  | primary => Condition.primary (withinParens room)
  | comparison => Condition.comparison (Condition.primary (withinParens room))
  | unary => unaryAt room
  | chain .and => Condition.chain .and .and (unaryAt room)
  | chain .or => exprAt room

theorem Rank.reads_reader (room : Nat) (r : Rank) : r.Reads room (r.reader room) := by
  have hInner : (Rank.chain .or).ReadsBelow room (withinParens room) := by
    cases room with
    | zero => exact .floor
    | succ room => exact .step (reads_exprAt room)
  match r with
  | primary => exact reads_primary hInner
  | comparison => exact reads_comparison (reads_primary hInner)
  | unary => exact reads_unaryAt room
  | chain .and => exact reads_chain (c := .and) (reads_unaryAt room)
  | chain .or => exact reads_exprAt room

theorem Rank.reader_chain (room : Nat) (c : Connective) :
    (Rank.chain c).reader room = Condition.chain c.token c.build (c.operand.reader room) := by
  cases c <;> rfl

theorem Rank.reader_unary_of_head_ne_not (room : Nat) {ts : List Token}
    (h : ts.head? ≠ some .not) : Rank.unary.reader room ts = Rank.comparison.reader room ts := by
  cases room with
  | zero => exact @unary_of_head_ne_not none ts h
  | succ room => exact @unary_of_head_ne_not (some (unaryAt room)) ts h

theorem primary_of_head_ne_openParen (inner : Option Parser) {ts : List Token}
    (h : ts.head? ≠ some .openParen) : primary inner ts = primary none ts := by
  unfold primary
  split
  · exact absurd rfl h
  all_goals rfl

/-! ## Runs -/

/-- What a run has to do: to read a symbol, or to take further operands of a connective in. -/
inductive Task where
  | read (r : Rank)
  | extend (c : Connective) (left : Expr)

def closing : Except Fault (Expr × List Token) → Except Fault (Expr × List Token)
  | .error fault => .error fault
  | .ok (e, .closeParen :: rest) => .ok (e, rest)
  | .ok (_, _) => malformed .unclosed

/-- A run of a task at a depth, with its outcome and the number of levels it goes down. Only a
negation and a parenthesis go down, and only below the limit. -/
inductive Runs :
    Task → Nat → List Token → Except Fault (Expr × List Token) → Nat → Prop
  | value {depth : Nat} {ts : List Token} (hHead : ts.head? ≠ some .openParen) :
      Runs (.read .primary) depth ts (primary none ts) 0
  | parensTooDeep {depth : Nat} {ts : List Token} (hDeep : maxDepth ≤ depth) :
      Runs (.read .primary) depth (.openParen :: ts) (malformed .tooDeep) 0
  | parens {depth levels : Nat} {ts : List Token} {o : Except Fault (Expr × List Token)}
      (hDepth : depth < maxDepth) (inner : Runs (.read (.chain .or)) (depth + 1) ts o levels) :
      Runs (.read .primary) depth (.openParen :: ts) (closing o) (levels + 1)
  | comparisonFault {depth levels : Nat} {ts : List Token} {fault : Fault}
      (left : Runs (.read .primary) depth ts (.error fault) levels) :
      Runs (.read .comparison) depth ts (.error fault) levels
  | single {depth levels : Nat} {ts rest : List Token} {a : Expr}
      (left : Runs (.read .primary) depth ts (.ok (a, rest)) levels)
      (hAlone : relation? rest = none) :
      Runs (.read .comparison) depth ts (.ok (a, rest)) levels
  | relate {depth levels levels' : Nat} {ts rest after : List Token} {a : Expr} {r : Relation}
      {o : Except Fault (Expr × List Token)}
      (left : Runs (.read .primary) depth ts (.ok (a, rest)) levels)
      (hRelated : relation? rest = some (r, after))
      (right : Runs (.read .primary) depth after o levels') :
      Runs (.read .comparison) depth ts (o.map fun (b, rest) => (r.build a b, rest))
        (max levels levels')
  | notTooDeep {depth : Nat} {ts : List Token} (hDeep : maxDepth ≤ depth) :
      Runs (.read .unary) depth (.not :: ts) (malformed .tooDeep) 0
  | not {depth levels : Nat} {ts : List Token} {o : Except Fault (Expr × List Token)}
      (hDepth : depth < maxDepth) (inner : Runs (.read .unary) (depth + 1) ts o levels) :
      Runs (.read .unary) depth (.not :: ts) (o.map fun (e, rest) => (.not e, rest)) (levels + 1)
  | plain {depth levels : Nat} {ts : List Token} {o : Except Fault (Expr × List Token)}
      (hHead : ts.head? ≠ some .not) (inner : Runs (.read .comparison) depth ts o levels) :
      Runs (.read .unary) depth ts o levels
  | chainFault {c : Connective} {depth levels : Nat} {ts : List Token} {fault : Fault}
      (first : Runs (.read c.operand) depth ts (.error fault) levels) :
      Runs (.read (.chain c)) depth ts (.error fault) levels
  | chain {c : Connective} {depth levels levels' : Nat} {ts rest : List Token} {left : Expr}
      {o : Except Fault (Expr × List Token)}
      (first : Runs (.read c.operand) depth ts (.ok (left, rest)) levels)
      (more : Runs (.extend c left) depth rest o levels') :
      Runs (.read (.chain c)) depth ts o (max levels levels')
  | stop {c : Connective} {depth : Nat} {left : Expr} {ts : List Token}
      (hHead : ts.head? ≠ some c.token) : Runs (.extend c left) depth ts (.ok (left, ts)) 0
  | nextFault {c : Connective} {depth levels : Nat} {left : Expr} {ts : List Token} {fault : Fault}
      (next : Runs (.read c.operand) depth ts (.error fault) levels) :
      Runs (.extend c left) depth (c.token :: ts) (.error fault) levels
  | next {c : Connective} {depth levels levels' : Nat} {left right : Expr} {ts rest : List Token}
      {o : Except Fault (Expr × List Token)}
      (next : Runs (.read c.operand) depth ts (.ok (right, rest)) levels)
      (more : Runs (.extend c (c.build left right)) depth rest o levels') :
      Runs (.extend c left) depth (c.token :: ts) o (max levels levels')

/-- The functions that do the task with `room` levels left have this outcome, whatever number no
less than that of the tokens a chain is counted down from. -/
def Task.Gives (room : Nat) (ts : List Token) (o : Except Fault (Expr × List Token)) : Task → Prop
  | read r => r.reader room ts = o
  | extend c left => ∀ fuel, ts.length ≤ fuel →
      chainFrom c.token c.build (c.operand.reader room) fuel left ts = o

namespace Runs

variable {t : Task} {depth levels : Nat} {ts : List Token} {o : Except Fault (Expr × List Token)}

theorem room_succ {depth : Nat} (h : depth < maxDepth) :
    maxDepth - depth = maxDepth - (depth + 1) + 1 := by
  omega

theorem levels_le (h : Runs t depth ts o levels) : levels ≤ maxDepth - depth := by
  induction h with
  | value | parensTooDeep | notTooDeep | stop => exact Nat.zero_le _
  | parens hDepth _ ih | not hDepth _ ih =>
    rw [room_succ hDepth]
    exact Nat.succ_le_succ ih
  | comparisonFault _ ih | single _ _ ih | plain _ _ ih | chainFault _ ih | nextFault _ ih =>
    exact ih
  | relate _ _ _ ih ih' | chain _ _ ih ih' | next _ _ ih ih' => exact Nat.max_le.mpr ⟨ih, ih'⟩

/-- A run has the outcome of the reader with as many levels left. -/
theorem gives (h : Runs t depth ts o levels) : t.Gives (maxDepth - depth) ts o := by
  induction h with
  | value hHead => exact primary_of_head_ne_openParen _ hHead
  | @parensTooDeep depth ts hDeep =>
    rw [Nat.sub_eq_zero_of_le hDeep]
    rfl
  | @parens depth levels ts o hDepth _ ih =>
    rw [room_succ hDepth]
    simp only [Task.Gives, Rank.reader] at ih ⊢
    simp only [primary, withinParens, ih]
    rcases o with fault | ⟨e, _ | ⟨t, rest⟩⟩
    · rfl
    · rfl
    · cases t <;> rfl
  | comparisonFault _ ih =>
    simp only [Task.Gives, Rank.reader] at ih ⊢
    simp only [comparison, ih]
  | single _ hAlone ih =>
    simp only [Task.Gives, Rank.reader] at ih ⊢
    simp only [comparison, ih, hAlone]
  | relate _ hRelated _ ih ih' =>
    simp only [Task.Gives, Rank.reader] at ih ih' ⊢
    simp only [comparison, ih, hRelated, ih']
  | @notTooDeep depth ts hDeep =>
    rw [Nat.sub_eq_zero_of_le hDeep]
    rfl
  | @not depth levels ts o hDepth _ ih =>
    rw [room_succ hDepth, ← ih]
    rfl
  | plain hHead _ ih => exact (Rank.reader_unary_of_head_ne_not _ hHead).trans ih
  | chainFault _ ih =>
    simp only [Task.Gives] at ih ⊢
    rw [Rank.reader_chain, Condition.chain, ih]
  | chain _ _ ih ih' =>
    simp only [Task.Gives] at ih ih' ⊢
    rw [Rank.reader_chain, Condition.chain, ih]
    exact ih' _ (Nat.le_refl _)
  | @stop c depth left ts hHead =>
    intro fuel _
    cases fuel with
    | zero => rfl
    | succ fuel =>
      cases ts with
      | nil => rfl
      | cons t ts => exact if_neg fun hMark => hHead (congrArg some hMark)
  | @nextFault c depth levels left ts fault _ ih =>
    intro fuel hFuel
    obtain ⟨fuel, rfl⟩ := Nat.exists_eq_add_of_le' (Nat.one_le_of_lt hFuel)
    simp only [Task.Gives] at ih
    simp [chainFrom, ih]
  | @next c depth levels levels' left right ts rest o _ _ ih ih' =>
    intro fuel hFuel
    obtain ⟨fuel, rfl⟩ := Nat.exists_eq_add_of_le' (Nat.one_le_of_lt hFuel)
    simp only [Task.Gives] at ih
    -- the operand takes a token as well, so what is left to count is enough for the rest
    have hShorter := (Rank.reads_reader _ _).length_lt ih
    have hFuel : rest.length ≤ fuel := by
      rw [List.length_cons] at hFuel
      omega
    simp [chainFrom, ih, ih' fuel hFuel]

theorem length_lt {r : Rank} {e : Expr} {rest : List Token}
    (h : Runs (.read r) depth ts (.ok (e, rest)) levels) : rest.length < ts.length :=
  (r.reads_reader _).length_lt h.gives

end Runs

/-- A symbol begins with those of lower weight. -/
@[simp]
def Rank.weight : Rank → Nat
  | primary => 0
  | comparison => 1
  | unary => 2
  | chain .and => 3
  | chain .or => 4

@[simp]
def Task.weight : Task → Nat
  | read r => r.weight
  | extend _ _ => 0

theorem Rank.weight_operand_lt (c : Connective) : c.operand.weight < (Rank.chain c).weight := by
  cases c <;> decide

/-- Every task has a run: a step that takes no token goes on with a symbol of lower weight. -/
theorem exists_run (t : Task) (depth : Nat) (ts : List Token) :
    ∃ o levels, Runs t depth ts o levels := by
  match t with
  | .read .primary =>
    by_cases hHead : ts.head? = some .openParen
    · obtain ⟨ts, rfl⟩ := List.head?_eq_some_iff.mp hHead
      rcases Nat.lt_or_ge depth maxDepth with hDepth | hDeep
      · obtain ⟨o, levels, hInner⟩ := exists_run (.read (.chain .or)) (depth + 1) ts
        exact ⟨_, _, .parens hDepth hInner⟩
      · exact ⟨_, _, .parensTooDeep hDeep⟩
    · exact ⟨_, _, .value hHead⟩
  | .read .comparison =>
    obtain ⟨fault | ⟨a, rest⟩, levels, hLeft⟩ := exists_run (.read .primary) depth ts
    · exact ⟨_, _, .comparisonFault hLeft⟩
    · have hShorter := hLeft.length_lt
      cases hRelation : relation? rest with
      | none => exact ⟨_, _, .single hLeft hRelation⟩
      | some related =>
        obtain ⟨r, after⟩ := related
        have hAfter : after.length ≤ rest.length := by
          rw [relation?_eq_some_iff.mp hRelation, List.length_append]
          exact Nat.le_add_left _ _
        obtain ⟨o, levels', hRight⟩ := exists_run (.read .primary) depth after
        exact ⟨_, _, .relate hLeft hRelation hRight⟩
  | .read .unary =>
    by_cases hHead : ts.head? = some .not
    · obtain ⟨ts, rfl⟩ := List.head?_eq_some_iff.mp hHead
      rcases Nat.lt_or_ge depth maxDepth with hDepth | hDeep
      · obtain ⟨o, levels, hInner⟩ := exists_run (.read .unary) (depth + 1) ts
        exact ⟨_, _, .not hDepth hInner⟩
      · exact ⟨_, _, .notTooDeep hDeep⟩
    · obtain ⟨o, levels, hInner⟩ := exists_run (.read .comparison) depth ts
      exact ⟨_, _, .plain hHead hInner⟩
  | .read (.chain c) =>
    have hWeight := Rank.weight_operand_lt c
    obtain ⟨fault | ⟨left, rest⟩, levels, hFirst⟩ := exists_run (.read c.operand) depth ts
    · exact ⟨_, _, .chainFault hFirst⟩
    · have hShorter := hFirst.length_lt
      obtain ⟨o, levels', hMore⟩ := exists_run (.extend c left) depth rest
      exact ⟨_, _, .chain hFirst hMore⟩
  | .extend c left =>
    by_cases hHead : ts.head? = some c.token
    · obtain ⟨ts, rfl⟩ := List.head?_eq_some_iff.mp hHead
      obtain ⟨fault | ⟨right, rest⟩, levels, hNext⟩ := exists_run (.read c.operand) depth ts
      · exact ⟨_, _, .nextFault hNext⟩
      · have hShorter : rest.length < (c.token :: ts).length :=
          Nat.lt_succ_of_lt hNext.length_lt
        obtain ⟨o, levels', hMore⟩ := exists_run (.extend c (c.build left right)) depth rest
        exact ⟨_, _, .next hNext hMore⟩
    · exact ⟨_, _, .stop hHead⟩
termination_by (ts.length, t.weight)

end Household.Condition
