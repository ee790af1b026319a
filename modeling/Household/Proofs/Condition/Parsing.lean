import Household.Proofs.Condition.Grammar
import Household.Proofs.Data.Outcome

/-! # Reading by the grammar

Every reader takes the front of a list that its symbol derives, and no other one. A reader is
complete only where the derivation ends at a token that may follow: reading is greedy.
-/

set_option autoImplicit false

namespace Household.Condition

/-! ### Names and arguments -/

theorem variableOf_eq_ok_iff {name : String} {v : Variable} :
    variableOf name = .ok v ↔ folded name ∈ v.names := by
  unfold variableOf
  split <;> rename_i hName <;> cases v <;> simp_all [Variable.names]

/-- The strings that a question is asked with. -/
def Call.arguments : Call → List String
  | state key => [key]
  | _ => []

theorem callOf_eq_ok_iff {function : String} {args : List String} {c : Call} :
    callOf function args = .ok c ↔ folded function = c.name ∧ args = c.arguments := by
  constructor
  · intro h
    unfold callOf at h
    extract_lets nullary at h
    have hNullary {d : Call} (hName : folded function = d.name) (hArgs : d.arguments = [])
        (h : nullary d = .ok c) : folded function = c.name ∧ args = c.arguments := by
      simp only [nullary] at h
      split at h
      · cases h
        exact ⟨hName, (List.isEmpty_iff.mp ‹_›).trans hArgs.symm⟩
      · cases h
    split at h
    · exact hNullary ‹_› rfl h
    · exact hNullary ‹_› rfl h
    · exact hNullary ‹_› rfl h
    · exact hNullary ‹_› rfl h
    · exact hNullary ‹_› rfl h
    · split at h
      · cases h
        exact ⟨‹_›, rfl⟩
      · cases h
    · cases h
  · rintro ⟨hName, rfl⟩
    unfold callOf
    rw [hName]
    cases c <;> rfl

/-- The string that a token gives to a call. -/
def Token.text? : Token → Option String
  | str s | ident s => some s
  | _ => none

namespace Token

@[simp]
theorem text?_str (s : String) : (str s).text? = some s := rfl

@[simp]
theorem text?_ident (s : String) : (ident s).text? = some s := rfl

@[simp]
theorem text?_comma : comma.text? = none := rfl

theorem text?_eq_some_iff {t : Token} {s : String} :
    t.text? = some s ↔ t = str s ∨ t = ident s := by
  cases t <;> simp [text?]

end Token

theorem readArguments_eq_ok {function : String} {args out : List String} {ts rest : List Token}
    (h : readArguments function args ts = .ok (out, rest)) :
    ∃ given, ts = given ++ .closeParen :: rest ∧ out = args ++ given.filterMap Token.text? ∧
      (∀ t ∈ given, t ≠ .comma → t.text?.isSome) ∧ (args = [] → given.head? ≠ some .comma) := by
  fun_induction readArguments function args ts generalizing out rest with
  | case1 => cases h
  | case2 args ts =>
    cases h
    exact ⟨[], by simp⟩
  | case3 => cases h
  | case4 args ts hArgs ih =>
    obtain ⟨given, rfl, rfl, hGiven, _⟩ := ih h
    exact ⟨.comma :: given, by simp_all [List.filterMap_cons]⟩
  | case5 args ts s ih =>
    obtain ⟨given, rfl, rfl, hGiven, _⟩ := ih h
    exact ⟨.str s :: given, by simp_all⟩
  | case6 args ts s ih =>
    obtain ⟨given, rfl, rfl, hGiven, _⟩ := ih h
    exact ⟨.ident s :: given, by simp_all⟩
  | case7 => cases h

/-- Behind the last string, nothing but commas is left. -/
theorem eq_replicate_of_filterMap_eq_nil {given : List Token}
    (hGiven : ∀ t ∈ given, t ≠ .comma → t.text?.isSome)
    (hNone : given.filterMap Token.text? = []) :
    given = List.replicate given.length .comma := by
  refine List.eq_replicate_of_mem fun t ht => Decidable.byContradiction fun hComma => ?_
  have hText : t.text? = none := List.filterMap_eq_nil_iff.mp hNone t ht
  simpa [hText] using hGiven t ht hComma

theorem Call.takes_of_filterMap {c : Call} {given : List Token}
    (hText : c.arguments = given.filterMap Token.text?)
    (hGiven : ∀ t ∈ given, t ≠ .comma → t.text?.isSome) (hHead : given.head? ≠ some .comma) :
    c.Takes given := by
  cases given with
  | nil => cases c <;> simp_all [arguments, Takes]
  | cons t given =>
    have hSome := hGiven t List.mem_cons_self (by simpa using hHead)
    obtain ⟨s, hs⟩ := Option.isSome_iff_exists.mp hSome
    rw [List.filterMap_cons_some hs] at hText
    cases c with
    | state key =>
      obtain ⟨rfl, hNone⟩ := List.cons.inj hText
      have hCommas := eq_replicate_of_filterMap_eq_nil
        (fun t ht => hGiven t (List.mem_cons_of_mem _ ht)) hNone.symm
      refine ⟨given.length, ?_⟩
      rw [← hCommas]
      exact (Token.text?_eq_some_iff.mp hs).imp (congrArg (· :: given)) (congrArg (· :: given))
    | _ => cases hText

theorem readArguments_replicate {function : String} {args : List String} (hArgs : args ≠ [])
    (commas : Nat) (rest : List Token) :
    readArguments function args (List.replicate commas .comma ++ .closeParen :: rest) =
      .ok (args, rest) := by
  induction commas with
  | zero => simp [readArguments]
  | succ commas ih => simpa [List.replicate_succ, readArguments, hArgs] using ih

theorem readArguments_of_takes {function : String} {c : Call} {given : List Token}
    (h : c.Takes given) (rest : List Token) :
    readArguments function [] (given ++ .closeParen :: rest) = .ok (c.arguments, rest) := by
  cases c with
  | state key =>
    obtain ⟨commas, rfl | rfl⟩ := h <;>
      simpa [readArguments, Call.arguments] using readArguments_replicate (by simp) commas rest
  | _ => simp [show given = [] from h, readArguments, Call.arguments]

theorem readCall_eq_ok_iff {function : String} {ts rest : List Token} {e : Expr} :
    readCall function ts = .ok (e, rest) ↔ ∃ c given, folded function = c.name ∧ c.Takes given ∧
      ts = given ++ .closeParen :: rest ∧ e = .call c := by
  constructor
  · intro h
    unfold readCall at h
    split at h
    · cases h
    · rename_i args after hArgs
      obtain ⟨c, hCall, hSame⟩ := map_eq_ok_iff.mp h
      cases hSame
      obtain ⟨hName, rfl⟩ := callOf_eq_ok_iff.mp hCall
      obtain ⟨given, rfl, hText, hGiven, hHead⟩ := readArguments_eq_ok hArgs
      exact ⟨c, given, hName, Call.takes_of_filterMap hText hGiven (hHead rfl), rfl, rfl⟩
  · rintro ⟨c, given, hName, hTakes, rfl, rfl⟩
    rw [readCall, readArguments_of_takes hTakes]
    exact map_eq_ok_iff.mpr ⟨c, callOf_eq_ok_iff.mpr ⟨hName, rfl⟩, rfl⟩

/-! ### Readers -/

/-- What the reader of a symbol does with `room` levels of negations and parentheses left. -/
structure Rank.Reads (r : Rank) (room : Nat) (p : Parser) : Prop where
  sound : ∀ {ts : List Token} {e : Expr} {rest : List Token}, p ts = .ok (e, rest) →
    ∃ d : Derivation r, d.tokens ++ rest = ts ∧ d.expr = e ∧ d.depth ≤ room
  complete : ∀ (d : Derivation r) (rest : List Token), d.depth ≤ room → r.EndsAt rest →
    p (d.tokens ++ rest) = .ok (d.expr, rest)

/-- The reader of the level below, if there is one. -/
inductive Rank.ReadsBelow (r : Rank) : Nat → Option Parser → Prop
  | floor : ReadsBelow r 0 none
  | step {room : Nat} {p : Parser} (h : r.Reads room p) : ReadsBelow r (room + 1) (some p)

theorem Atom.exists_of_primary {inner : Option Parser} {ts rest : List Token} {e : Expr}
    (h : primary inner ts = .ok (e, rest)) (hParen : ts.head? ≠ some .openParen) :
    ∃ a : Atom, a.tokens ++ rest = ts ∧ a.expr = e := by
  unfold primary at h
  split at h
  · simp at hParen
  · cases h
    exact ⟨.bool true, rfl, rfl⟩
  · cases h
    exact ⟨.bool false, rfl, rfl⟩
  · cases h
    exact ⟨.num _, rfl, rfl⟩
  · cases h
    exact ⟨.str _, rfl, rfl⟩
  · obtain ⟨c, given, hName, hTakes, rfl, rfl⟩ := readCall_eq_ok_iff.mp h
    exact ⟨.call _ c given hName hTakes, by simp [tokens], rfl⟩
  · obtain ⟨v, hVar, hSame⟩ := map_eq_ok_iff.mp h
    cases hSame
    exact ⟨.var _ v (variableOf_eq_ok_iff.mp hVar), rfl, rfl⟩
  · cases h
  · cases h

theorem Atom.primary_tokens (a : Atom) (inner : Option Parser) {rest : List Token}
    (hEnd : Rank.primary.EndsAt rest) : primary inner (a.tokens ++ rest) = .ok (a.expr, rest) := by
  cases a with
  | bool b => cases b <;> rfl
  | num x => rfl
  | str s => rfl
  | var name v known =>
    have hVar : (variableOf name).map (fun v => (Expr.var v, rest)) = .ok (.var v, rest) :=
      map_eq_ok_iff.mpr ⟨v, variableOf_eq_ok_iff.mpr known, rfl⟩
    cases rest with
    | nil => exact hVar
    | cons t rest =>
      have hParen : t ≠ .openParen := fun hSame => Rank.not_endsAt_openParen rest (hSame ▸ hEnd)
      cases t <;> first | exact absurd rfl hParen | exact hVar
  | call name c given known taken =>
    exact readCall_eq_ok_iff.mpr ⟨c, given, known, taken, by simp, rfl⟩

theorem reads_primary {room : Nat} {inner : Option Parser}
    (h : (Rank.chain .or).ReadsBelow room inner) : Rank.primary.Reads room (primary inner) where
  sound := by
    intro ts e rest hRead
    by_cases hParen : ts.head? = some .openParen
    · obtain ⟨ts, rfl⟩ := List.head?_eq_some_iff.mp hParen
      cases h with
      | floor => cases hRead
      | step h =>
        simp only [primary] at hRead
        split at hRead
        · cases hRead
        · rename_i e' rest' hInner
          cases hRead
          obtain ⟨d, rfl, rfl, hDepth⟩ := h.sound hInner
          exact ⟨.parens d, by simp [Derivation.tokens], rfl, Nat.succ_le_succ hDepth⟩
        · cases hRead
    · obtain ⟨a, rfl, rfl⟩ := Atom.exists_of_primary hRead hParen
      exact ⟨.atom a, rfl, rfl, Nat.zero_le room⟩
  complete := by
    intro d rest hDepth hEnd
    cases d with
    | atom a => exact a.primary_tokens inner hEnd
    | parens d =>
      cases h with
      | floor => cases hDepth
      | step h =>
        have hInner := h.complete d (.closeParen :: rest) (Nat.le_of_succ_le_succ hDepth)
          (by simp [Rank.follow])
        simp [Derivation.tokens, Derivation.expr, primary, hInner]

theorem relation?_eq_some_iff {ts rest : List Token} {r : Relation} :
    relation? ts = some (r, rest) ↔ ts = r.tokens ++ rest := by
  constructor
  · intro h
    unfold relation? at h
    split at h
    · cases h
      rfl
    · cases h
      rfl
    · rename_i t rest' _ _
      cases t <;> cases h <;> rfl
    · cases h
  · rintro rfl
    rcases r with (_ | _ | _ | _ | _ | _) | (_ | _) <;> rfl

theorem relation?_eq_none {rest : List Token} (hEnd : Rank.comparison.EndsAt rest) :
    relation? rest = none := by
  match hRead : relation? rest with
  | none => rfl
  | some (r, rest') =>
    rw [relation?_eq_some_iff.mp hRead] at hEnd
    exact absurd hEnd (Rank.not_endsAt_relation r rest')

theorem reads_comparison {room : Nat} {value : Parser} (h : Rank.primary.Reads room value) :
    Rank.comparison.Reads room (comparison value) where
  sound := by
    intro ts e rest hRead
    unfold comparison at hRead
    split at hRead
    · cases hRead
    · rename_i left after hLeft
      obtain ⟨a, rfl, rfl, hDepth⟩ := h.sound hLeft
      split at hRead
      · cases hRead
        exact ⟨.single a, rfl, rfl, hDepth⟩
      · rename_i r after hRelation
        obtain ⟨⟨right, rest'⟩, hRight, hSame⟩ := map_eq_ok_iff.mp hRead
        cases hSame
        obtain ⟨b, rfl, rfl, hDepth'⟩ := h.sound hRight
        obtain rfl := relation?_eq_some_iff.mp hRelation
        exact ⟨.relate a r b, by simp [Derivation.tokens], rfl, Nat.max_le.mpr ⟨hDepth, hDepth'⟩⟩
  complete := by
    intro d rest hDepth hEnd
    cases d with
    | single a =>
      have hValue := h.complete a rest hDepth hEnd.primary
      simp [Derivation.tokens, Derivation.expr, comparison, hValue, relation?_eq_none hEnd]
    | relate a r b =>
      obtain ⟨hLeft, hRight⟩ := Nat.max_le.mp hDepth
      have hLeft := h.complete a _ hLeft (Rank.endsAt_relation r (b.tokens ++ rest))
      have hRelation : relation? (r.tokens ++ (b.tokens ++ rest)) = some (r, b.tokens ++ rest) :=
        relation?_eq_some_iff.mpr rfl
      have hRight := h.complete b rest hRight hEnd.primary
      simp [Derivation.tokens, Derivation.expr, comparison, hLeft, hRelation, hRight, Except.map]

theorem unary_of_head_ne_not {below : Option Parser} {ts : List Token}
    (h : ts.head? ≠ some .not) :
    unary below ts = comparison (primary (below.map disjunction)) ts := by
  unfold unary
  split
  · exact absurd rfl h
  · rfl

theorem reads_unary {room : Nat} {below : Option Parser} (h : Rank.unary.ReadsBelow room below)
    (hComparison : Rank.comparison.Reads room (comparison (primary (below.map disjunction)))) :
    Rank.unary.Reads room (unary below) where
  sound := by
    intro ts e rest hRead
    by_cases hNot : ts.head? = some .not
    · obtain ⟨ts, rfl⟩ := List.head?_eq_some_iff.mp hNot
      cases h with
      | floor => cases hRead
      | step h =>
        obtain ⟨⟨e', rest'⟩, hInner, hSame⟩ := map_eq_ok_iff.mp hRead
        cases hSame
        obtain ⟨d, rfl, rfl, hDepth⟩ := h.sound hInner
        exact ⟨.not d, rfl, rfl, Nat.succ_le_succ hDepth⟩
    · rw [unary_of_head_ne_not hNot] at hRead
      obtain ⟨d, rfl, rfl, hDepth⟩ := hComparison.sound hRead
      exact ⟨.plain d, rfl, rfl, hDepth⟩
  complete := by
    intro d rest hDepth hEnd
    cases d with
    | not d =>
      cases h with
      | floor => cases hDepth
      | step h =>
        have hInner := h.complete d rest (Nat.le_of_succ_le_succ hDepth) hEnd
        exact map_eq_ok_iff.mpr ⟨_, hInner, rfl⟩
    | plain d =>
      have hComplete := hComparison.complete d rest hDepth hEnd
      exact (unary_of_head_ne_not (d.head_comparison_ne_not rest)).trans hComplete

theorem chainFrom_of_endsAt {c : Connective} {rest : List Token}
    (hEnd : (Rank.chain c).EndsAt rest) (operand : Parser) (fuel : Nat) (left : Expr) :
    chainFrom c.token c.build operand fuel left rest = .ok (left, rest) := by
  cases fuel with
  | zero => rfl
  | succ fuel =>
    cases rest with
    | nil => rfl
    | cons t rest =>
      have hMark : t ≠ c.token := fun hSame =>
        Rank.token_notMem_follow c (hSame ▸ Rank.endsAt_cons.mp hEnd)
      simp [chainFrom, hMark]

section Chain

variable {c : Connective} {room : Nat} {operand : Parser} (h : c.operand.Reads room operand)
include h

theorem tail_of_chainFrom {fuel : Nat} {left e : Expr} {ts rest : List Token}
    (hRead : chainFrom c.token c.build operand fuel left ts = .ok (e, rest)) :
    ∃ more : Tail c, more.tokens ++ rest = ts ∧ more.expr left = e ∧ more.depth ≤ room := by
  fun_induction chainFrom c.token c.build operand fuel left ts with
  | case1 =>
    cases hRead
    exact ⟨.nil, rfl, rfl, Nat.zero_le room⟩
  | case2 => cases hRead
  | case3 fuel left ts right after hOperand ih =>
    obtain ⟨next, rfl, rfl, hNext⟩ := h.sound hOperand
    obtain ⟨more, rfl, rfl, hMore⟩ := ih hRead
    exact ⟨.cons next more, by simp [Tail.tokens], rfl, Nat.max_le.mpr ⟨hNext, hMore⟩⟩
  | case4 =>
    cases hRead
    exact ⟨.nil, rfl, rfl, Nat.zero_le room⟩
  | case5 =>
    cases hRead
    exact ⟨.nil, rfl, rfl, Nat.zero_le room⟩

theorem chainFrom_tail (more : Tail c) {fuel : Nat} (left : Expr) {rest : List Token}
    (hFuel : (more.tokens ++ rest).length ≤ fuel) (hDepth : more.depth ≤ room)
    (hEnd : (Rank.chain c).EndsAt rest) :
    chainFrom c.token c.build operand fuel left (more.tokens ++ rest) =
      .ok (more.expr left, rest) := by
  match more, fuel with
  | .nil, fuel => exact chainFrom_of_endsAt hEnd operand fuel left
  | .cons next more, fuel + 1 =>
    obtain ⟨hNext, hMore⟩ := Nat.max_le.mp hDepth
    have hRead := h.complete next _ hNext (hEnd.tail more)
    have hFuel : (more.tokens ++ rest).length ≤ fuel := by
      simp only [Tail.tokens, List.cons_append, List.length_cons, List.length_append] at hFuel ⊢
      omega
    have hRest := chainFrom_tail more (c.build left next.expr) hFuel hMore hEnd
    simp [Tail.tokens, Tail.expr, chainFrom, hRead, hRest]

theorem reads_chain : (Rank.chain c).Reads room (chain c.token c.build operand) where
  sound := by
    intro ts e rest hRead
    unfold chain at hRead
    split at hRead
    · cases hRead
    · rename_i left after hLeft
      obtain ⟨first, rfl, rfl, hFirst⟩ := h.sound hLeft
      obtain ⟨more, rfl, rfl, hMore⟩ := tail_of_chainFrom h hRead
      exact ⟨.chain first more, by simp [Derivation.tokens], rfl, Nat.max_le.mpr ⟨hFirst, hMore⟩⟩
  complete := by
    intro d rest hDepth hEnd
    cases d with
    | chain first more =>
      obtain ⟨hFirst, hMore⟩ := Nat.max_le.mp hDepth
      have hLeft := h.complete first _ hFirst (hEnd.tail more)
      have hMore := chainFrom_tail h more first.expr (Nat.le_refl _) hMore hEnd
      simp only [Derivation.tokens, Derivation.expr, chain, List.append_assoc, hLeft, hMore]

end Chain

theorem reads_disjunction {room : Nat} {operand : Parser} (h : Rank.unary.Reads room operand) :
    (Rank.chain .or).Reads room (disjunction operand) :=
  reads_chain (c := .or) (reads_chain (c := .and) h)

theorem Rank.ReadsBelow.disjunction {room : Nat} {below : Option Parser}
    (h : Rank.unary.ReadsBelow room below) :
    (Rank.chain .or).ReadsBelow room (below.map Condition.disjunction) := by
  cases h with
  | floor => exact .floor
  | step h => exact .step (reads_disjunction h)

theorem Rank.ReadsBelow.unary {room : Nat} {below : Option Parser}
    (h : Rank.unary.ReadsBelow room below) : Rank.unary.Reads room (Condition.unary below) :=
  reads_unary h (reads_comparison (reads_primary h.disjunction))

theorem reads_unaryAt (room : Nat) : Rank.unary.Reads room (unaryAt room) := by
  induction room with
  | zero => exact Rank.ReadsBelow.floor.unary
  | succ room ih => exact (Rank.ReadsBelow.step ih).unary

theorem reads_exprAt (room : Nat) : (Rank.chain .or).Reads room (exprAt room) :=
  reads_disjunction (reads_unaryAt room)

/-- A list of tokens is read to its end just when it has a derivation with at most 64 levels, whose
tree the reader gives, and no list has two derivations. -/
theorem exprAt_eq_ok_iff_derivation (ts : List Token) :
    (∀ e : Expr, exprAt maxDepth ts = .ok (e, []) ↔
      ∃ d : Derivation (.chain .or), d.tokens = ts ∧ d.expr = e ∧ d.depth ≤ 64) ∧
    ∀ d d' : Derivation (.chain .or), d.tokens = ts → d'.tokens = ts → d = d' := by
  refine ⟨fun e => ⟨fun h => ?_, ?_⟩, ?_⟩
  · obtain ⟨d, hTokens, hExpr, hDepth⟩ := (reads_exprAt maxDepth).sound h
    exact ⟨d, by simpa using hTokens, hExpr, hDepth⟩
  · rintro ⟨d, rfl, rfl, hDepth⟩
    simpa using (reads_exprAt maxDepth).complete d [] hDepth (Rank.endsAt_nil _)
  · rintro d d' rfl hSame
    exact (d.unique d' (Rank.endsAt_nil _) (Rank.endsAt_nil _) (by rw [hSame])).1

example :
    exprAt maxDepth [.not, .yes, .or, .no, .and, .yes, .or, .no] =
      .ok (.or (.or (.not (.bool true)) (.and (.bool false) (.bool true))) (.bool false), []) :=
  rfl

end Household.Condition
