import Mathlib.Data.List.Chain
import Household.Proofs.Condition.Spelling

/-! # Texts of several tokens

Between tokens there may be gaps. The tokens are read back, as long as words and numbers stand apart
and no equals sign runs into an operator.
-/

set_option autoImplicit false

namespace Household.Condition

open Household.Text

/-- Tokens one after another. Gaps may stand between them, and must between words and numbers. -/
inductive Spaced : List Token → List Char → Prop
  | single {t : Token} {text : List Char} (h : t.Spelled text) : Spaced [t] text
  | cons {t : Token} {ts : List Token} {text gap rest : List Char} (h : t.Spelled text)
      (hGap : gap.all isTokenGap = true)
      (hApart : text.head?.any startsRun = true → rest.head?.any startsRun = true → gap ≠ [])
      (hRest : Spaced ts rest) : Spaced (t :: ts) (text ++ (gap ++ rest))

/-- Next to each other, the two tokens cannot be taken for one. -/
def Token.Apart (t next : Token) : Prop := t.takesEquals = true → next ≠ .eq

namespace Spaced

theorem exists_cons {ts : List Token} {s : List Char} (h : Spaced ts s) :
    ∃ t later, ts = t :: later := by
  cases h with
  | single => exact ⟨_, _, rfl⟩
  | cons => exact ⟨_, _, rfl⟩

theorem exists_head {t : Token} {ts : List Token} {s : List Char} (h : Spaced (t :: ts) s)
    (hLex : t.IsLexeme) : ∃ c rest, s = c :: rest ∧ t.StartsWith c := by
  cases h with
  | single h => exact h.exists_head hLex
  | cons h =>
    obtain ⟨c, tail, rfl, hHead⟩ := h.exists_head hLex
    exact ⟨c, _, rfl, hHead⟩

theorem any_head? {ts : List Token} {s : List Char} (h : Spaced ts s)
    (hLex : ∀ t ∈ ts, t.IsLexeme) : s ≠ [] ∧ s.head?.any isSpace = false := by
  obtain ⟨t, later, rfl⟩ := h.exists_cons
  obtain ⟨c, tail, rfl, -, hSpace, -⟩ := h.exists_head (hLex t List.mem_cons_self)
  exact ⟨List.cons_ne_nil c tail, hSpace⟩

theorem any_getLast? {ts : List Token} {s : List Char} (h : Spaced ts s)
    (hLex : ∀ t ∈ ts, t.IsLexeme) : s.getLast?.any isSpace = false := by
  induction h with
  | single h => exact h.any_getLast? (hLex _ List.mem_cons_self)
  | cons h hGap hApart hRest ih =>
    obtain ⟨-, hLater⟩ := List.forall_mem_cons.mp hLex
    rw [← List.append_assoc, List.getLast?_append_of_ne_nil _ (hRest.any_head? hLater).1]
    exact ih hLater

end Spaced

/-! ### Reading tokens back -/

theorem gap_apart {c : Char} (h : isTokenGap c = true) :
    continuesRun c = false ∧ isSpace c = true ∧ c ≠ '=' := by
  simp only [isTokenGap, Bool.or_eq_true, decide_eq_true_eq] at h
  rcases h with ((rfl | rfl) | rfl) | rfl <;> decide

/-- What follows a token, behind a gap if there is one, neither prolongs a word or number nor turns
an operator into another one. -/
theorem boundary_of_gap {t next : Token} {gap : List Char} {c : Char} (rest : List Char)
    (hGap : gap.all isTokenGap = true) (hNext : next.StartsWith c) (hApart : t.Apart next) :
    ((startsRun c = true → gap ≠ []) → (gap ++ c :: rest).head?.any continuesRun = false) ∧
      (t.takesEquals = true → (gap ++ c :: rest).head? ≠ some '=') := by
  obtain ⟨hHead, -, hEq⟩ := hNext
  cases gap with
  | nil =>
    refine ⟨fun hRun => ?_, fun hTakes hSame => ?_⟩
    · obtain hStarts | hMark := hHead
      · exact absurd rfl (hRun hStarts)
      · exact (punctuation_apart hMark).2.1
    · exact hApart hTakes (hEq (Option.some.inj hSame))
  | cons d gap =>
    obtain ⟨hContinues, -, hEquals⟩ := gap_apart (Bool.and_eq_true_iff.mp hGap).1
    exact ⟨fun _ => hContinues, fun _ hSame => hEquals (Option.some.inj hSame)⟩

theorem tokensFrom_spelled {t : Token} {text : List Char} (h : t.Spelled text)
    (hLex : t.IsLexeme) (rest : List Char)
    (hRun : text.head?.any startsRun = true → rest.head?.any continuesRun = false)
    (hEquals : t.takesEquals = true → rest.head? ≠ some '=') {fuel : Nat}
    (hFuel : (text ++ rest).length ≤ fuel) :
    ∃ n, rest.length ≤ n ∧
      tokensFrom fuel (text ++ rest) = (tokensFrom n rest).map (t :: ·) := by
  obtain ⟨c, tail, rfl, -, hSpace, -⟩ := h.exists_head hLex
  have hNoGap : ¬ isTokenGap c = true := fun hGap =>
    Bool.false_ne_true (hSpace.symm.trans (gap_apart hGap).2.1)
  cases fuel with
  | zero => cases hFuel
  | succ fuel =>
    refine ⟨fuel, ?_, ?_⟩
    · simp only [List.cons_append, List.length_cons, List.length_append] at hFuel
      omega
    · simp [tokensFrom, hNoGap, h.readToken hLex rfl hRun hEquals]

theorem tokensFrom_gap {gap rest : List Char} (hGap : gap.all isTokenGap = true) {fuel : Nat}
    (hFuel : (gap ++ rest).length ≤ fuel) :
    ∃ n, rest.length ≤ n ∧ tokensFrom fuel (gap ++ rest) = tokensFrom n rest := by
  induction gap generalizing fuel with
  | nil => exact ⟨fuel, hFuel, rfl⟩
  | cons c gap ih =>
    obtain ⟨hc, hGap⟩ := Bool.and_eq_true_iff.mp hGap
    cases fuel with
    | zero => cases hFuel
    | succ fuel =>
      obtain ⟨n, hn, hRead⟩ := ih hGap (Nat.le_of_succ_le_succ hFuel)
      exact ⟨n, hn, by rw [List.cons_append, tokensFrom, if_pos hc, hRead]⟩

theorem tokensFrom_of_spaced {ts : List Token} {s : List Char} (h : Spaced ts s)
    (hLex : ∀ t ∈ ts, t.IsLexeme) (hTokens : ts.IsChain Token.Apart) {fuel : Nat}
    (hFuel : s.length ≤ fuel) : tokensFrom fuel s = .ok ts := by
  induction h generalizing fuel with
  | single h =>
    obtain ⟨n, -, hRead⟩ := tokensFrom_spelled h (hLex _ List.mem_cons_self) [] (fun _ => rfl)
      (fun _ => by simp) (by simpa using hFuel)
    rw [List.append_nil] at hRead
    rw [hRead, tokensFrom.eq_def]
    cases n <;> rfl
  | cons h hGap hApart hRest ih =>
    obtain ⟨next, ts, rfl⟩ := hRest.exists_cons
    obtain ⟨hNext, hLater⟩ := List.isChain_cons_cons.mp hTokens
    obtain ⟨hLex, hLexLater⟩ := List.forall_mem_cons.mp hLex
    obtain ⟨c, tail, rfl, hHead⟩ := hRest.exists_head (hLexLater next List.mem_cons_self)
    obtain ⟨hRun, hEquals⟩ := boundary_of_gap tail hGap hHead hNext
    obtain ⟨n, hn, hRead⟩ :=
      tokensFrom_spelled h hLex _ (fun hText => hRun (hApart hText)) hEquals hFuel
    obtain ⟨m, hm, hSkip⟩ := tokensFrom_gap hGap hn
    rw [hRead, hSkip, ih hLexLater hLater hm]
    rfl

end Household.Condition
