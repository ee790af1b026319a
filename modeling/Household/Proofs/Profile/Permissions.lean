import Household.Profile.Permission

/-! # Permissions by parts

The points of a name divide it into parts, of which some may be empty. A pattern that ends in a
point and a star stands for the names whose parts begin with its own. Patterns count as two sets:
more denied patterns refuse more, more allowed ones allow more, and nothing else matters.
-/

set_option autoImplicit false

namespace Household

open Household.Text

/-! ## Parts of a name -/

theorem splitAt_append_cons (mark : Char) (s t : List Char) :
    splitAt mark (s ++ mark :: t) = splitAt mark s ++ splitAt mark t := by
  induction s with
  | nil => simp [splitAt]
  | cons c s ih =>
    by_cases hc : c = mark
    · simp [splitAt, hc, ih]
    · cases hSplit : splitAt mark s with
      | nil => exact absurd hSplit (splitAt_ne_nil mark s)
      | cons piece pieces => simp [splitAt, hc, ih, hSplit]

theorem join_append (mark : List Char) {pieces more : List (List Char)} (hPieces : pieces ≠ [])
    (hMore : more ≠ []) : join mark (pieces ++ more) = join mark pieces ++ mark ++ join mark more := by
  induction pieces with
  | nil => exact absurd rfl hPieces
  | cons piece pieces ih =>
    cases pieces with
    | nil => simp [join]
    | cons next pieces => simpa [join] using ih (List.cons_ne_nil next pieces)

theorem splitAt_prefix_iff {mark : Char} {s t : List Char} :
    splitAt mark s <+: splitAt mark t ↔ t = s ∨ ∃ rest, t = s ++ mark :: rest := by
  constructor
  · rintro ⟨more, hSplit⟩
    have hJoin : t = join [mark] (splitAt mark s ++ more) := by rw [hSplit, join_splitAt]
    cases more with
    | nil => exact .inl (by rw [hJoin, List.append_nil, join_splitAt])
    | cons piece more =>
      rw [join_append [mark] (splitAt_ne_nil mark s) (List.cons_ne_nil piece more),
        join_splitAt] at hJoin
      exact .inr ⟨_, by simpa using hJoin⟩
  · rintro (rfl | ⟨rest, rfl⟩)
    · exact List.prefix_rfl
    · rw [splitAt_append_cons]
      exact List.prefix_append _ _

/-- The parts of a name between its points. -/
def nameParts (name : String) : List (List Char) := splitAt '.' name.toList

theorem patternMatches_below_iff {domain action : String} :
    patternMatches (domain ++ ".*") action = true ↔ nameParts domain <+: nameParts action := by
  have hStar : domain ++ ".*" ≠ "*" := by
    intro h
    have := congrArg (fun s : String => s.toList.length) h
    simp at this
  have hDomain : dropEnd? ['.', '*'] (domain ++ ".*").toList = some domain.toList :=
    dropEnd?_eq_some_iff.mpr (by simp)
  rw [patternMatches, if_neg hStar, hDomain]
  exact isWithin_iff.trans splitAt_prefix_iff.symm

example : patternMatches "lock.*" "locksmith" = false ∧ patternMatches "lock.*" "lock..x" = true := by
  decide +kernel

/-! ## Sets of patterns -/

namespace Permissions

variable {p q : Permissions} {action : String}

theorem allows_eq_false_of_denied {pattern : String} (hDenied : pattern ∈ p.denied)
    (h : patternMatches pattern action = true) : p.allows action = false := by
  rw [Bool.eq_false_iff]
  intro hAllows
  rw [(allows_iff.mp hAllows).1 pattern hDenied] at h
  cases h

/-- Whoever denies less and allows more allows what another allows. -/
theorem allows_of_subset (hDenied : q.denied ⊆ p.denied) (hAllowed : p.allowed ⊆ q.allowed)
    (h : p.allows action = true) : q.allows action = true := by
  obtain ⟨hNone, pattern, hMem, hMatch⟩ := allows_iff.mp h
  exact allows_iff.mpr ⟨fun pattern hPattern => hNone pattern (hDenied hPattern),
    pattern, hAllowed hMem, hMatch⟩

theorem allows_congr (hAllowed : ∀ pattern, pattern ∈ p.allowed ↔ pattern ∈ q.allowed)
    (hDenied : ∀ pattern, pattern ∈ p.denied ↔ pattern ∈ q.denied) :
    p.allows action = q.allows action := by
  refine Bool.eq_iff_iff.mpr ⟨?_, ?_⟩
  · exact allows_of_subset (fun _ => (hDenied _).mpr) (fun _ => (hAllowed _).mp)
  · exact allows_of_subset (fun _ => (hDenied _).mp) (fun _ => (hAllowed _).mpr)

/-- A pattern with a star at its end matches by parts, and what is denied stays refused, for all
names below it too. Patterns that are added work one way, and only which patterns there are
counts. -/
theorem hierarchical_and_deny_wins :
    (∀ domain action, patternMatches (domain ++ ".*") action = true ↔
      nameParts domain <+: nameParts action) ∧
    (∀ (p : Permissions) domain action, domain ++ ".*" ∈ p.denied →
      patternMatches (domain ++ ".*") action = true →
        p.allows action = false ∧
          ∀ further, nameParts action <+: nameParts further → p.allows further = false) ∧
    (∀ (p : Permissions) pattern action, p.allows action = false →
      { p with denied := pattern :: p.denied }.allows action = false) ∧
    (∀ (p : Permissions) pattern action, p.allows action = true →
      { p with allowed := pattern :: p.allowed }.allows action = true) ∧
    ∀ p q : Permissions, (∀ pattern, pattern ∈ p.allowed ↔ pattern ∈ q.allowed) →
      (∀ pattern, pattern ∈ p.denied ↔ pattern ∈ q.denied) →
        ∀ action, p.allows action = q.allows action := by
  refine ⟨fun _ _ => patternMatches_below_iff, ?_, ?_, ?_, ?_⟩
  · intro p domain action hDenied hMatch
    refine ⟨allows_eq_false_of_denied hDenied hMatch, fun further hFurther => ?_⟩
    have hParts := (patternMatches_below_iff.mp hMatch).trans hFurther
    exact allows_eq_false_of_denied hDenied (patternMatches_below_iff.mpr hParts)
  · intro p pattern action hRefused
    rw [Bool.eq_false_iff] at hRefused ⊢
    intro hAllows
    refine hRefused (allows_of_subset ?_ ?_ hAllows)
    · exact List.subset_cons_self pattern p.denied
    · exact List.Subset.refl p.allowed
  · intro p pattern action hAllows
    refine allows_of_subset ?_ ?_ hAllows
    · exact List.Subset.refl p.denied
    · exact List.subset_cons_self pattern p.allowed
  · intro p q hAllowed hDenied action
    exact allows_congr hAllowed hDenied

end Permissions

end Household
