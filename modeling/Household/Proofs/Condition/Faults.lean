import Household.Condition.Eval
import Household.Proofs.Data.Outcome

/-! # Faults decide nothing

A condition that comes out in spite of faults within it does so because it stopped before it came to
them. Whatever is put in the place of the failing parts, it comes out the same. All that can go wrong
in an evaluation is that an operation does not fit the kinds of its operands.
-/

set_option autoImplicit false

namespace Household.Condition

variable {α β : Type}

/-! ## Outcomes that stay -/

/-- An outcome that is no fault is the outcome of the other evaluation too. -/
def Stays (x y : Except Fault α) : Prop := ∀ a, x = .ok a → y = .ok a

/-- Kinds that do not fit are the only thing that can go wrong. -/
def FailsByKind (x : Except Fault α) : Prop :=
  ∀ fault, x = .error fault → ∃ kinds, fault = .kindMismatch kinds

namespace Stays

variable {x y : Except Fault α}

theorem refl (x : Except Fault α) : Stays x x := fun _ h => h

theorem of_error {fault : Fault} (hx : x = .error fault) (y : Except Fault α) : Stays x y := by
  intro a ha
  rw [hx] at ha
  cases ha

theorem bind {f g : α → Except Fault β} (h : Stays x y) (hLater : ∀ a, Stays (f a) (g a)) :
    Stays (x >>= f) (y >>= g) := by
  intro b hb
  cases x with
  | error fault => cases hb
  | ok a =>
    rw [h a rfl]
    exact hLater a b hb

theorem map (h : Stays x y) (f : α → β) : Stays (x.map f) (y.map f) := by
  intro b hb
  obtain ⟨a, hx, rfl⟩ := map_eq_ok_iff.mp hb
  rw [h a hx]
  rfl

end Stays

namespace FailsByKind

theorem ok (a : α) : FailsByKind (.ok a : Except Fault α) := fun _ h => nomatch h

theorem kindMismatch (kinds : KindFault) :
    FailsByKind (.error (.kindMismatch kinds) : Except Fault α) := by
  intro fault h
  cases h
  exact ⟨kinds, rfl⟩

theorem bind {x : Except Fault α} {f : α → Except Fault β} (h : FailsByKind x)
    (hLater : ∀ a, FailsByKind (f a)) : FailsByKind (x >>= f) := by
  intro fault hFault
  cases x with
  | ok a => exact hLater a fault hFault
  | error first =>
    cases hFault
    exact h _ rfl

end FailsByKind

/-! ## Operations on values -/

namespace Value

theorem failsByKind_compare (a : Value) (op : Comparison) (b : Value) :
    FailsByKind (compare a op b) := by
  unfold compare
  split
  · exact .ok _
  · exact .ok _
  · split
    · exact .ok _
    · split
      · exact .ok _
      · exact .kindMismatch _

theorem failsByKind_contains (haystack needle : Value) :
    FailsByKind (contains haystack needle) := by
  unfold contains
  split
  · split
    · exact .ok _
    · exact .kindMismatch _
  · split
    · exact .ok _
    · exact .ok _
    · exact .ok _
    · exact .kindMismatch _

end Value

namespace Expr

variable {s : Scene} {e e' : Expr}

/-! ## Conditions and operands -/

theorem map_bind (x : Except Fault α) (f : α → Except Fault β) (g : β → Bool) :
    (x >>= f).map g = x >>= fun a => (f a).map g := by
  cases x <;> rfl

theorem map_truthy_bool (x : Except Fault Bool) :
    (x >>= fun b => pure (Value.bool b)).map Value.truthy = x := by
  cases x <;> rfl

/-- A tree holds as a condition if its value as an operand does, and it fails as a condition exactly
as it fails as an operand. -/
theorem holds_eq_map_truthy (s : Scene) (e : Expr) : e.holds s = (e.value s).map Value.truthy := by
  cases e with
  | bool b => simp only [holds, value, Except.map, Value.truthy]
  | num x => simp only [holds, value, Except.map]
  | str text => simp only [holds, value, Except.map]
  | var v => simp only [holds, value, Except.map]
  | call c => simp only [holds, value, Except.map]
  | not e =>
    simp only [holds, value, map_bind]
    rfl
  | and a b =>
    simp only [holds, value, map_bind]
    congr 1
    funext x
    cases x with
    | false => rfl
    | true => exact (map_truthy_bool (b.holds s)).symm
  | or a b =>
    simp only [holds, value, map_bind]
    congr 1
    funext x
    cases x with
    | false => exact (map_truthy_bool (b.holds s)).symm
    | true => rfl
  | compare a op b =>
    simp only [holds, value, map_bind]
    congr 1
    funext left
    congr 1
    funext right
    rw [← map_bind]
    exact (map_truthy_bool (Value.compare left op right)).symm
  | within a b negated =>
    simp only [holds, value, map_bind]
    rfl

theorem failsByKind_holds_of_value (h : FailsByKind (e.value s)) : FailsByKind (e.holds s) := by
  intro fault hFault
  rw [holds_eq_map_truthy] at hFault
  exact h fault (map_eq_error_iff.mp hFault)

theorem failsByKind_value (s : Scene) (e : Expr) : FailsByKind (e.value s) := by
  induction e with
  | bool b => simpa only [value] using .ok _
  | num x => simpa only [value] using .ok _
  | str text => simpa only [value] using .ok _
  | var v => simpa only [value] using .ok _
  | call c => simpa only [value] using .ok _
  | not e ih =>
    simp only [value]
    exact (failsByKind_holds_of_value ih).bind fun _ => .ok _
  | and a b iha ihb =>
    simp only [value]
    apply (failsByKind_holds_of_value iha).bind
    rintro (_ | _)
    · exact .ok _
    · exact (failsByKind_holds_of_value ihb).bind fun _ => .ok _
  | or a b iha ihb =>
    simp only [value]
    apply (failsByKind_holds_of_value iha).bind
    rintro (_ | _)
    · exact (failsByKind_holds_of_value ihb).bind fun _ => .ok _
    · exact .ok _
  | compare a op b iha ihb =>
    simp only [value]
    exact iha.bind fun left => ihb.bind fun right =>
      (Value.failsByKind_compare left op right).bind fun _ => .ok _
  | within a b negated iha ihb =>
    simp only [value]
    exact iha.bind fun needle => ihb.bind fun haystack =>
      (Value.failsByKind_contains haystack needle).bind fun _ => .ok _

/-! ## Other trees in the place of failing ones -/

/-- The second tree is the first one with any trees in the place of some that fail in the scene. -/
inductive Mended (s : Scene) : Expr → Expr → Prop where
  | keep (e : Expr) : Mended s e e
  | swap {e e' : Expr} {fault : Fault} (h : e.value s = .error fault) : Mended s e e'
  | not {e e' : Expr} (h : Mended s e e') : Mended s (not e) (not e')
  | and {a a' b b' : Expr} (ha : Mended s a a') (hb : Mended s b b') :
    Mended s (and a b) (and a' b')
  | or {a a' b b' : Expr} (ha : Mended s a a') (hb : Mended s b b') : Mended s (or a b) (or a' b')
  | compare {a a' b b' : Expr} (op : Comparison) (ha : Mended s a a') (hb : Mended s b b') :
    Mended s (compare a op b) (compare a' op b')
  | within {a a' b b' : Expr} (negated : Bool) (ha : Mended s a a') (hb : Mended s b b') :
    Mended s (within a b negated) (within a' b' negated)

theorem stays_holds_of_value (h : Stays (e.value s) (e'.value s)) :
    Stays (e.holds s) (e'.holds s) := by
  rw [holds_eq_map_truthy, holds_eq_map_truthy]
  exact h.map Value.truthy

-- Each constructor passes on the outcomes of its parts in the order in which it asks for them, and
-- what it does with them is the same on both sides.
theorem Mended.stays (h : Mended s e e') : Stays (e.value s) (e'.value s) := by
  induction h with
  | keep e => exact .refl _
  | swap hFault => exact .of_error hFault _
  | not _ ih =>
    simp only [value]
    exact (stays_holds_of_value ih).bind fun _ => .refl _
  | and _ _ iha ihb =>
    simp only [value]
    apply (stays_holds_of_value iha).bind
    rintro (_ | _)
    · exact .refl _
    · exact (stays_holds_of_value ihb).bind fun _ => .refl _
  | or _ _ iha ihb =>
    simp only [value]
    apply (stays_holds_of_value iha).bind
    rintro (_ | _)
    · exact (stays_holds_of_value ihb).bind fun _ => .refl _
    · exact .refl _
  | compare op _ _ iha ihb =>
    simp only [value]
    exact iha.bind fun _ => ihb.bind fun _ => .refl _
  | within negated _ _ iha ihb =>
    simp only [value]
    exact iha.bind fun _ => ihb.bind fun _ => .refl _

/-- An answer does not depend on the parts that fail, be it taken as an operand or as a condition;
the two readings go together, and only kinds that do not fit make an evaluation fail. -/
theorem answer_independent_of_faults (s : Scene) (e : Expr) :
    (∀ e', Mended s e e' →
      (∀ v, e.value s = .ok v → e'.value s = .ok v) ∧
        ∀ b, e.holds s = .ok b → e'.holds s = .ok b) ∧
    e.holds s = (e.value s).map Value.truthy ∧
    ∀ fault, e.value s = .error fault ∨ e.holds s = .error fault →
      ∃ kinds, fault = .kindMismatch kinds := by
  refine ⟨fun e' h => ⟨h.stays, stays_holds_of_value h.stays⟩, holds_eq_map_truthy s e, ?_⟩
  rintro fault (hValue | hHolds)
  · exact failsByKind_value s e fault hValue
  · exact failsByKind_holds_of_value (failsByKind_value s e) fault hHolds

def noon : Scene := ⟨12, 0, .monday, [], []⟩

/-- The question whether one truth value is a member of another. -/
def misfit : Expr := .within (.bool true) (.bool true) false

theorem answer_independent_of_faults_false :
    Mended noon (and (bool false) (not misfit)) (and (bool false) (not (bool false))) ∧
    (and (bool false) (not misfit)).holds noon = .ok false ∧
    (and (bool false) (not (bool false))).holds noon = .ok false ∧
    misfit.holds noon = .error (.kindMismatch (.memberOf "boolean")) := by
  have hFails : misfit.value noon = .error (.kindMismatch (.memberOf "boolean")) := rfl
  have hMended : Mended noon (and (bool false) (not misfit)) (and (bool false) (not (bool false))) :=
    .and (.keep _) (.not (.swap hFails))
  exact ⟨hMended, rfl, ((answer_independent_of_faults noon _).1 _ hMended).2 false rfl, rfl⟩

end Expr

end Household.Condition
