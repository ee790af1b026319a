import Household.Proofs.Condition.Descent
import Household.Proofs.Condition.Faults

/-! # Bounded trees from bounded texts

Reading a condition comes to an end for every text, at a depth of no more than 64 levels, and a tree
has no more nodes than the 1024 tokens that a condition may have. However a text nests or chains
its parts, evaluating its tree needs no more calls within each other than twice that many.
-/

set_option autoImplicit false

namespace Household.Condition

open Household.Text

/-! ## Scanning -/

theorem length_le_of_readToken {c : Char} {s rest : List Char} {t : Token}
    (h : readToken c s = .ok (t, rest)) : rest.length ≤ s.length := by
  have hEquals {long short : Token} (hSame : Except.ok (withEquals long short s) =
      (.ok (t, rest) : Except LexFault (Token × List Char))) : rest.length ≤ s.length := by
    have hLength := length_withEquals_le long short s
    rw [Except.ok.inj hSame] at hLength
    exact hLength
  unfold readToken at h
  split at h
  · cases h
    exact Nat.le_refl _
  · cases h
    exact Nat.le_refl _
  · cases h
    exact Nat.le_refl _
  · exact hEquals h
  · exact hEquals h
  · exact hEquals h
  · exact hEquals h
  · split at h <;> cases h
    exact Nat.le_succ _
  · split at h <;> cases h
    exact Nat.le_succ _
  · split at h
    · split at h <;> cases h
      exact Nat.le_of_lt (length_readQuoted_lt ‹_›)
    · split at h
      · simp only at h
        split at h <;> cases h
        exact length_dropWhile_le _ _
      · split at h <;> cases h
        exact length_dropWhile_le _ _

/-- A scan of a text, character by character, with its outcome. -/
inductive Scans : List Char → Except LexFault (List Token) → Prop
  | done : Scans [] (.ok [])
  | gap {c : Char} {s : List Char} {o : Except LexFault (List Token)}
      (hGap : isTokenGap c = true) (more : Scans s o) : Scans (c :: s) o
  | fault {c : Char} {s : List Char} {fault : LexFault} (hGap : isTokenGap c = false)
      (hRead : readToken c s = .error fault) : Scans (c :: s) (.error fault)
  | token {c : Char} {s rest : List Char} {t : Token} {o : Except LexFault (List Token)}
      (hGap : isTokenGap c = false) (hRead : readToken c s = .ok (t, rest))
      (more : Scans rest o) : Scans (c :: s) (o.map (t :: ·))

namespace Scans

variable {s : List Char} {o : Except LexFault (List Token)}

theorem tokensFrom_eq (h : Scans s o) {fuel : Nat} (hFuel : s.length ≤ fuel) :
    tokensFrom fuel s = o := by
  induction h generalizing fuel with
  | done => cases fuel <;> rfl
  | gap hGap _ ih =>
    obtain ⟨fuel, rfl⟩ := Nat.exists_eq_add_of_le' (Nat.one_le_of_lt hFuel)
    rw [tokensFrom, if_pos hGap]
    exact ih (Nat.le_of_succ_le_succ hFuel)
  | fault hGap hRead =>
    obtain ⟨fuel, rfl⟩ := Nat.exists_eq_add_of_le' (Nat.one_le_of_lt hFuel)
    simp [tokensFrom, hGap, hRead]
  | token hGap hRead _ ih =>
    obtain ⟨fuel, rfl⟩ := Nat.exists_eq_add_of_le' (Nat.one_le_of_lt hFuel)
    have hRest := Nat.le_trans (length_le_of_readToken hRead) (Nat.le_of_succ_le_succ hFuel)
    simp [tokensFrom, hGap, hRead, ih hRest]

theorem tokens_eq (h : Scans s o) : tokens s = o := h.tokensFrom_eq (Nat.le_refl _)

end Scans

/-- Every text has a scan: a step takes at least one character. -/
theorem exists_scan (s : List Char) : ∃ o, Scans s o := by
  match s with
  | [] => exact ⟨_, .done⟩
  | c :: s =>
    cases hGap : isTokenGap c with
    | true =>
      obtain ⟨o, hMore⟩ := exists_scan s
      exact ⟨o, .gap hGap hMore⟩
    | false =>
      match hRead : readToken c s with
      | .error fault => exact ⟨_, .fault hGap hRead⟩
      | .ok (t, rest) =>
        have hRest := length_le_of_readToken hRead
        obtain ⟨o, hMore⟩ := exists_scan rest
        exact ⟨_, .token hGap hRead hMore⟩
termination_by s.length

/-! ## Reading a whole text -/

def finishing : Except Fault (Expr × List Token) → Except Fault Expr
  | .error fault => .error fault
  | .ok (e, []) => .ok e
  | .ok (_, rest) => malformed (.trailing rest)

/-- The way from a text to the outcome of reading it, with the number of levels gone down. -/
inductive Course (source : String) : Except Fault Expr → Nat → Prop
  | empty (hText : trim source.toList = []) : Course source (.ok (.bool true)) 0
  | lexical {fault : LexFault} (hText : trim source.toList ≠ [])
      (scan : Scans (trim source.toList) (.error fault)) :
      Course source (malformed (.lexical fault)) 0
  | tooLong {ts : List Token} (hText : trim source.toList ≠ [])
      (scan : Scans (trim source.toList) (.ok ts)) (hLong : maxTokens < ts.length) :
      Course source (malformed (.tooLong ts.length)) 0
  | read {ts : List Token} {o : Except Fault (Expr × List Token)} {levels : Nat}
      (hText : trim source.toList ≠ []) (scan : Scans (trim source.toList) (.ok ts))
      (hLength : ts.length ≤ maxTokens) (run : Runs (.read (.chain .or)) 0 ts o levels) :
      Course source (finishing o) levels

theorem exists_course (source : String) : ∃ o levels, Course source o levels := by
  by_cases hText : trim source.toList = []
  · exact ⟨_, _, .empty hText⟩
  obtain ⟨fault | ts, hScan⟩ := exists_scan (trim source.toList)
  · exact ⟨_, _, .lexical hText hScan⟩
  rcases Nat.lt_or_ge maxTokens ts.length with hLong | hLength
  · exact ⟨_, _, .tooLong hText hScan hLong⟩
  · obtain ⟨o, levels, hRun⟩ := exists_run (.read (.chain .or)) 0 ts
    exact ⟨_, _, .read hText hScan hLength hRun⟩

theorem parse_of_tokens {source : String} (hText : trim source.toList ≠ []) :
    parse source =
      match tokens (trim source.toList) with
      | .error fault => malformed (.lexical fault)
      | .ok ts => ofTokens ts := by
  unfold parse
  split
  · exact absurd ‹_› hText
  · rfl

theorem ofTokens_of_le {ts : List Token} (h : ts.length ≤ maxTokens) :
    ofTokens ts = finishing (exprAt maxDepth ts) := by
  rw [ofTokens, if_neg (Nat.not_lt.mpr h)]
  rcases exprAt maxDepth ts with fault | ⟨e, _ | ⟨t, rest⟩⟩ <;> rfl

/-- A text is read to the outcome that `parse` gives, and at most 64 levels deep. -/
theorem Course.eq_and_le {source : String} {o : Except Fault Expr} {levels : Nat}
    (h : Course source o levels) : o = parse source ∧ levels ≤ maxDepth := by
  cases h with
  | empty hText =>
    rw [parse, hText]
    exact ⟨rfl, Nat.zero_le _⟩
  | lexical hText scan =>
    rw [parse_of_tokens hText, scan.tokens_eq]
    exact ⟨rfl, Nat.zero_le _⟩
  | tooLong hText scan hLong =>
    rw [parse_of_tokens hText, scan.tokens_eq]
    exact ⟨(if_pos hLong).symm, Nat.zero_le _⟩
  | read hText scan hLength run =>
    rw [parse_of_tokens hText, scan.tokens_eq]
    refine ⟨?_, run.levels_le⟩
    rw [← run.gives]
    exact (ofTokens_of_le hLength).symm

theorem size_le_of_parse {source : String} {e : Expr} (h : parse source = .ok e) :
    e.size ≤ maxTokens := by
  obtain ⟨o, levels, hCourse⟩ := exists_course source
  obtain ⟨rfl, -⟩ := hCourse.eq_and_le
  rw [h] at hCourse
  generalize hOutcome : (Except.ok e : Except Fault Expr) = o at hCourse
  cases hCourse with
  | empty => cases hOutcome; decide
  | lexical => cases hOutcome
  | tooLong => cases hOutcome
  | @read ts o _ hText scan hLength run =>
    rcases o with fault | ⟨e', _ | ⟨t, rest⟩⟩
    · cases hOutcome
    · cases hOutcome
      obtain ⟨taken, rfl, -, hSize⟩ := (Rank.reads_reader _ _).taken run.gives
      rw [List.append_nil] at hLength
      exact Nat.le_trans hSize hLength
    · cases hOutcome

/-! ## Evaluating with a bounded stack -/

/-- An outcome, or none if there was no room for a call. -/
abbrev Stacked (α : Type) := ExceptT Fault Option α

namespace Stacked

variable {α β : Type}

def done (x : Except Fault α) : Stacked α := some x

theorem done_bind (x : Except Fault α) (f : α → Except Fault β) :
    done (x >>= f) = done x >>= fun a => done (f a) := by
  cases x <;> rfl

theorem done_map (x : Except Fault α) (f : α → β) :
    done (x.map f) = done x >>= fun a => pure (f a) := by
  cases x <;> rfl

theorem done_pure (a : α) : done (pure a) = (pure a : Stacked α) := rfl

theorem done_ite (p : Prop) [Decidable p] (x y : Except Fault α) :
    done (if p then x else y) = if p then done x else done y := apply_ite done p x y

theorem liftM_eq_done (x : Except Fault α) : (liftM x : Stacked α) = done x := rfl

end Stacked

namespace Expr

mutual

/-- Whether the tree holds, found with at most `frames` calls within each other. -/
def holdsWithin (s : Scene) : Nat → Expr → Stacked Bool
  | 0, _ => (none : Option _)
  | frames + 1, and a b => do
    if ← holdsWithin s frames a then holdsWithin s frames b else return false
  | frames + 1, or a b => do
    if ← holdsWithin s frames a then return true else holdsWithin s frames b
  | frames + 1, not e => do return !(← holdsWithin s frames e)
  | frames + 1, e => do return (← valueWithin s frames e).truthy

def valueWithin (s : Scene) : Nat → Expr → Stacked Value
  | 0, _ => (none : Option _)
  | frames + 1, compare a op b => do
    return .bool (← Value.compare (← valueWithin s frames a) op (← valueWithin s frames b))
  | frames + 1, within needle haystack negated => do
    let needle ← valueWithin s frames needle
    let haystack ← valueWithin s frames haystack
    return .bool ((← Value.contains haystack needle) != negated)
  | _ + 1, bool b => return .bool b
  | _ + 1, num x => return .num x
  | _ + 1, str text => return .str text
  | _ + 1, var v => return v.value s
  | _ + 1, call c => return c.value s
  | frames + 1, e => do return .bool (← holdsWithin s frames e)

end

open Stacked

/-- Both evaluations have room for the tree. -/
def Fits (s : Scene) (frames : Nat) (e : Expr) : Prop :=
  e.holdsWithin s frames = done (e.holds s) ∧ e.valueWithin s frames = done (e.value s)

variable {s : Scene} {e : Expr} {frames : Nat}

/-- The value of a connective takes one more call, which finds whether it holds. -/
theorem fits_of_holdsWithin (need : Nat)
    (hCall : ∀ n, e.valueWithin s (n + 1) = e.holdsWithin s n >>= fun b => pure (.bool b))
    (hValue : e.value s = (e.holds s).map .bool)
    (hHolds : ∀ n, need ≤ n → e.holdsWithin s (n + 1) = done (e.holds s))
    (hFrames : need + 2 ≤ frames) : e.Fits s frames := by
  obtain ⟨frames, rfl⟩ := Nat.exists_eq_add_of_le' (Nat.le_of_add_left_le hFrames)
  refine ⟨hHolds (frames + 1) (by omega), ?_⟩
  rw [hCall, hHolds frames (by omega), hValue, done_map]

/-- Whether any other tree holds takes one more call, which finds its value. -/
theorem fits_of_valueWithin (need : Nat)
    (hCall : ∀ n, e.holdsWithin s (n + 1) = e.valueWithin s n >>= fun v => pure v.truthy)
    (hValue : ∀ n, need ≤ n → e.valueWithin s (n + 1) = done (e.value s))
    (hFrames : need + 2 ≤ frames) : e.Fits s frames := by
  obtain ⟨frames, rfl⟩ := Nat.exists_eq_add_of_le' (Nat.le_of_add_left_le hFrames)
  refine ⟨?_, hValue (frames + 1) (by omega)⟩
  rw [hCall, hValue frames (by omega), holds_eq_map_truthy, done_map]

/-- Two calls a node are enough. -/
theorem fits_of_size_le (s : Scene) (e : Expr) (hFrames : 2 * e.size ≤ frames) :
    e.Fits s frames := by
  induction e generalizing frames with
  | bool | num | str | var | call =>
    refine fits_of_valueWithin 0 (fun n => ?_) (fun n _ => ?_) hFrames
    · simp only [holdsWithin]
    · simp only [valueWithin, value]
      rfl
  | not e ih =>
    refine fits_of_holdsWithin (2 * e.size) (fun n => ?_) ?_ (fun n hn => ?_) hFrames
    · simp only [valueWithin]
    · simp only [holds, value]
      cases e.holds s <;> rfl
    · simp only [holdsWithin, holds, (ih hn).1, done_bind, done_pure]
  | and a b iha ihb =>
    refine fits_of_holdsWithin (2 * (a.size + b.size)) (fun n => ?_) ?_ (fun n hn => ?_) hFrames
    · simp only [valueWithin]
    · simp only [holds, value]
      rcases a.holds s with fault | (_ | _)
      · rfl
      · rfl
      · cases b.holds s <;> rfl
    · have hLeft : a.Fits s n := iha (by omega)
      have hRight : b.Fits s n := ihb (by omega)
      simp only [holdsWithin, holds, hLeft.1, hRight.1, done_bind, done_pure, done_ite]
  | or a b iha ihb =>
    refine fits_of_holdsWithin (2 * (a.size + b.size)) (fun n => ?_) ?_ (fun n hn => ?_) hFrames
    · simp only [valueWithin]
    · simp only [holds, value]
      rcases a.holds s with fault | (_ | _)
      · rfl
      · cases b.holds s <;> rfl
      · rfl
    · have hLeft : a.Fits s n := iha (by omega)
      have hRight : b.Fits s n := ihb (by omega)
      simp only [holdsWithin, holds, hLeft.1, hRight.1, done_bind, done_pure, done_ite]
  | compare a op b iha ihb | within a b negated iha ihb =>
    refine fits_of_valueWithin (2 * (a.size + b.size)) (fun n => ?_) (fun n hn => ?_) hFrames
    · simp only [holdsWithin]
    · have hLeft : a.Fits s n := iha (by omega)
      have hRight : b.Fits s n := ihb (by omega)
      simp only [valueWithin, value, hLeft.2, hRight.2, done_bind, done_pure, liftM_eq_done]

end Expr

/-- At any depth every reader comes to an end without going down more levels than are left, and if
it gives a tree, it took at least one token and one for every node. So every text is read to an end,
its tree has at most 1024 nodes, and evaluating it takes at most 2048 calls within each other. -/
theorem reading_is_bounded :
    (∀ (r : Rank) (depth : Nat) (ts : List Token),
      (∃ o levels, Runs (.read r) depth ts o levels) ∧
      ∀ o levels, Runs (.read r) depth ts o levels →
        o = r.reader (64 - depth) ts ∧ levels ≤ 64 - depth ∧
        ∀ e rest, o = .ok (e, rest) →
          ∃ taken, taken ++ rest = ts ∧ taken ≠ [] ∧ e.size ≤ taken.length) ∧
    ∀ source : String,
      (∃ o levels, Course source o levels) ∧
      (∀ o levels, Course source o levels → o = parse source ∧ levels ≤ 64) ∧
      ∀ e, parse source = .ok e → e.size ≤ 1024 ∧ ∀ s, e.Fits s 2048 := by
  refine ⟨fun r depth ts => ⟨exists_run _ _ _, fun o levels hRun => ?_⟩,
    fun source => ⟨exists_course source, fun o levels => Course.eq_and_le, fun e hParse => ?_⟩⟩
  · refine ⟨hRun.gives.symm, hRun.levels_le, fun e rest hSame => ?_⟩
    exact (r.reads_reader _).taken (hRun.gives.trans hSame)
  · -- `maxTokens` nodes, and two calls for each of them
    have hSize : e.size ≤ 1024 := size_le_of_parse hParse
    exact ⟨hSize, fun s => e.fits_of_size_le s (Nat.mul_le_mul_left 2 hSize)⟩

end Household.Condition
