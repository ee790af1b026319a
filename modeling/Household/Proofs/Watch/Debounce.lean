import Mathlib.Algebra.Order.Floor.Div
import Mathlib.Data.List.Chain
import Household.Proofs.Watch.History
import Household.Watch.Lookout
import Household.Watch.Timing

/-! # When content is handled

A file is looked at in regular intervals. Content is handled at the first look at which it has been
found without a break for the debounce time, unless it was handled last. What a watcher remembers
of the past is one sighting, and this sighting is the beginning of the unbroken run of looks that
found the content.
-/

set_option autoImplicit false

namespace Household

namespace Watcher

theorem hasSettled_iff {w : Watcher} {now : Nat} {digest : String} :
    w.hasSettled now digest = true ↔ w.debounce ≤ now - w.firstSeen now digest := by
  rw [hasSettled, decide_eq_true_iff]

theorem firstSeen_of_pending {w : Watcher} {digest : String} {since : Nat}
    (h : w.pending = some ⟨digest, since⟩) (now : Nat) : w.firstSeen now digest = since := by
  rw [firstSeen, h]
  exact if_pos rfl

theorem firstSeen_eq (w : Watcher) (now : Nat) (digest : String) :
    w.pending = some ⟨digest, w.firstSeen now digest⟩ ∨ w.firstSeen now digest = now := by
  rw [firstSeen]
  split
  · rename_i sighting hPending
    by_cases hSame : sighting.digest = digest
    · subst hSame
      exact Or.inl (by rw [hPending, if_pos rfl])
    · exact Or.inr (if_neg hSame)
  · exact Or.inr rfl

theorem debounce_poll (w : Watcher) (now : Nat) (file : Option (List UInt8)) :
    (w.poll now file).debounce = w.debounce := by
  cases hRipe : w.ripe? now file with
  | some content =>
    rw [poll_of_ripe hRipe, handle]
    split <;> rfl
  | none =>
    obtain ⟨pending, hPoll⟩ := exists_pending_of_not_ripe hRipe
    rw [hPoll]

/-- A sighting stays after a look exactly if the look found new content that has not settled. -/
theorem pending_poll_eq_some_iff {w : Watcher} {now : Nat} {file : Option (List UInt8)}
    {s : Sighting} :
    (w.poll now file).pending = some s ↔
      ∃ content, file = some content ∧ w.handled ≠ some (Digest.ofBytes content) ∧
        w.ripe? now file = none ∧
          s = ⟨Digest.ofBytes content, w.firstSeen now (Digest.ofBytes content)⟩ := by
  cases hRipe : w.ripe? now file with
  | some content => simp [poll_of_ripe hRipe]
  | none =>
    cases file with
    | none => simp
    | some content =>
      by_cases hSame : w.handled = some (Digest.ofBytes content)
      · simp [poll, hSame]
      · have hUnsettled : ¬w.hasSettled now (Digest.ofBytes content) = true := by
          intro hSettled
          rw [ripe?_eq_some_iff.mpr ⟨rfl, hSame, hSettled⟩] at hRipe
          cases hRipe
        rw [poll, if_neg hSame, if_neg hUnsettled]
        simp [hSame, eq_comm]

end Watcher

/-- A file that is looked at in regular intervals. Look number `n`, counted from zero, finds
`found n`. -/
structure Vigil where
  path : String
  timing : Timing
  layers : Layers
  initial : Option (List UInt8)
  found : Nat → Option (List UInt8)

namespace Vigil

def put : Option (List UInt8) → WatchMove
  | some content => .write content
  | none => .remove

def moves (v : Vigil) : Nat → List WatchMove
  | 0 => []
  | n + 1 => v.moves n ++ [put (v.found n), .look (n * v.timing.step)]

def watch (v : Vigil) (n : Nat) : Watch :=
  (Watch.start v.path v.timing.debounce v.layers v.initial).run (v.moves n)

def handled (v : Vigil) (n : Nat) : List (List UInt8) := (v.watch n).log

def lastHandled (v : Vigil) (n : Nat) : Option (List UInt8) := (v.handled n).getLast?.or v.initial

def Handles (v : Vigil) (n : Nat) (content : List UInt8) : Prop :=
  v.handled (n + 1) = v.handled n ++ [content]

/-- The looks from number `m` on, up to number `n` exclusive, find the content. -/
def FindsFrom (v : Vigil) (m n : Nat) (content : List UInt8) : Prop :=
  ∀ k, m ≤ k → k < n → v.found k = some content

/-- Every content that the watcher ever sees. -/
def contents (v : Vigil) : Set (List UInt8) :=
  {content | v.initial = some content ∨ ∃ n, v.found n = some content}

variable {v : Vigil} {m n : Nat} {content : List UInt8}

/-! ## One look -/

theorem watch_succ (v : Vigil) (n : Nat) :
    v.watch (n + 1) =
      { watcher := (v.watch n).watcher.poll (n * v.timing.step) (v.found n)
        file := v.found n
        log := v.handled n ++
          ((v.watch n).watcher.ripe? (n * v.timing.step) (v.found n)).toList } := by
  have hRun : v.watch (n + 1) =
      ((v.watch n).step (put (v.found n))).step (.look (n * v.timing.step)) := by
    simp [watch, moves, Watch.run]
  have hPut : (v.watch n).step (put (v.found n)) =
      ⟨(v.watch n).watcher, v.found n, v.handled n⟩ := by
    cases hFound : v.found n <;>
      simp [put, Watch.step, Watch.watcherAfter, Watch.fileAfter, Watch.taken?, handled]
  rw [hRun, hPut]
  rfl

theorem handles_iff_ripe :
    v.Handles n content ↔
      (v.watch n).watcher.ripe? (n * v.timing.step) (v.found n) = some content := by
  rw [Handles, handled, watch_succ, List.append_cancel_left_eq]
  cases (v.watch n).watcher.ripe? (n * v.timing.step) (v.found n) <;> simp

theorem ripe_eq_none_of_not_handles (h : ∀ content, ¬v.Handles n content) :
    (v.watch n).watcher.ripe? (n * v.timing.step) (v.found n) = none := by
  rw [Option.eq_none_iff_forall_ne_some]
  exact fun content hSome => h content (handles_iff_ripe.mpr hSome)

theorem handled_succ_of_not_handles (h : ∀ content, ¬v.Handles n content) :
    v.handled (n + 1) = v.handled n := by
  rw [handled, watch_succ, ripe_eq_none_of_not_handles h]
  exact List.append_nil _

theorem found_of_handles (h : v.Handles n content) : v.found n = some content :=
  (Watcher.ripe?_eq_some_iff.mp (handles_iff_ripe.mp h)).1

theorem lastHandled_succ_of_handles (h : v.Handles n content) :
    v.lastHandled (n + 1) = some content := by
  rw [lastHandled, h]
  simp

theorem lastHandled_eq_of_forall_not_handles (hLe : m ≤ n)
    (h : ∀ k, m ≤ k → k < n → ∀ content, ¬v.Handles k content) :
    v.lastHandled n = v.lastHandled m := by
  induction n, hLe using Nat.le_induction with
  | base => rfl
  | succ n hLe ih =>
    have hSame := handled_succ_of_not_handles (h n hLe n.lt_succ_self)
    rw [lastHandled, hSame]
    exact ih fun k hmk hkn => h k hmk (hkn.trans n.lt_succ_self)

theorem exists_found_of_mem_handled (h : content ∈ v.handled n) :
    ∃ k, v.found k = some content := by
  induction n with
  | zero => cases h
  | succ n ih =>
    rw [handled, watch_succ] at h
    rcases List.mem_append.mp h with h | h
    · exact ih h
    · exact ⟨n, found_of_handles (handles_iff_ripe.mpr (Option.mem_toList.mp h))⟩

theorem mem_contents_of_lastHandled (h : v.lastHandled n = some content) :
    content ∈ v.contents := by
  rcases Option.or_eq_some_iff.mp h with h | ⟨-, h⟩
  · exact Or.inr (exists_found_of_mem_handled (List.mem_of_getLast? h))
  · exact Or.inl h

theorem debounce_watch (v : Vigil) (n : Nat) :
    (v.watch n).watcher.debounce = v.timing.debounce := by
  induction n with
  | zero => rfl
  | succ n ih =>
    rw [watch_succ]
    exact (Watcher.debounce_poll _ _ _).trans ih

/-- If no two contents share a digest, content is new to the watcher unless it was handled last. -/
theorem handled_ne_iff (hDigest : v.contents.InjOn Digest.ofBytes)
    (hFound : v.found n = some content) :
    (v.watch n).watcher.handled ≠ some (Digest.ofBytes content) ↔
      v.lastHandled n ≠ some content := by
  have hHandled : (v.watch n).watcher.handled = (v.lastHandled n).map Digest.ofBytes :=
    (Watch.FollowsLog.run v.timing.debounce (v.moves n)).handled
  rw [hHandled, ne_eq, Option.map_eq_some_iff]
  refine not_congr ⟨?_, fun h => ⟨content, h, rfl⟩⟩
  rintro ⟨last, hLast, hSame⟩
  have hEq := hDigest (mem_contents_of_lastHandled hLast) (Or.inr ⟨n, hFound⟩) hSame
  exact hEq ▸ hLast

/-! ## The sighting

What is pending before a look is the beginning of the run of looks that found the content so far.
-/

theorem FindsFrom.snoc (h : v.FindsFrom m n content) (hFound : v.found n = some content) :
    v.FindsFrom m (n + 1) content := by
  intro k hmk hkn
  rcases Nat.lt_succ_iff_lt_or_eq.mp hkn with hkn | rfl
  · exact h k hmk hkn
  · exact hFound

theorem FindsFrom.init (h : v.FindsFrom m (n + 1) content) : v.FindsFrom m n content :=
  fun k hmk hkn => h k hmk (hkn.trans n.lt_succ_self)

structure Remembers (v : Vigil) (n : Nat) : Prop where
  since : ∀ s, (v.watch n).watcher.pending = some s → ∃ m < n, ∃ content,
    s = ⟨Digest.ofBytes content, m * v.timing.step⟩ ∧ v.FindsFrom m n content
  kept : ∀ m content, m < n → v.FindsFrom m n content → v.lastHandled n ≠ some content →
    ∃ since ≤ m * v.timing.step,
      (v.watch n).watcher.pending = some ⟨Digest.ofBytes content, since⟩

theorem Remembers.exists_firstSeen_eq (h : v.Remembers n)
    (hDigest : v.contents.InjOn Digest.ofBytes) (hFound : v.found n = some content) :
    ∃ m ≤ n, (v.watch n).watcher.firstSeen (n * v.timing.step) (Digest.ofBytes content) =
      m * v.timing.step ∧ v.FindsFrom m (n + 1) content := by
  rcases Watcher.firstSeen_eq (v.watch n).watcher (n * v.timing.step) (Digest.ofBytes content) with
    hPending | hNow
  · obtain ⟨m, hmn, seen, hSighting, hRun⟩ := h.since _ hPending
    obtain ⟨hSame, hSince⟩ := Sighting.mk.inj hSighting
    have hSeen : v.found m = some seen := hRun m le_rfl hmn
    have hEq : content = seen := hDigest (Or.inr ⟨n, hFound⟩) (Or.inr ⟨m, hSeen⟩) hSame
    subst hEq
    exact ⟨m, hmn.le, hSince, hRun.snoc hFound⟩
  · refine ⟨n, le_rfl, hNow, ?_⟩
    intro k hnk hkn
    rwa [Nat.le_antisymm (Nat.lt_succ_iff.mp hkn) hnk]

theorem Remembers.firstSeen_le (h : v.Remembers n) (hDigest : v.contents.InjOn Digest.ofBytes)
    (hmn : m ≤ n) (hRun : v.FindsFrom m (n + 1) content)
    (hNew : v.lastHandled n ≠ some content) :
    (v.watch n).watcher.firstSeen (n * v.timing.step) (Digest.ofBytes content) ≤
      m * v.timing.step := by
  rcases hmn.lt_or_eq with hmn | rfl
  · obtain ⟨since, hSince, hPending⟩ := h.kept m content hmn hRun.init hNew
    rwa [Watcher.firstSeen_of_pending hPending]
  · have hFound := hRun m le_rfl m.lt_succ_self
    obtain ⟨k, hkm, hFirst, -⟩ := h.exists_firstSeen_eq hDigest hFound
    rw [hFirst]
    exact Nat.mul_le_mul_right _ hkm

theorem Remembers.succ (h : v.Remembers n) (hDigest : v.contents.InjOn Digest.ofBytes) :
    v.Remembers (n + 1) where
  since s hPending := by
    rw [watch_succ] at hPending
    obtain ⟨content, hFound, -, -, rfl⟩ := Watcher.pending_poll_eq_some_iff.mp hPending
    obtain ⟨m, hmn, hFirst, hRun⟩ := h.exists_firstSeen_eq hDigest hFound
    exact ⟨m, Nat.lt_succ_of_le hmn, content, by rw [hFirst], hRun⟩
  kept m content hmn hRun hNew := by
    have hmn : m ≤ n := Nat.lt_succ_iff.mp hmn
    have hFound : v.found n = some content := hRun n hmn n.lt_succ_self
    -- Handling the content now would make it the content handled last.
    have hIdle : ∀ other, ¬v.Handles n other := by
      intro other hOther
      have hSame : some other = some content := (found_of_handles hOther).symm.trans hFound
      exact hNew (hSame ▸ lastHandled_succ_of_handles hOther)
    have hNew : v.lastHandled n ≠ some content := by
      rwa [lastHandled, handled_succ_of_not_handles hIdle] at hNew
    refine ⟨_, h.firstSeen_le hDigest hmn hRun hNew, ?_⟩
    rw [watch_succ]
    refine Watcher.pending_poll_eq_some_iff.mpr ⟨content, hFound, ?_, ?_, rfl⟩
    · exact (handled_ne_iff hDigest hFound).mpr hNew
    · exact ripe_eq_none_of_not_handles hIdle

theorem remembers (hDigest : v.contents.InjOn Digest.ofBytes) (n : Nat) : v.Remembers n := by
  induction n with
  | zero =>
    refine ⟨?_, fun m content hm => absurd hm (Nat.not_lt_zero m)⟩
    intro s hPending
    cases hPending
  | succ n ih => exact ih.succ hDigest

/-! ## When content is handled -/

theorem handles_iff (hDigest : v.contents.InjOn Digest.ofBytes) :
    v.Handles n content ↔
      v.found n = some content ∧ v.lastHandled n ≠ some content ∧
        ∃ m ≤ n, v.FindsFrom m (n + 1) content ∧
          v.timing.debounce ≤ (n - m) * v.timing.step := by
  have hRemembers := remembers hDigest n
  rw [handles_iff_ripe, Watcher.ripe?_eq_some_iff, Watcher.hasSettled_iff, debounce_watch]
  refine and_congr_right fun hFound => ?_
  rw [handled_ne_iff hDigest hFound]
  refine and_congr_right fun hNew => ?_
  constructor
  · intro hSettled
    obtain ⟨m, hmn, hFirst, hRun⟩ := hRemembers.exists_firstSeen_eq hDigest hFound
    refine ⟨m, hmn, hRun, ?_⟩
    rwa [hFirst, ← Nat.sub_mul] at hSettled
  · rintro ⟨m, hmn, hRun, hLong⟩
    have hFirst := hRemembers.firstSeen_le hDigest hmn hRun hNew
    rw [Nat.sub_mul] at hLong
    omega

theorem lastHandled_ne_of_handles (hDigest : v.contents.InjOn Digest.ofBytes)
    (h : v.Handles n content) : v.lastHandled n ≠ some content :=
  ((handles_iff hDigest).mp h).2.1

theorem isChain_handled (hDigest : v.contents.InjOn Digest.ofBytes) (n : Nat) :
    (v.initial.toList ++ v.handled n).IsChain (· ≠ ·) := by
  induction n with
  | zero =>
    cases hInitial : v.initial <;> simp [handled, watch, moves, Watch.run, Watch.start]
  | succ n ih =>
    by_cases hHandles : ∃ content, v.Handles n content
    · obtain ⟨content, hContent⟩ := hHandles
      have hLast := lastHandled_ne_of_handles hDigest hContent
      rw [hContent, ← List.append_assoc, List.isChain_append]
      refine ⟨ih, List.isChain_singleton _, ?_⟩
      intro last hLastMem next hNext hSame
      obtain rfl : content = next := by simpa using hNext
      subst hSame
      have hInitial : v.initial.toList.getLast? = v.initial := by cases v.initial <;> rfl
      rw [List.getLast?_append, hInitial] at hLastMem
      exact hLast hLastMem
    · rwa [handled_succ_of_not_handles fun content h => hHandles ⟨content, h⟩]

/-- A look that found something else starts the wait anew. -/
theorem debounce_le_of_found_ne (hDigest : v.contents.InjOn Digest.ofBytes)
    (h : v.Handles n content) {k : Nat} (hkn : k ≤ n) (hOther : v.found k ≠ some content) :
    k < n ∧ v.timing.debounce ≤ (n - (k + 1)) * v.timing.step := by
  obtain ⟨hFound, -, m, hmn, hRun, hLong⟩ := (handles_iff hDigest).mp h
  have hkm : k < m := by
    by_contra hmk
    exact hOther (hRun k (Nat.le_of_not_lt hmk) (Nat.lt_succ_of_le hkn))
  have hLess : n - m ≤ n - (k + 1) := by omega
  exact ⟨hkm.trans_le hmn, hLong.trans (Nat.mul_le_mul_right _ hLess)⟩

theorem ceilDiv_le_of_handles (hDigest : v.contents.InjOn Digest.ofBytes)
    (hFirst : ∀ k, k + 1 = m → v.found k ≠ some content) (hmn : m ≤ n)
    (h : v.Handles n content) : m + v.timing.debounce ⌈/⌉ v.timing.step ≤ n := by
  have hLong : v.timing.debounce ≤ v.timing.step * (n - m) := by
    rw [Nat.mul_comm]
    cases m with
    | zero =>
      obtain ⟨-, -, k, -, -, hLong⟩ := (handles_iff hDigest).mp h
      exact hLong.trans (Nat.mul_le_mul_right _ (Nat.sub_le_sub_left k.zero_le n))
    | succ k => exact (debounce_le_of_found_ne hDigest h (by omega) (hFirst k rfl)).2
  have hCeil := (ceilDiv_le_iff_le_mul v.timing.step_pos).mpr hLong
  omega

/-- New content that stays is handled once, as soon as it has been there for the debounce time. -/
theorem handles_iff_of_findsFrom (hDigest : v.contents.InjOn Digest.ofBytes) {last : Nat}
    (hFirst : ∀ k, k + 1 = m → v.found k ≠ some content)
    (hRun : v.FindsFrom m (last + 1) content) (hNew : v.lastHandled m ≠ some content)
    (hmn : m ≤ n) (hnl : n ≤ last) :
    v.Handles n content ↔ n = m + v.timing.debounce ⌈/⌉ v.timing.step := by
  have hOnly : ∀ k other, m ≤ k → k ≤ last → v.Handles k other → other = content := by
    intro k other hmk hkl hOther
    have hSame := (found_of_handles hOther).symm.trans (hRun k hmk (Nat.lt_succ_of_le hkl))
    exact Option.some.inj hSame
  have hHandles : m + v.timing.debounce ⌈/⌉ v.timing.step ≤ last →
      v.Handles (m + v.timing.debounce ⌈/⌉ v.timing.step) content := by
    intro hCeil
    -- Nothing is handled before, so the content is still new.
    have hSame := lastHandled_eq_of_forall_not_handles (v := v) (m := m)
      (n := m + v.timing.debounce ⌈/⌉ v.timing.step) (Nat.le_add_right _ _) (by
        intro k hmk hk other hOther
        obtain rfl := hOnly k other hmk (by omega) hOther
        have hLate := ceilDiv_le_of_handles hDigest hFirst hmk hOther
        omega)
    refine (handles_iff hDigest).mpr ⟨hRun _ (by omega) (by omega), hSame ▸ hNew, m, by omega,
      fun k hmk hk => hRun k hmk (by omega), ?_⟩
    rw [Nat.add_sub_cancel_left, Nat.mul_comm]
    exact (ceilDiv_le_iff_le_mul v.timing.step_pos).mp le_rfl
  constructor
  · intro h
    have hLate := ceilDiv_le_of_handles hDigest hFirst hmn h
    by_contra hne
    -- After it has been handled the content is never new while it stays.
    have hLast : ∀ k, m + v.timing.debounce ⌈/⌉ v.timing.step < k → k ≤ n →
        v.lastHandled k = some content := by
      intro k hk
      induction k, hk using Nat.le_induction with
      | base => exact fun _ => lastHandled_succ_of_handles (hHandles (by omega))
      | succ k hk ih =>
        intro hkn
        have hPrevious := ih (by omega)
        refine (lastHandled_eq_of_forall_not_handles k.le_succ ?_).trans hPrevious
        intro j hkj hjk other hOther
        obtain rfl : j = k := by omega
        obtain rfl := hOnly j other (by omega) (by omega) hOther
        exact lastHandled_ne_of_handles hDigest hOther hPrevious
    exact lastHandled_ne_of_handles hDigest h (hLast n (by omega) le_rfl)
  · rintro rfl
    exact hHandles hnl

/-- What the looks of a vigil do, one clause for each thing that can be observed. -/
structure Debounced (v : Vigil) : Prop where
  handles : ∀ n content, v.Handles n content ↔
    v.found n = some content ∧ v.lastHandled n ≠ some content ∧
      ∃ m ≤ n, (∀ k, m ≤ k → k ≤ n → v.found k = some content) ∧
        v.timing.debounce ≤ (n - m) * v.timing.step
  outcome : ∀ n content, v.Handles n content →
    (v.watch (n + 1)).watcher.layers =
        (Layers.valid? v.path content).getD (v.watch n).watcher.layers ∧
      (v.watch (n + 1)).watcher.events =
        (v.watch n).watcher.events.offer ((v.watch n).watcher.handle content).2
  idle : ∀ n, (∀ content, ¬v.Handles n content) →
    (v.watch (n + 1)).watcher.layers = (v.watch n).watcher.layers ∧
      (v.watch (n + 1)).watcher.events = (v.watch n).watcher.events ∧
        v.lastHandled (n + 1) = v.lastHandled n
  alternating : ∀ n, (v.initial.toList ++ v.handled n).IsChain (· ≠ ·)
  restarted : ∀ n content k, v.Handles n content → k ≤ n → v.found k ≠ some content →
    k < n ∧ v.timing.debounce ≤ (n - (k + 1)) * v.timing.step
  punctual : ∀ m last content, (∀ k, k + 1 = m → v.found k ≠ some content) →
    (∀ k, m ≤ k → k ≤ last → v.found k = some content) → v.lastHandled m ≠ some content →
      ∀ n, m ≤ n → n ≤ last →
        (v.Handles n content ↔ n = m + v.timing.debounce ⌈/⌉ v.timing.step)

theorem outcome_of_handles (h : v.Handles n content) :
    (v.watch (n + 1)).watcher.layers =
        (Layers.valid? v.path content).getD (v.watch n).watcher.layers ∧
      (v.watch (n + 1)).watcher.events =
        (v.watch n).watcher.events.offer ((v.watch n).watcher.handle content).2 := by
  have hPath : (v.watch n).watcher.path = v.path :=
    (Watch.FollowsLog.run v.timing.debounce (v.moves n)).samePath
  rw [watch_succ, Watcher.poll_of_ripe (handles_iff_ripe.mp h), ← hPath]
  exact ⟨Watcher.layers_handle_eq_getD _ _, rfl⟩

theorem idle_of_not_handles (h : ∀ content, ¬v.Handles n content) :
    (v.watch (n + 1)).watcher.layers = (v.watch n).watcher.layers ∧
      (v.watch (n + 1)).watcher.events = (v.watch n).watcher.events ∧
        v.lastHandled (n + 1) = v.lastHandled n := by
  obtain ⟨pending, hPoll⟩ := Watcher.exists_pending_of_not_ripe (ripe_eq_none_of_not_handles h)
  rw [lastHandled, handled_succ_of_not_handles h, watch_succ, hPoll]
  exact ⟨rfl, rfl, rfl⟩

/-- As long as no two contents share a digest, the looks handle exactly what has lasted. -/
theorem debounced_of_injOn (v : Vigil) (hDigest : v.contents.InjOn Digest.ofBytes) :
    v.Debounced where
  handles n content := by
    simpa only [FindsFrom, Nat.lt_succ_iff] using handles_iff hDigest
  outcome n content h := outcome_of_handles h
  idle n h := idle_of_not_handles h
  alternating n := isChain_handled hDigest n
  restarted n content k h hkn hOther := debounce_le_of_found_ne hDigest h hkn hOther
  punctual m last content hFirst hRun hNew n hmn hnl :=
    handles_iff_of_findsFrom hDigest hFirst (fun k hmk hk => hRun k hmk (Nat.lt_succ_iff.mp hk))
      hNew hmn hnl

/-- Draft content that disappears for one look and then stays. -/
def interrupted : Vigil where
  path := "profiles.toml"
  timing := ⟨10, 15⟩
  layers := .empty
  initial := some []
  found n := if n = 1 then none else some [10]

theorem contents_interrupted : interrupted.contents.InjOn Digest.ofBytes := by
  have hApart : Digest.ofBytes [] ≠ Digest.ofBytes [10] := by decide +kernel
  have hOneOf : ∀ content ∈ interrupted.contents, content = [] ∨ content = [10] := by
    rintro content (hInitial | ⟨n, hFound⟩)
    · exact Or.inl (Option.some.inj hInitial).symm
    · simp only [interrupted] at hFound
      split at hFound
      · cases hFound
      · exact Or.inr (Option.some.inj hFound).symm
  intro a ha b hb hSame
  rcases hOneOf a ha with rfl | rfl <;> rcases hOneOf b hb with rfl | rfl
  · rfl
  · exact absurd hSame hApart
  · exact absurd hSame.symm hApart
  · rfl

theorem debounced_interrupted :
    interrupted.contents.InjOn Digest.ofBytes ∧ interrupted.Debounced ∧
      ∀ n, 2 ≤ n → (interrupted.Handles n [10] ↔ n = 4) := by
  have hDebounced := debounced_of_injOn interrupted contents_interrupted
  refine ⟨contents_interrupted, hDebounced, ?_⟩
  intro n hn
  refine hDebounced.punctual 2 n [10] ?_ ?_ (by decide +kernel) n hn le_rfl
  · intro k hk
    obtain rfl : k = 1 := by omega
    simp [interrupted]
  · intro k hk _
    exact if_neg (by omega)

end Vigil

namespace Lookout

/-- The lookout has taken the looks of the vigil that were due so far. -/
structure Keeps (v : Vigil) (l : Lookout) : Prop where
  step : l.step = v.timing.step
  watcher : l.watcher = (v.watch l.looks).watcher

variable {v : Vigil}

theorem Keeps.start :
    Keeps v (.start (.start v.path v.timing.debounce v.layers v.initial) v.timing.step) :=
  ⟨rfl, rfl⟩

theorem watcher_looks (v : Vigil) {first count : Nat} {file : Option (List UInt8)}
    (h : ∀ n, first ≤ n → n < first + count → v.found n = file) :
    ((List.range' first count).map (· * v.timing.step)).foldl (fun w now => w.poll now file)
      (v.watch first).watcher = (v.watch (first + count)).watcher := by
  induction count generalizing first with
  | zero => rfl
  | succ count ih =>
    have hFirst : (v.watch (first + 1)).watcher =
        (v.watch first).watcher.poll (first * v.timing.step) file := by
      rw [Vigil.watch_succ, h first le_rfl (by omega)]
    rw [List.range'_succ, List.map_cons, List.foldl_cons, ← hFirst,
      ih fun n hfn hn => h n (by omega) (by omega), Nat.add_right_comm]
    rfl

/-- However time is cut into stretches, a lookout takes every look of the vigil, once and in
order, as long as each look finds what the stretch says. -/
theorem Keeps.advance {l : Lookout} (h : l.Keeps v) {ms : Nat} {file : Option (List UInt8)}
    (hFound : ∀ n, l.looks ≤ n → n < (l.advance ms file).looks → v.found n = file) :
    (l.advance ms file).Keeps v := by
  have hCount : (l.due ms).length = (l.elapsed + ms) / l.step + 1 - l.looks := by simp [due]
  refine ⟨h.step, ?_⟩
  have hLooks : (l.advance ms file).looks = l.looks + (l.due ms).length := rfl
  rw [hLooks] at hFound ⊢
  rw [hCount] at hFound ⊢
  rw [← watcher_looks v hFound, ← h.watcher, ← h.step]
  rfl

end Lookout

end Household
