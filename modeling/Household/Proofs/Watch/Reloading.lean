import Household.Proofs.Watch.Debounce
import Household.Proofs.Watch.Delivery

/-! # Reloads between looks

What is pending depends on the looks alone. A look handles content if all looks of the debounce
time have found it. A reload that finds something else in the meantime leaves it pending, so the
wait does not start anew when the file is put back before the next look.
-/

set_option autoImplicit false

namespace Household

/-- Something that happens around a watcher, and when. A look knows its time. -/
structure Incident where
  time : Nat
  move : WatchMove
  onTime : ∀ now, move = .look now → now = time

structure Diary where
  incidents : List Incident
  ordered : incidents.Pairwise fun a b => a.time ≤ b.time

namespace Incident

def IsLook (m : Incident) : Prop := m.move = .look m.time

def Reads (m : Incident) : Prop := m.IsLook ∨ m.move = .reload

theorem isLook_of_move_eq {m : Incident} {now : Nat} (h : m.move = .look now) : m.IsLook := by
  rw [IsLook, h, m.onTime now h]

end Incident

theorem snoc_prefix_snoc_iff {α : Type} {as bs : List α} {a b : α} :
    as ++ [a] <+: bs ++ [b] ↔ as ++ [a] <+: bs ∨ as = bs ∧ a = b := by
  rw [List.prefix_concat_iff, or_comm]
  refine or_congr_right ⟨fun h => ?_, fun ⟨hFront, hLast⟩ => by rw [hFront, hLast]⟩
  obtain ⟨hFront, hLast⟩ := List.append_inj' h rfl
  exact ⟨hFront, List.singleton_inj.mp hLast⟩

namespace Watch

variable {s : Watch} {m first : Incident} {ms front : List Incident} {digest : String}
  {content : List UInt8}

def after (s : Watch) (ms : List Incident) : Watch := s.run (ms.map Incident.move)

theorem after_append (s : Watch) (ms : List Incident) (m : Incident) :
    s.after (ms ++ [m]) = (s.after ms).step m.move := by
  rw [after, List.map_append, List.map_singleton, run_append]
  rfl

/-- At this moment the file has content with the digest that is neither handled nor was handled
last. -/
structure Awaits (s : Watch) (m : Incident) (digest : String) : Prop where
  found : s.file.map Digest.ofBytes = some digest
  new : s.watcher.handled ≠ some digest
  idle : s.taken? m.move = none

/-- All looks after `front` await the content with the digest. -/
def AwaitsSince (s : Watch) (ms front : List Incident) (digest : String) : Prop :=
  ∀ earlier m, front <+: earlier → earlier ++ [m] <+: ms → m.IsLook →
    (s.after earlier).Awaits m digest

theorem awaitsSince_snoc_iff :
    s.AwaitsSince (ms ++ [m]) front digest ↔
      s.AwaitsSince ms front digest ∧
        (front <+: ms → m.IsLook → (s.after ms).Awaits m digest) := by
  constructor
  · intro h
    refine ⟨fun earlier r hFront hEarlier => ?_, fun hFront => h ms m hFront List.prefix_rfl⟩
    exact h earlier r hFront (hEarlier.trans (List.prefix_append ms [m]))
  · rintro ⟨hEarlier, hLast⟩ earlier r hFront hPrefix
    rcases snoc_prefix_snoc_iff.mp hPrefix with hPrefix | ⟨rfl, rfl⟩
    · exact hEarlier earlier r hFront hPrefix
    · exact hLast hFront

/-! ## What is pending -/

theorem pending_step_of_not_isLook (h : ¬m.IsLook) :
    (s.step m.move).watcher.pending = s.watcher.pending := by
  cases hMove : m.move with
  | look now => exact absurd (Incident.isLook_of_move_eq hMove) h
  | reload =>
    obtain ⟨layers, handled, hReload⟩ := s.watcher.exists_reload_eq s.file
    rw [step, watcherAfter, hReload]
  | _ => rfl

theorem pending_step_of_isLook (h : m.IsLook) {since : Nat} :
    (s.step m.move).watcher.pending = some ⟨digest, since⟩ ↔
      s.Awaits m digest ∧ since = s.watcher.firstSeen m.time digest := by
  rw [h, step, watcherAfter, Watcher.pending_poll_eq_some_iff]
  constructor
  · rintro ⟨content, hFile, hNew, hIdle, hSighting⟩
    obtain ⟨rfl, rfl⟩ := Sighting.mk.inj hSighting
    refine ⟨⟨by rw [hFile]; rfl, hNew, ?_⟩, rfl⟩
    rw [h]
    exact hIdle
  · rintro ⟨⟨hFound, hNew, hIdle⟩, rfl⟩
    obtain ⟨content, hFile, rfl⟩ := Option.map_eq_some_iff.mp hFound
    rw [h] at hIdle
    exact ⟨content, hFile, hNew, hIdle, rfl⟩

/-- What is pending has been awaited since it was first seen, and what has been awaited for longest
is pending. -/
structure Recalls (s : Watch) (ms : List Incident) : Prop where
  since : ∀ digest since, (s.after ms).watcher.pending = some ⟨digest, since⟩ →
    ∃ front first, front ++ [first] <+: ms ∧ first.IsLook ∧ first.time = since ∧
      s.AwaitsSince ms front digest
  kept : ∀ front first digest, front ++ [first] <+: ms → first.IsLook →
    s.AwaitsSince ms front digest →
      ∃ since ≤ first.time, (s.after ms).watcher.pending = some ⟨digest, since⟩

theorem Recalls.firstSeen_le (h : s.Recalls ms) (hTime : ∀ r ∈ ms, r.time ≤ m.time)
    (digest : String) : (s.after ms).watcher.firstSeen m.time digest ≤ m.time := by
  rcases Watcher.firstSeen_eq (s.after ms).watcher m.time digest with hPending | hNow
  · obtain ⟨front, first, hFirst, -, hSince, -⟩ := h.since _ _ hPending
    rw [← hSince]
    exact hTime first (hFirst.subset (by simp))
  · exact hNow.le

theorem awaitsSince_self (s : Watch) (ms : List Incident) (digest : String) :
    s.AwaitsSince ms ms digest := by
  intro earlier m hFront hEarlier
  have hLong := hFront.length_le
  have hShort := hEarlier.length_le
  rw [List.length_append, List.length_singleton] at hShort
  omega

theorem Recalls.snoc_of_isLook (h : s.Recalls ms) (hTime : ∀ r ∈ ms, r.time ≤ m.time)
    (hLook : m.IsLook) : s.Recalls (ms ++ [m]) where
  since digest since hPending := by
    rw [after_append, pending_step_of_isLook hLook] at hPending
    obtain ⟨hAwaits, rfl⟩ := hPending
    -- Either the wait had begun before, and this look goes on with it, or it begins now.
    rcases Watcher.firstSeen_eq (s.after ms).watcher m.time digest with hPending | hNow
    · obtain ⟨front, first, hFirst, hIsLook, hSince, hRun⟩ := h.since _ _ hPending
      exact ⟨front, first, hFirst.trans (List.prefix_append ms [m]), hIsLook, hSince,
        awaitsSince_snoc_iff.mpr ⟨hRun, fun _ _ => hAwaits⟩⟩
    · exact ⟨ms, m, List.prefix_rfl, hLook, hNow.symm,
        awaitsSince_snoc_iff.mpr ⟨awaitsSince_self s ms digest, fun _ _ => hAwaits⟩⟩
  kept front first digest hFirst hIsLook hRun := by
    obtain ⟨hRun, hLast⟩ := awaitsSince_snoc_iff.mp hRun
    have hAwaits : front <+: ms → (s.after ms).Awaits m digest := fun hFront => hLast hFront hLook
    rw [after_append]
    simp only [pending_step_of_isLook hLook]
    rcases snoc_prefix_snoc_iff.mp hFirst with hEarlier | ⟨rfl, rfl⟩
    · obtain ⟨since, hSince, hPending⟩ := h.kept front first digest hEarlier hIsLook hRun
      refine ⟨since, hSince, hAwaits ((List.prefix_append front [first]).trans hEarlier), ?_⟩
      rw [Watcher.firstSeen_of_pending hPending]
    · exact ⟨_, h.firstSeen_le hTime digest, hAwaits List.prefix_rfl, rfl⟩

/-- Whatever else happens, a reload included, leaves pending what is pending. -/
theorem Recalls.snoc_of_not_isLook (h : s.Recalls ms) (hLook : ¬m.IsLook) :
    s.Recalls (ms ++ [m]) where
  since digest since hPending := by
    rw [after_append, pending_step_of_not_isLook hLook] at hPending
    obtain ⟨front, first, hFirst, hIsLook, hSince, hRun⟩ := h.since _ _ hPending
    exact ⟨front, first, hFirst.trans (List.prefix_append ms [m]), hIsLook, hSince,
      awaitsSince_snoc_iff.mpr ⟨hRun, fun _ hIsLook => absurd hIsLook hLook⟩⟩
  kept front first digest hFirst hIsLook hRun := by
    rw [after_append, pending_step_of_not_isLook hLook]
    rcases snoc_prefix_snoc_iff.mp hFirst with hEarlier | ⟨-, rfl⟩
    · exact h.kept front first digest hEarlier hIsLook (awaitsSince_snoc_iff.mp hRun).1
    · exact absurd hIsLook hLook

theorem recalls (hStart : s.watcher.pending = none)
    (hOrdered : ms.Pairwise fun a b => a.time ≤ b.time) : s.Recalls ms := by
  induction ms using List.reverseRecOn with
  | nil =>
    constructor
    · intro digest since hPending
      rw [after, List.map_nil, run, List.foldl_nil, hStart] at hPending
      cases hPending
    · intro front first digest hFirst
      simp at hFirst
  | append_singleton ms m ih =>
    obtain ⟨hEarlier, -, hLast⟩ := List.pairwise_append.mp hOrdered
    by_cases hLook : m.IsLook
    · exact (ih hEarlier).snoc_of_isLook (fun r hr => hLast r hr m List.mem_cons_self) hLook
    · exact (ih hEarlier).snoc_of_not_isLook hLook

/-! ## What a look handles -/

theorem debounce_step (s : Watch) (m : WatchMove) :
    (s.step m).watcher.debounce = s.watcher.debounce := by
  cases m with
  | look now => exact s.watcher.debounce_poll now s.file
  | reload =>
    obtain ⟨layers, handled, hReload⟩ := s.watcher.exists_reload_eq s.file
    rw [step, watcherAfter, hReload]
  | _ => rfl

theorem debounce_after (s : Watch) (ms : List Incident) :
    (s.after ms).watcher.debounce = s.watcher.debounce := by
  induction ms using List.reverseRecOn with
  | nil => rfl
  | append_singleton ms m ih => rw [after_append, debounce_step, ih]

theorem Recalls.taken?_look_iff (h : s.Recalls ms) (hLook : m.IsLook) :
    (s.after ms).taken? m.move = some content ↔
      (s.after ms).file = some content ∧
        (s.after ms).watcher.handled ≠ some (Digest.ofBytes content) ∧
        (s.watcher.debounce = 0 ∨ ∃ front first, front ++ [first] <+: ms ∧ first.IsLook ∧
          s.watcher.debounce ≤ m.time - first.time ∧
            s.AwaitsSince ms front (Digest.ofBytes content)) := by
  rw [hLook, taken?, Watcher.ripe?_eq_some_iff, Watcher.hasSettled_iff, debounce_after]
  refine and_congr_right fun _ => and_congr_right fun _ => ?_
  constructor
  · intro hSettled
    rcases Watcher.firstSeen_eq (s.after ms).watcher m.time (Digest.ofBytes content) with
      hPending | hNow
    · obtain ⟨front, first, hFirst, hIsLook, hSince, hRun⟩ := h.since _ _ hPending
      exact .inr ⟨front, first, hFirst, hIsLook, hSince ▸ hSettled, hRun⟩
    · exact .inl (by omega)
  · rintro (hZero | ⟨front, first, hFirst, hIsLook, hLong, hRun⟩)
    · omega
    · obtain ⟨since, hSince, hPending⟩ := h.kept front first _ hFirst hIsLook hRun
      rw [Watcher.firstSeen_of_pending hPending]
      omega

theorem prefix_of_time_lt {before : List Incident} {r : Incident}
    (hOrdered : ms.Pairwise fun a b => a.time ≤ b.time) (hFirst : front ++ [first] <+: ms)
    (hRead : before ++ [r] <+: ms) (hLater : first.time < r.time) : front <+: before := by
  have hNotBefore : r ∉ front := by
    intro hr
    have hTimes := (List.pairwise_append.mp (hOrdered.sublist hFirst.sublist)).2.2
    exact absurd (hTimes r hr first List.mem_cons_self) (Nat.not_le_of_lt hLater)
  rcases List.prefix_or_prefix_of_prefix ((List.prefix_append front [first]).trans hFirst) hRead
    with hShort | hLong
  · rcases List.prefix_concat_iff.mp hShort with rfl | hFront
    · exact absurd (List.mem_append_right _ List.mem_cons_self) hNotBefore
    · exact hFront
  · exact absurd (hLong.subset (List.mem_append_right _ List.mem_cons_self)) hNotBefore

/-- A look handles content that is new and that all looks of the debounce time have awaited. -/
structure HandlesByLooks (s : Watch) (ms : List Incident) : Prop where
  handles_iff : ∀ earlier m content, earlier ++ [m] <+: ms → m.IsLook →
    ((s.after earlier).taken? m.move = some content ↔
      (s.after earlier).file = some content ∧
        (s.after earlier).watcher.handled ≠ some (Digest.ofBytes content) ∧
        (s.watcher.debounce = 0 ∨ ∃ front first, front ++ [first] <+: earlier ∧ first.IsLook ∧
          s.watcher.debounce ≤ m.time - first.time ∧
            s.AwaitsSince earlier front (Digest.ofBytes content)))
  looks_found : ∀ earlier m content, earlier ++ [m] <+: ms → m.IsLook →
    (s.after earlier).taken? m.move = some content →
      ∀ before r, before ++ [r] <+: earlier → r.IsLook → m.time < r.time + s.watcher.debounce →
        (s.after before).Awaits r (Digest.ofBytes content)

/-- Whatever else happens between them, reloads included, looks handle what looks have found. -/
theorem handlesByLooks (path : String) (debounce : Nat) (layers : Layers)
    (file : Option (List UInt8)) (diary : Diary) :
    (start path debounce layers file).HandlesByLooks diary.incidents where
  handles_iff earlier m content hPrefix hLook := by
    have hEarlier := (List.prefix_append earlier [m]).trans hPrefix
    exact (recalls rfl (diary.ordered.sublist hEarlier.sublist)).taken?_look_iff hLook
  looks_found earlier m content hPrefix hLook hTaken before r hRead hIsLook hRecent := by
    have hOrdered := diary.ordered.sublist hPrefix.sublist
    have hTimes := (List.pairwise_append.mp hOrdered).2.2
    have hPast := hTimes r (hRead.subset (by simp)) m List.mem_cons_self
    have hEarlier := (List.pairwise_append.mp hOrdered).1
    -- The look that began the wait came earlier than `r`, so `r` belongs to the wait.
    obtain ⟨-, -, hZero | ⟨front, first, hFirst, -, hLong, hRun⟩⟩ :=
      ((recalls rfl hEarlier).taken?_look_iff hLook).mp hTaken
    · omega
    · have hFront := prefix_of_time_lt hEarlier hFirst hRead (by omega)
      exact hRun before r hFront hRead hIsLook

/-- Content that is handled after the debounce time is what every read of that time found. -/
def Undisturbed (s : Watch) (ms : List Incident) : Prop :=
  ∀ earlier m content, earlier ++ [m] <+: ms → m.IsLook →
    (s.after earlier).taken? m.move = some content → 0 < s.watcher.debounce →
      ∀ before r, before ++ [r] <+: earlier ++ [m] → r.Reads →
        m.time ≤ r.time + s.watcher.debounce → (s.after before).file = some content

/-- A draft that a reload finds replaced, and that is put back before the next look. -/
def restored : Diary where
  incidents :=
    [⟨0, .write [10], nofun⟩, ⟨0, .look 0, by simp⟩, ⟨1, .write [35], nofun⟩, ⟨1, .reload, nofun⟩,
      ⟨1, .write [10], nofun⟩, ⟨2, .look 2, by simp⟩]
  ordered := by decide

theorem not_undisturbed_restored :
    ¬(start "home.toml" 2 .empty (some [])).Undisturbed restored.incidents := by
  intro h
  have hHandled : ((start "home.toml" 2 .empty (some [])).after
      (restored.incidents.take 5)).taken? (.look 2) = some [10] := by
    decide +kernel
  have hRead := h (restored.incidents.take 5) ⟨2, .look 2, by simp⟩ [10] List.prefix_rfl rfl hHandled
    (by decide) (restored.incidents.take 3) ⟨1, .reload, nofun⟩ ⟨_, rfl⟩ (.inr rfl) (by decide)
  have hFound : ((start "home.toml" 2 .empty (some [])).after
      (restored.incidents.take 3)).file = some [35] := rfl
  rw [hFound] at hRead
  exact absurd hRead (by decide)

end Watch

end Household
