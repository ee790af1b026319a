import Household.Proofs.Watch.History

/-! # What the receiver of events can change

A receiver that is slow, or goes away, changes nothing but the events that wait for it: the layers
in service, the digest kept and the pending sighting take the same course whenever it takes events
out and whenever it leaves. Every content that a look handles is offered as one event. The events
that arrive are those of the contents handled, in their order; one is lost only at a full queue or
when the receiver is gone.
-/

set_option autoImplicit false

namespace Household

def WatchMove.isReceivers : WatchMove → Bool
  | .receive | .drain | .close => true
  | _ => false

def WatchEvent.of (path : String) (content : List UInt8) : WatchEvent :=
  match Layers.ofBytes path content with
  | .ok layers => .applied (Digest.ofBytes content) layers.summary
  | .error fault => .rejected (Digest.ofBytes content) fault

/-- An event as it is offered, and how the queue stands at that moment. -/
structure Offer where
  event : WatchEvent
  waiting : Nat
  isOpen : Bool

def Offer.isLost (o : Offer) : Bool := !o.isOpen || o.waiting = Mailbox.capacity

/-- What is offered and not lost stands at the end of the queue afterwards. -/
theorem Mailbox.waiting_offer_eq_append {m : Mailbox WatchEvent}
    (hBound : m.waiting.length ≤ capacity) (event : WatchEvent) :
    (m.offer event).waiting = m.waiting ++
      ([Offer.mk event m.waiting.length m.isOpen].filter (!·.isLost)).map Offer.event := by
  cases hOpen : m.isOpen with
  | false => simp [offer, Offer.isLost, hOpen]
  | true =>
    by_cases hFull : m.waiting.length = capacity
    · simp [offer, Offer.isLost, hFull]
    · rw [waiting_offer_of_lt hOpen (by omega)]
      simp [Offer.isLost, hFull]

namespace Watcher

def withoutEvents (w : Watcher) : Watcher := { w with events := .empty }

theorem event_handle (w : Watcher) (content : List UInt8) :
    (w.handle content).2 = WatchEvent.of w.path content := by
  unfold handle WatchEvent.of
  cases Layers.ofBytes w.path content <;> rfl

theorem withoutEvents_handle (w : Watcher) (content : List UInt8) :
    (w.withoutEvents.handle content).1 = (w.handle content).1.withoutEvents := by
  unfold handle withoutEvents
  dsimp only
  cases Layers.ofBytes w.path content <;> rfl

theorem withoutEvents_poll (w : Watcher) (now : Nat) (file : Option (List UInt8)) :
    (w.withoutEvents.poll now file).withoutEvents = (w.poll now file).withoutEvents := by
  cases hRipe : w.ripe? now file with
  | some content =>
    have hSame : w.withoutEvents.ripe? now file = some content := hRipe
    rw [poll_of_ripe hRipe, poll_of_ripe hSame, withoutEvents_handle]
    rfl
  | none =>
    cases file with
    | none => rfl
    | some content =>
      by_cases hHandled : w.handled = some (Digest.ofBytes content)
      · have hSame : w.withoutEvents.handled = some (Digest.ofBytes content) := hHandled
        rw [poll, poll, if_pos hHandled, if_pos hSame]
        rfl
      · have hUnsettled : ¬w.hasSettled now (Digest.ofBytes content) = true := by
          intro hSettled
          rw [ripe?_eq_some_iff.mpr ⟨rfl, hHandled, hSettled⟩] at hRipe
          cases hRipe
        have hNew : ¬w.withoutEvents.handled = some (Digest.ofBytes content) := hHandled
        have hYoung : ¬w.withoutEvents.hasSettled now (Digest.ofBytes content) = true := hUnsettled
        rw [poll, poll, if_neg hHandled, if_neg hNew, if_neg hUnsettled, if_neg hYoung]
        rfl

end Watcher

namespace Watch

/-! ## The course of a watch -/

def withoutEvents (s : Watch) : Watch := { s with watcher := s.watcher.withoutEvents }

/-- How the watch stands after each move that is not one of the receiver, but for the events. -/
def course (s : Watch) : List WatchMove → List Watch
  | [] => []
  | m :: rest =>
    if m.isReceivers then (s.step m).course rest
    else (s.step m).withoutEvents :: (s.step m).course rest

variable {s s' : Watch} {m : WatchMove}

theorem withoutEvents_step_of_isReceivers (h : m.isReceivers = true) (s : Watch) :
    (s.step m).withoutEvents = s.withoutEvents := by
  cases m with
  | receive => simp [step, taken?, fileAfter, watcherAfter, withoutEvents, Watcher.withoutEvents,
      Watcher.receive]
  | drain => simp [step, taken?, fileAfter, watcherAfter, withoutEvents, Watcher.withoutEvents,
      Watcher.drain]
  | close => simp [step, taken?, fileAfter, watcherAfter, withoutEvents, Watcher.withoutEvents,
      Watcher.close]
  | _ => cases h

theorem withoutEvents_watcherAfter (s : Watch) (m : WatchMove) :
    (s.withoutEvents.watcherAfter m).withoutEvents = (s.watcherAfter m).withoutEvents := by
  cases m with
  | look now => exact Watcher.withoutEvents_poll s.watcher now s.file
  | reload =>
    have hFile : s.withoutEvents.file = s.file := rfl
    rw [watcherAfter, watcherAfter, hFile]
    cases s.file with
    | none => rfl
    | some content =>
      have hHandle := s.watcher.withoutEvents_handle content
      rw [Watcher.reload_some, Watcher.reload_some, withoutEvents, hHandle]
      rfl
  | _ => rfl

theorem withoutEvents_step (s : Watch) (m : WatchMove) :
    (s.withoutEvents.step m).withoutEvents = (s.step m).withoutEvents := by
  have hTaken : s.withoutEvents.taken? m = s.taken? m := by cases m <;> rfl
  have hFile : s.withoutEvents.fileAfter m = s.fileAfter m := by cases m <;> rfl
  have hWatcher := withoutEvents_watcherAfter s m
  simp only [step, withoutEvents] at hWatcher hTaken hFile ⊢
  rw [hWatcher, hTaken, hFile]

theorem withoutEvents_step_congr (h : s.withoutEvents = s'.withoutEvents) (m : WatchMove) :
    (s.step m).withoutEvents = (s'.step m).withoutEvents := by
  rw [← withoutEvents_step s, h, withoutEvents_step]

theorem course_eq_filter (h : s.withoutEvents = s'.withoutEvents) (moves : List WatchMove) :
    s.course moves = s'.course (moves.filter (!·.isReceivers)) := by
  induction moves generalizing s s' with
  | nil => rfl
  | cons m rest ih =>
    cases hMove : m.isReceivers with
    | true =>
      rw [course, if_pos hMove, List.filter_cons_of_neg (by simp [hMove])]
      exact ih ((withoutEvents_step_of_isReceivers hMove s).trans h)
    | false =>
      have hNext := withoutEvents_step_congr h m
      rw [course, List.filter_cons_of_pos (by simp [hMove]), course, hMove,
        if_neg Bool.false_ne_true, if_neg Bool.false_ne_true, hNext, ih hNext]

/-! ## Events on their way -/

/-- What the moves of a run yield, each from the watch as it stands before the move. -/
def along {α : Type} (yield : Watch → WatchMove → List α) (s : Watch) : List WatchMove → List α
  | [] => []
  | m :: rest => yield s m ++ (s.step m).along yield rest

theorem along_append {α : Type} (yield : Watch → WatchMove → List α) (s : Watch)
    (moves : List WatchMove) (m : WatchMove) :
    s.along yield (moves ++ [m]) = s.along yield moves ++ yield (s.run moves) m := by
  induction moves generalizing s with
  | nil => simp [along, run]
  | cons first rest ih =>
    rw [List.cons_append, along, along, ih, List.append_assoc]
    rfl

theorem mem_along {α : Type} {yield : Watch → WatchMove → List α} {moves : List WatchMove} {a : α} :
    a ∈ s.along yield moves ↔
      ∃ before m, before ++ [m] <+: moves ∧ a ∈ yield (s.run before) m := by
  induction moves using List.reverseRecOn with
  | nil => simp [along]
  | append_singleton moves last ih =>
    rw [along_append, List.mem_append, ih]
    constructor
    · rintro (⟨before, m, hBefore, hYield⟩ | hYield)
      · exact ⟨before, m, hBefore.trans (List.prefix_append _ _), hYield⟩
      · exact ⟨moves, last, List.prefix_rfl, hYield⟩
    · rintro ⟨before, m, hBefore, hYield⟩
      rcases List.prefix_concat_iff.mp hBefore with hWhole | hEarlier
      · obtain ⟨rfl, hLast⟩ := List.append_inj' hWhole rfl
        cases hLast
        exact .inr hYield
      · exact .inl ⟨before, m, hEarlier, hYield⟩

def lookedAt (s : Watch) : WatchMove → List (List UInt8)
  | .look now => (s.taken? (.look now)).toList
  | _ => []

theorem mem_lookedAt {content : List UInt8} :
    content ∈ s.lookedAt m ↔ ∃ now, m = .look now ∧ s.taken? (.look now) = some content := by
  cases m <;> simp [lookedAt]

def offersAt (s : Watch) (m : WatchMove) : List Offer :=
  (s.lookedAt m).map fun content =>
    ⟨WatchEvent.of s.watcher.path content, s.watcher.events.waiting.length,
      s.watcher.events.isOpen⟩

def receivedAt (s : Watch) : WatchMove → List WatchEvent
  | .receive => s.watcher.receive.1
  | .drain => s.watcher.drain.1
  | _ => []

/-- What still waits when the receiver leaves. -/
def forgoneAt (s : Watch) : WatchMove → List WatchEvent
  | .close => s.watcher.events.waiting
  | _ => []

def looked : Watch → List WatchMove → List (List UInt8) := along lookedAt

def offers : Watch → List WatchMove → List Offer := along offersAt

def received : Watch → List WatchMove → List WatchEvent := along receivedAt

def forgone : Watch → List WatchMove → List WatchEvent := along forgoneAt

/-- The events that found a place in the queue. -/
def accepted (s : Watch) (moves : List WatchMove) : List WatchEvent :=
  ((s.offers moves).filter (!·.isLost)).map Offer.event

theorem events_look_of_taken {now : Nat} {content : List UInt8}
    (h : s.taken? (.look now) = some content) :
    (s.step (.look now)).watcher.events =
      s.watcher.events.offer (WatchEvent.of s.watcher.path content) := by
  rw [(guarded s).offered now, h]
  dsimp only
  rw [Watcher.event_handle]

theorem events_look_of_not_taken {now : Nat} (h : s.taken? (.look now) = none) :
    (s.step (.look now)).watcher.events = s.watcher.events := by
  rw [(guarded s).offered now, h]

theorem events_reload (s : Watch) : (s.step .reload).watcher.events = s.watcher.events := by
  obtain ⟨layers, handled, hReload⟩ := s.watcher.exists_reload_eq s.file
  rw [step, watcherAfter, hReload]

theorem run_append (s : Watch) (moves : List WatchMove) (m : WatchMove) :
    s.run (moves ++ [m]) = (s.run moves).step m := by
  simp [run]

section Append

variable (s : Watch) (moves : List WatchMove) (m : WatchMove)

theorem looked_append : s.looked (moves ++ [m]) = s.looked moves ++ (s.run moves).lookedAt m :=
  along_append lookedAt s moves m

theorem offers_append : s.offers (moves ++ [m]) = s.offers moves ++ (s.run moves).offersAt m :=
  along_append offersAt s moves m

theorem received_append :
    s.received (moves ++ [m]) = s.received moves ++ (s.run moves).receivedAt m :=
  along_append receivedAt s moves m

theorem forgone_append :
    s.forgone (moves ++ [m]) = s.forgone moves ++ (s.run moves).forgoneAt m :=
  along_append forgoneAt s moves m

theorem accepted_append :
    s.accepted (moves ++ [m]) =
      s.accepted moves ++ (((s.run moves).offersAt m).filter (!·.isLost)).map Offer.event := by
  rw [accepted, offers_append, List.filter_append, List.map_append, accepted]

end Append

/-- The queue after a run: it holds what was accepted and has not left it. As long as the receiver
is there nothing is forgone, and when it is gone nothing waits. -/
structure Balanced (s : Watch) (moves : List WatchMove) : Prop where
  bounded : (s.run moves).watcher.events.waiting.length ≤ Mailbox.capacity
  accounted : s.received moves ++ s.forgone moves ++ (s.run moves).watcher.events.waiting =
    s.accepted moves
  present : (s.run moves).watcher.events.isOpen = true → s.forgone moves = []
  gone : (s.run moves).watcher.events.isOpen = false → (s.run moves).watcher.events.waiting = []

namespace Balanced

variable {moves : List WatchMove}

/-- What is taken out from the front of the queue is received. -/
theorem takes (h : s.Balanced moves) {taken left : List WatchEvent}
    (hWaiting : (s.run moves).watcher.events.waiting = taken ++ left)
    (hEvents : ((s.run moves).step m).watcher.events =
      ⟨left, (s.run moves).watcher.events.isOpen⟩)
    (hReceived : (s.run moves).receivedAt m = taken) (hOffers : (s.run moves).offersAt m = [])
    (hForgone : (s.run moves).forgoneAt m = []) : s.Balanced (moves ++ [m]) := by
  have hBounded := h.bounded
  have hAccounted := h.accounted
  have hGone := h.gone
  rw [hWaiting] at hBounded hAccounted hGone
  constructor <;>
    simp only [run_append, received_append, forgone_append, accepted_append, hEvents, hOffers,
      hReceived, hForgone, List.append_nil, List.filter_nil, List.map_nil]
  · rw [List.length_append] at hBounded
    exact Nat.le_trans (Nat.le_add_left _ _) hBounded
  · rw [← hAccounted]
    cases hCase : (s.run moves).watcher.events.isOpen with
    | true => simp [h.present hCase]
    | false => simp [List.append_eq_nil_iff.mp (hGone hCase)]
  · exact h.present
  · exact fun hClosed => (List.append_eq_nil_iff.mp (hGone hClosed)).2

theorem quiet (h : s.Balanced moves)
    (hEvents : ((s.run moves).step m).watcher.events = (s.run moves).watcher.events)
    (hOffers : (s.run moves).offersAt m = []) (hReceived : (s.run moves).receivedAt m = [])
    (hForgone : (s.run moves).forgoneAt m = []) : s.Balanced (moves ++ [m]) :=
  h.takes (List.nil_append _).symm hEvents hReceived hOffers hForgone

theorem close (h : s.Balanced moves) : s.Balanced (moves ++ [.close]) := by
  have hWaiting : ((s.run moves).step .close).watcher.events.waiting = [] := rfl
  have hOpen : ((s.run moves).step .close).watcher.events.isOpen = false := rfl
  constructor
  · rw [run_append, hWaiting]
    exact Nat.zero_le _
  · have hAccounted := h.accounted
    rw [run_append, hWaiting, received_append, forgone_append, accepted_append]
    simp only [receivedAt, forgoneAt, offersAt, lookedAt, List.map_nil, List.filter_nil,
      List.append_nil, ← hAccounted, List.append_assoc]
  · rw [run_append, hOpen]
    intro hThere
    cases hThere
  · intro _
    rw [run_append, hWaiting]

/-- A look that handles content puts its event at the end of the queue, or loses it. -/
theorem look (h : s.Balanced moves) {now : Nat} {content : List UInt8}
    (hTaken : (s.run moves).taken? (.look now) = some content) :
    s.Balanced (moves ++ [.look now]) := by
  have hEvents := events_look_of_taken hTaken
  have hOffers : (s.run moves).offersAt (.look now) =
      [⟨WatchEvent.of (s.run moves).watcher.path content,
        (s.run moves).watcher.events.waiting.length, (s.run moves).watcher.events.isOpen⟩] := by
    rw [offersAt, lookedAt, hTaken]
    rfl
  have hReceived : (s.run moves).receivedAt (.look now) = [] := rfl
  have hForgone : (s.run moves).forgoneAt (.look now) = [] := rfl
  constructor
  · rw [run_append, hEvents]
    exact Mailbox.length_offer_le h.bounded _
  · rw [run_append, hEvents, received_append, forgone_append, accepted_append, hOffers, hReceived,
      hForgone, ← h.accounted, Mailbox.waiting_offer_eq_append h.bounded]
    simp only [List.append_nil, List.append_assoc]
  · rw [run_append, hEvents, Mailbox.isOpen_offer, forgone_append, hForgone, List.append_nil]
    exact h.present
  · rw [run_append, hEvents, Mailbox.isOpen_offer]
    intro hGone
    rw [Mailbox.offer, hGone, Bool.false_and, if_neg Bool.false_ne_true]
    exact h.gone hGone

theorem snoc (h : s.Balanced moves) (m : WatchMove) : s.Balanced (moves ++ [m]) := by
  cases m with
  | look now =>
    cases hTaken : (s.run moves).taken? (.look now) with
    | none =>
      have hLooked : (s.run moves).lookedAt (.look now) = [] := by rw [lookedAt, hTaken]; rfl
      refine h.quiet (events_look_of_not_taken hTaken) ?_ rfl rfl
      rw [offersAt, hLooked, List.map_nil]
    | some content => exact h.look hTaken
  | reload => exact h.quiet (events_reload _) rfl rfl rfl
  | receive => exact h.takes (List.take_append_drop 1 _).symm rfl rfl rfl rfl
  | drain => exact h.takes (List.append_nil _).symm rfl rfl rfl rfl
  | close => exact h.close
  | write content => exact h.quiet rfl rfl rfl rfl
  | remove => exact h.quiet rfl rfl rfl rfl

end Balanced

section Start

variable {path : String} {debounce : Nat} {layers : Layers} {file : Option (List UInt8)}

theorem path_run (moves : List WatchMove) :
    ((start path debounce layers file).run moves).watcher.path = path :=
  (@FollowsLog.run path layers file debounce moves).samePath

theorem balanced (moves : List WatchMove) : (start path debounce layers file).Balanced moves := by
  induction moves using List.reverseRecOn with
  | nil => exact ⟨Nat.zero_le _, rfl, fun _ => rfl, fun _ => rfl⟩
  | append_singleton moves m ih => exact ih.snoc m

theorem isOpen_step_of_ne_close (s : Watch) (h : m ≠ .close) :
    (s.step m).watcher.events.isOpen = s.watcher.events.isOpen := by
  cases m with
  | look now =>
    cases hTaken : s.taken? (.look now) with
    | none => rw [events_look_of_not_taken hTaken]
    | some content => rw [events_look_of_taken hTaken, Mailbox.isOpen_offer]
  | reload => rw [events_reload]
  | close => exact absurd rfl h
  | _ => rfl

theorem isOpen_run_iff (moves : List WatchMove) :
    ((start path debounce layers file).run moves).watcher.events.isOpen = true ↔
      .close ∉ moves := by
  induction moves using List.reverseRecOn with
  | nil => exact ⟨fun _ => List.not_mem_nil, fun _ => rfl⟩
  | append_singleton moves m ih =>
    rw [run_append, List.mem_append, List.mem_singleton]
    by_cases hClose : m = .close
    · subst hClose
      constructor
      · intro hOpen
        cases hOpen
      · intro hNever
        exact absurd (Or.inr rfl) hNever
    · rw [isOpen_step_of_ne_close _ hClose, ih]
      constructor
      · rintro hNever (hEarlier | hNow)
        · exact hNever hEarlier
        · exact hClose hNow.symm
      · intro hNever hEarlier
        exact hNever (.inl hEarlier)

theorem map_event_offers (moves : List WatchMove) :
    ((start path debounce layers file).offers moves).map Offer.event =
      ((start path debounce layers file).looked moves).map (WatchEvent.of path) := by
  induction moves using List.reverseRecOn with
  | nil => rfl
  | append_singleton moves m ih =>
    rw [offers_append, looked_append, List.map_append, List.map_append, ih, offersAt, path_run,
      List.map_map]
    rfl

/-- What a run does with the events of the contents that its looks handle. -/
structure Delivers (s : Watch) (path : String) (moves : List WatchMove) : Prop where
  offersOne : ∀ now content, (s.run moves).taken? (.look now) = some content →
    (s.run (moves ++ [.look now])).watcher.events =
      (s.run moves).watcher.events.offer (WatchEvent.of path content)
  offersNone : ∀ m, m.isReceivers = false → (s.run moves).lookedAt m = [] →
    (s.run (moves ++ [m])).watcher.events = (s.run moves).watcher.events
  offered : (s.offers moves).map Offer.event = (s.looked moves).map (WatchEvent.of path)
  bounded : (s.run moves).watcher.events.waiting.length ≤ Mailbox.capacity
  isOpen_iff : (s.run moves).watcher.events.isOpen = true ↔ .close ∉ moves
  accounted : s.received moves ++ s.forgone moves ++ (s.run moves).watcher.events.waiting =
    s.accepted moves
  forgone_eq_nil : .close ∉ moves → s.forgone moves = []
  lost : ∀ o ∈ s.offers moves, o.isLost = true → ∃ before now content,
    before ++ [.look now] <+: moves ∧ (s.run before).taken? (.look now) = some content ∧
      o.event = WatchEvent.of path content ∧
      (.close ∈ before ∨ (s.run before).watcher.events.waiting.length = Mailbox.capacity)
  inOrder : (s.received moves).Sublist ((s.looked moves).map (WatchEvent.of path))

theorem delivers (moves : List WatchMove) :
    (start path debounce layers file).Delivers path moves where
  offersOne now content hTaken := by
    rw [run_append, events_look_of_taken hTaken, path_run]
  offersNone m hMove hLooked := by
    rw [run_append]
    cases m with
    | look now => exact events_look_of_not_taken (by simpa [lookedAt] using hLooked)
    | reload => exact events_reload _
    | receive => cases hMove
    | drain => cases hMove
    | close => cases hMove
    | _ => rfl
  offered := map_event_offers moves
  bounded := (balanced moves).bounded
  isOpen_iff := isOpen_run_iff moves
  accounted := (balanced moves).accounted
  forgone_eq_nil hNever := (balanced moves).present ((isOpen_run_iff moves).mpr hNever)
  lost o hOffered hLost := by
    obtain ⟨before, m, hBefore, hYield⟩ := mem_along.mp hOffered
    obtain ⟨content, hLooked, rfl⟩ := List.mem_map.mp hYield
    obtain ⟨now, rfl, hTaken⟩ := mem_lookedAt.mp hLooked
    refine ⟨before, now, content, hBefore, hTaken, by rw [path_run], ?_⟩
    rw [Offer.isLost, Bool.or_eq_true, decide_eq_true_iff] at hLost
    refine hLost.imp ?_ id
    intro hGone
    by_contra hNever
    rw [(isOpen_run_iff before).mpr hNever] at hGone
    cases hGone
  inOrder := by
    rw [← map_event_offers]
    have hAccepted : ((start path debounce layers file).accepted moves).Sublist
        (((start path debounce layers file).offers moves).map Offer.event) :=
      List.filter_sublist.map _
    rw [← (balanced moves).accounted, List.append_assoc] at hAccepted
    exact (List.sublist_append_left _ _).trans hAccepted

end Start

/-- Two runs that differ only in when the receiver takes events out or leaves take the same course,
and every run delivers its events in order. -/
theorem course_eq_and_delivers (path : String) (debounce : Nat) (layers : Layers)
    (file : Option (List UInt8)) :
    (∀ moves moves' : List WatchMove,
      moves.filter (!·.isReceivers) = moves'.filter (!·.isReceivers) →
        (start path debounce layers file).course moves =
          (start path debounce layers file).course moves') ∧
      ∀ moves, (start path debounce layers file).Delivers path moves := by
  constructor
  · intro moves moves' hSame
    rw [course_eq_filter rfl moves, hSame, ← course_eq_filter rfl moves']
  · exact delivers

/-- A receiver that takes an event out between two looks, and one that leaves before the first. -/
theorem course_eq_and_delivers_left :
    let watch := start "home.toml" 0 .empty none
    let taken : List WatchMove := [.write [35], .look 0, .receive, .write [10], .look 1, .drain]
    let left : List WatchMove := [.close, .write [35], .look 0, .write [10], .look 1]
    taken.filter (!·.isReceivers) = left.filter (!·.isReceivers) ∧
      watch.looked taken = [[35], [10]] ∧ watch.course taken = watch.course left :=
  ⟨by decide, by decide +kernel,
    (course_eq_and_delivers "home.toml" 0 .empty none).1 _ _ (by decide)⟩

end Watch

end Household
