import Mathlib.Data.List.Induction
import Household.Watch.Watcher

/-! # What a watcher has handled

A watch records every content that its watcher handles, by a look or by a reload. Whatever happens
to the file and in whatever order, the layers in service are those of the last recorded content
that is valid, and the digest that the watcher keeps is that of the last recorded content.
-/

set_option autoImplicit false

namespace Household

/-- What happens around a watcher, one thing at a time. -/
inductive WatchMove where
  | write (content : List UInt8)
  | remove
  | look (now : Nat)
  | reload
  | receive
  | drain
  | close
  deriving DecidableEq, Repr

def Layers.valid? (path : String) (content : List UInt8) : Option Layers :=
  (load path (some content)).toOption

namespace Watcher

/-- Takes out the event that has waited longest, if one waits. -/
def receive (w : Watcher) : List WatchEvent × Watcher :=
  (w.events.waiting.take 1, { w with events := ⟨w.events.waiting.drop 1, w.events.isOpen⟩ })

/-- The content that a look handles: other content than was handled last, once it has settled. -/
def ripe? (w : Watcher) (now : Nat) (file : Option (List UInt8)) : Option (List UInt8) :=
  file.filter fun content =>
    w.handled ≠ some (Digest.ofBytes content) && w.hasSettled now (Digest.ofBytes content)

theorem ripe?_eq_some_iff {w : Watcher} {now : Nat} {file : Option (List UInt8)}
    {content : List UInt8} :
    w.ripe? now file = some content ↔
      file = some content ∧ w.handled ≠ some (Digest.ofBytes content) ∧
        w.hasSettled now (Digest.ofBytes content) = true := by
  simp [ripe?, Option.filter_eq_some_iff]

/-- A look that handles content does so as a reload does, and offers what became of it. -/
theorem poll_of_ripe {w : Watcher} {now : Nat} {file : Option (List UInt8)}
    {content : List UInt8} (h : w.ripe? now file = some content) :
    w.poll now file =
      { (w.handle content).1 with
        pending := none
        events := w.events.offer (w.handle content).2 } := by
  obtain ⟨rfl, hNew, hSettled⟩ := ripe?_eq_some_iff.mp h
  have hEvents : (w.handle content).1.events = w.events := by
    unfold handle
    split <;> rfl
  simp only [poll, if_neg hNew, if_pos hSettled, hEvents]

theorem exists_pending_of_not_ripe {w : Watcher} {now : Nat} {file : Option (List UInt8)}
    (h : w.ripe? now file = none) : ∃ pending, w.poll now file = { w with pending := pending } := by
  cases file with
  | none => exact ⟨none, rfl⟩
  | some content =>
    by_cases hSame : w.handled = some (Digest.ofBytes content)
    · exact ⟨none, by rw [poll, if_pos hSame]⟩
    · have hUnsettled : ¬w.hasSettled now (Digest.ofBytes content) = true := by
        intro hSettled
        have hRipe := ripe?_eq_some_iff.mpr ⟨rfl, hSame, hSettled⟩
        rw [h] at hRipe
        cases hRipe
      exact ⟨_, by rw [poll, if_neg hSame, if_neg hUnsettled]⟩

theorem layers_handle_eq_getD (w : Watcher) (content : List UInt8) :
    (w.handle content).1.layers = (Layers.valid? w.path content).getD w.layers := by
  rw [layers_handle, Layers.valid?]
  cases hLoad : Layers.ofBytes w.path content with
  | ok layers =>
    rw [Layers.load_eq_ok_iff.mpr hLoad]
    rfl
  | error fault =>
    cases hValid : Layers.load w.path (some content) with
    | ok layers =>
      rw [Layers.load_eq_ok_iff.mp hValid] at hLoad
      cases hLoad
    | error _ => rfl

theorem path_handle (w : Watcher) (content : List UInt8) : (w.handle content).1.path = w.path := by
  unfold handle
  split <;> rfl

theorem reload_some (w : Watcher) (content : List UInt8) :
    (w.reload (some content)).1 = (w.handle content).1 := by
  rw [reload]
  split <;> simp_all

/-- A reload changes nothing but the layers in service and the digest kept. -/
theorem exists_reload_eq (w : Watcher) (file : Option (List UInt8)) :
    ∃ layers handled, (w.reload file).1 = { w with layers := layers, handled := handled } := by
  cases file with
  | none => exact ⟨w.layers, w.handled, rfl⟩
  | some content =>
    rw [reload_some, handle]
    split <;> exact ⟨_, _, rfl⟩

theorem not_valid_of_reload_error {w : Watcher} {content : List UInt8} {fault : ReloadFault}
    (h : (w.reload (some content)).2 = .error fault) : Layers.valid? w.path content = none := by
  cases hValid : Layers.valid? w.path content with
  | none => rfl
  | some layers =>
    have hLoad : Layers.load w.path (some content) = .ok layers := by
      rw [Layers.valid?] at hValid
      cases hCase : Layers.load w.path (some content) with
      | ok _ => simp_all [Except.toOption]
      | error _ => simp_all [Except.toOption]
    simp [reload, handle, Layers.load_eq_ok_iff.mp hLoad] at h

end Watcher

/-- A watcher, its file, and the contents that the watcher has handled, from first to last. -/
structure Watch where
  watcher : Watcher
  file : Option (List UInt8)
  log : List (List UInt8)

namespace Watch

def start (path : String) (debounce : Nat) (layers : Layers) (file : Option (List UInt8)) : Watch :=
  ⟨.start path debounce layers file, file, []⟩

def taken? (s : Watch) : WatchMove → Option (List UInt8)
  | .look now => s.watcher.ripe? now s.file
  | .reload => s.file
  | _ => none

def watcherAfter (s : Watch) : WatchMove → Watcher
  | .look now => s.watcher.poll now s.file
  | .reload => (s.watcher.reload s.file).1
  | .receive => s.watcher.receive.2
  | .drain => s.watcher.drain.2
  | .close => s.watcher.close
  | .write _ | .remove => s.watcher

def fileAfter (s : Watch) : WatchMove → Option (List UInt8)
  | .write content => some content
  | .remove => none
  | _ => s.file

def step (s : Watch) (m : WatchMove) : Watch :=
  ⟨s.watcherAfter m, s.fileAfter m, s.log ++ (s.taken? m).toList⟩

def run (s : Watch) (moves : List WatchMove) : Watch := moves.foldl step s

/-- Handled content gives its layers if it is valid, and its digest in any case. -/
theorem watcherAfter_of_taken {s : Watch} {m : WatchMove} {content : List UInt8}
    (h : s.taken? m = some content) :
    (s.watcherAfter m).layers =
        (Layers.valid? s.watcher.path content).getD s.watcher.layers ∧
      (s.watcherAfter m).handled = some (Digest.ofBytes content) ∧
      (s.watcherAfter m).path = s.watcher.path := by
  cases m with
  | look now =>
    rw [watcherAfter, Watcher.poll_of_ripe h]
    exact ⟨s.watcher.layers_handle_eq_getD content, s.watcher.handled_handle content,
      s.watcher.path_handle content⟩
  | reload =>
    have hFile : s.file = some content := h
    rw [watcherAfter, hFile, Watcher.reload_some]
    exact ⟨s.watcher.layers_handle_eq_getD content, s.watcher.handled_handle content,
      s.watcher.path_handle content⟩
  | _ => cases h

theorem watcherAfter_of_not_taken {s : Watch} {m : WatchMove} (h : s.taken? m = none) :
    (s.watcherAfter m).layers = s.watcher.layers ∧
      (s.watcherAfter m).handled = s.watcher.handled ∧
      (s.watcherAfter m).path = s.watcher.path := by
  cases m with
  | look now =>
    obtain ⟨pending, hPoll⟩ := Watcher.exists_pending_of_not_ripe h
    rw [watcherAfter, hPoll]
    exact ⟨rfl, rfl, rfl⟩
  | reload =>
    have hFile : s.file = none := h
    rw [watcherAfter, hFile, Watcher.reload_none]
    exact ⟨rfl, rfl, rfl⟩
  | _ => exact ⟨rfl, rfl, rfl⟩

theorem taken?_of_file_none {s : Watch} (h : s.file = none) (m : WatchMove) :
    s.taken? m = none := by
  cases m with
  | look now => rw [taken?, h, Watcher.ripe?, Option.filter_none]
  | reload => exact h
  | _ => rfl

/-- What is in service and what counts as handled follows from the record. -/
structure FollowsLog (path : String) (layers : Layers) (file : Option (List UInt8)) (s : Watch) :
    Prop where
  samePath : s.watcher.path = path
  inService : s.watcher.layers = (s.log.filterMap (Layers.valid? path)).getLast?.getD layers
  handled : s.watcher.handled = (s.log.getLast?.or file).map Digest.ofBytes

variable {path : String} {layers : Layers} {file : Option (List UInt8)}

theorem FollowsLog.start (debounce : Nat) :
    FollowsLog path layers file (Watch.start path debounce layers file) :=
  ⟨rfl, rfl, rfl⟩

theorem FollowsLog.step {s : Watch} (h : FollowsLog path layers file s) (m : WatchMove) :
    FollowsLog path layers file (s.step m) := by
  cases hTaken : s.taken? m with
  | none =>
    obtain ⟨hLayers, hHandled, hPath⟩ := watcherAfter_of_not_taken hTaken
    have hLog : (s.step m).log = s.log := by simp [Watch.step, hTaken]
    refine ⟨hPath.trans h.samePath, ?_, ?_⟩
    · rw [hLog]
      exact hLayers.trans h.inService
    · rw [hLog]
      exact hHandled.trans h.handled
  | some content =>
    obtain ⟨hLayers, hHandled, hPath⟩ := watcherAfter_of_taken hTaken
    have hLog : (s.step m).log = s.log ++ [content] := by simp [Watch.step, hTaken]
    refine ⟨hPath.trans h.samePath, ?_, ?_⟩
    · rw [hLog, List.filterMap_append]
      refine hLayers.trans ?_
      rw [h.samePath, h.inService]
      cases hValid : Layers.valid? path content with
      | none => simp [hValid]
      | some next => simp [hValid]
    · rw [hLog]
      refine hHandled.trans ?_
      simp

theorem FollowsLog.run (debounce : Nat) (moves : List WatchMove) :
    FollowsLog path layers file ((Watch.start path debounce layers file).run moves) := by
  induction moves using List.reverseRecOn with
  | nil => exact .start debounce
  | append_singleton moves m ih =>
    rw [Watch.run, List.foldl_append]
    exact ih.step m

/-- What no move may do to a watch. -/
structure Guarded (s : Watch) : Prop where
  unreadable : s.file = none → ∀ m, (s.step m).watcher.layers = s.watcher.layers ∧
    (s.step m).watcher.handled = s.watcher.handled
  rejected : ∀ m content, s.taken? m = some content →
    Layers.valid? s.watcher.path content = none → (s.step m).watcher.layers = s.watcher.layers
  failed : ∀ fault, (s.watcher.reload s.file).2 = .error fault →
    (s.step .reload).watcher.layers = s.watcher.layers
  passive : ∀ m, s.taken? m = none → (s.step m).watcher.layers = s.watcher.layers ∧
    (s.step m).watcher.handled = s.watcher.handled
  fresh : ∀ now content, s.taken? (.look now) = some content →
    s.watcher.handled ≠ some (Digest.ofBytes content)
  offered : ∀ now, (s.step (.look now)).watcher.events =
    match s.taken? (.look now) with
    | some content => s.watcher.events.offer (s.watcher.handle content).2
    | none => s.watcher.events

theorem guarded (s : Watch) : s.Guarded where
  unreadable hFile m :=
    have hNone := watcherAfter_of_not_taken (taken?_of_file_none hFile m)
    ⟨hNone.1, hNone.2.1⟩
  rejected m content hTaken hValid := by
    have hLayers := (watcherAfter_of_taken hTaken).1
    rw [hValid] at hLayers
    exact hLayers
  failed fault hFault := by
    cases hFile : s.file with
    | none => exact (watcherAfter_of_not_taken (m := .reload) hFile).1
    | some content =>
      rw [hFile] at hFault
      have hLayers := (watcherAfter_of_taken (m := .reload) hFile).1
      rw [Watcher.not_valid_of_reload_error hFault] at hLayers
      exact hLayers
  passive m hTaken :=
    have hNone := watcherAfter_of_not_taken hTaken
    ⟨hNone.1, hNone.2.1⟩
  fresh now content hTaken := (Watcher.ripe?_eq_some_iff.mp hTaken).2.1
  offered now := by
    cases hTaken : s.taken? (.look now) with
    | none =>
      obtain ⟨pending, hPoll⟩ := Watcher.exists_pending_of_not_ripe hTaken
      rw [step, watcherAfter, hPoll]
    | some content => rw [step, watcherAfter, Watcher.poll_of_ripe hTaken]

/-- At every moment the layers in service are those of the valid content handled last, the digest
kept is that of the content handled last, and no move does what it must not. -/
theorem run_followsLog_and_guarded (path : String) (debounce : Nat) (layers : Layers)
    (file : Option (List UInt8)) (moves : List WatchMove) :
    FollowsLog path layers file ((Watch.start path debounce layers file).run moves) ∧
      ((Watch.start path debounce layers file).run moves).Guarded :=
  ⟨.run debounce moves, guarded _⟩

end Watch

end Household
