import Household.Proofs.Resolution.Selection

/-! # Conditions that cannot be decided

A condition that fails for a request counts as one that never holds, and so does its whole tree:
putting a plain false in its place, or taking it away with all that lies below it, changes neither
the merged settings nor the layers on record. The failures on record are those of the conditions
that were reached.
-/

set_option autoImplicit false

namespace Household

namespace Condition

/-- The condition that never holds, as one would write it. -/
def never : Compiled := compile "false"

theorem holds_never (s : Scene) : never.holds s = .ok false := rfl

/-- The condition itself if it can be decided, and otherwise one that never holds. -/
def Compiled.silence (s : Scene) (c : Compiled) : Compiled :=
  match c.holds s with
  | .ok _ => c
  | .error _ => never

theorem Compiled.silence_of_ok {s : Scene} {c : Compiled} {b : Bool} (h : c.holds s = .ok b) :
    c.silence s = c := by
  rw [silence, h]

theorem Compiled.silence_of_error {s : Scene} {c : Compiled} {fault : Fault}
    (h : c.holds s = .error fault) : c.silence s = never := by
  rw [silence, h]

end Condition

mutual

/-- The tree with every condition that cannot be decided made false. -/
def RoomCondition.silence (s : Condition.Scene) : RoomCondition → RoomCondition
  | ⟨id, test, settings, conditions⟩ => ⟨id, test.silence s, settings, silenceAll s conditions⟩

def silenceAll (s : Condition.Scene) : List RoomCondition → List RoomCondition
  | [] => []
  | c :: rest => c.silence s :: silenceAll s rest

end

mutual

/-- The tree without the conditions that cannot be decided and without all that lies below them. -/
def RoomCondition.prune (s : Condition.Scene) : RoomCondition → RoomCondition
  | ⟨id, test, settings, conditions⟩ => ⟨id, test, settings, pruneAll s conditions⟩

def pruneAll (s : Condition.Scene) : List RoomCondition → List RoomCondition
  | [] => []
  | c :: rest =>
    match c.test.holds s with
    | .ok _ => c.prune s :: pruneAll s rest
    | .error _ => pruneAll s rest

end

def RoomCondition.isUndecided (s : Condition.Scene) (c : RoomCondition) : Bool :=
  c.test.holds s matches .error _

def Layers.mapConditions (f : List RoomCondition → List RoomCondition) (l : Layers) : Layers :=
  { l with
    rooms := Keyed.mapValues (fun room => { room with conditions := f room.conditions }) l.rooms }

def Layers.silence (s : Condition.Scene) (l : Layers) : Layers := l.mapConditions (silenceAll s)

def Layers.prune (s : Condition.Scene) (l : Layers) : Layers := l.mapConditions (pruneAll s)

theorem RoomCondition.test_silence (s : Condition.Scene) (c : RoomCondition) :
    (c.silence s).test = c.test.silence s := by
  cases c
  rw [silence]

theorem RoomCondition.layer_silence (s : Condition.Scene) (c : RoomCondition) :
    (c.silence s).layer = c.layer := by
  cases c
  rw [silence]
  rfl

theorem RoomCondition.isMet_silence (s : Condition.Scene) (c : RoomCondition) :
    (c.silence s).isMet s = c.isMet s := by
  cases hTest : c.test.holds s with
  | ok b =>
    have hSilence : (c.silence s).test.holds s = .ok b := by
      rw [test_silence, Condition.Compiled.silence_of_ok hTest, hTest]
    rw [isMet_of_ok hTest, isMet_of_ok hSilence]
  | error fault =>
    have hSilence : (c.silence s).test.holds s = .ok false := by
      rw [test_silence, Condition.Compiled.silence_of_error hTest, Condition.holds_never]
    rw [isMet_of_error hTest, isMet_of_ok hSilence]

theorem RoomCondition.exists_holds_silence (s : Condition.Scene) (c : RoomCondition) :
    ∃ b, (c.silence s).test.holds s = .ok b := by
  cases hTest : c.test.holds s with
  | ok b => exact ⟨b, by rw [test_silence, Condition.Compiled.silence_of_ok hTest, hTest]⟩
  | error fault =>
    exact ⟨false, by
      rw [test_silence, Condition.Compiled.silence_of_error hTest, Condition.holds_never]⟩

def Visit.silence (s : Condition.Scene) (v : Visit) : Visit :=
  ⟨v.above.map (·.silence s), v.condition.silence s⟩

mutual

theorem RoomCondition.visits_silence (s : Condition.Scene) (above : List RoomCondition)
    (c : RoomCondition) :
    (c.silence s).visits (above.map (·.silence s)) = (c.visits above).map (Visit.silence s) := by
  cases c with
  | mk id test settings conditions =>
    have hBelow := visitsAll_silence s (above ++ [⟨id, test, settings, conditions⟩]) conditions
    rw [List.map_append, List.map_singleton, RoomCondition.silence] at hBelow
    rw [RoomCondition.silence, RoomCondition.visits, RoomCondition.visits, List.map_cons, hBelow,
      Visit.silence, RoomCondition.silence]
termination_by sizeOf c

theorem visitsAll_silence (s : Condition.Scene) (above conditions : List RoomCondition) :
    visitsAll (above.map (·.silence s)) (silenceAll s conditions) =
      (visitsAll above conditions).map (Visit.silence s) := by
  cases conditions with
  | nil => rw [silenceAll, visitsAll, visitsAll, List.map_nil]
  | cons c rest =>
    rw [silenceAll, visitsAll, visitsAll, List.map_append, RoomCondition.visits_silence s above c,
      visitsAll_silence s above rest]
termination_by sizeOf conditions

end

theorem Visit.isIncluded_silence (s : Condition.Scene) (v : Visit) :
    (v.silence s).isIncluded s = v.isIncluded s := by
  have hAbove : (v.silence s).isReached s = v.isReached s := by
    simp [isReached, silence, List.all_map, Function.comp_def, RoomCondition.isMet_silence]
  rw [isIncluded, hAbove, isIncluded]
  exact congrArg (v.isReached s && ·) (RoomCondition.isMet_silence s v.condition)

theorem Visit.failure?_silence (s : Condition.Scene) (v : Visit) :
    (v.silence s).failure? s = none := by
  obtain ⟨b, hTest⟩ := v.condition.exists_holds_silence s
  have hTest' : (v.silence s).condition.test.holds s = .ok b := hTest
  rw [failure?, hTest']
  split <;> simp_all

theorem includedLayers_map_silence (s : Condition.Scene) (visits : List Visit) :
    includedLayers s (visits.map (Visit.silence s)) = includedLayers s visits := by
  induction visits with
  | nil => rfl
  | cons v rest ih =>
    have hLayer : (v.silence s).condition.layer = v.condition.layer := v.condition.layer_silence s
    simp only [includedLayers] at ih
    cases hIncluded : v.isIncluded s with
    | false => simp [includedLayers, Visit.isIncluded_silence, hIncluded, ih]
    | true => simp [includedLayers, Visit.isIncluded_silence, hIncluded, hLayer, ih]

theorem reachedFailures_map_silence (s : Condition.Scene) (visits : List Visit) :
    reachedFailures s (visits.map (Visit.silence s)) = [] := by
  rw [reachedFailures, List.filterMap_eq_nil_iff]
  intro v hv
  obtain ⟨v, -, rfl⟩ := List.mem_map.mp hv
  exact v.failure?_silence s

theorem includedLayers_visits_of_not_isMet {s : Condition.Scene} {c : RoomCondition}
    (hMet : c.isMet s = false) (above : List RoomCondition) :
    includedLayers s (c.visits above) = [] := by
  cases c with
  | mk id test settings conditions =>
    rw [RoomCondition.visits, includedLayers_cons_of_not_isMet hMet]
    exact includedLayers_of_unreached (unreached_below hMet)

mutual

theorem RoomCondition.includedLayers_prune (s : Condition.Scene) {above above' : List RoomCondition}
    (hAbove : above.all (·.isMet s) = true) (hAbove' : above'.all (·.isMet s) = true)
    (c : RoomCondition) :
    includedLayers s ((c.prune s).visits above') = includedLayers s (c.visits above) := by
  cases c with
  | mk id test settings conditions =>
    have hMet' : RoomCondition.isMet s ⟨id, test, settings, pruneAll s conditions⟩ =
        RoomCondition.isMet s ⟨id, test, settings, conditions⟩ := rfl
    rw [RoomCondition.prune]
    cases hMet : RoomCondition.isMet s ⟨id, test, settings, conditions⟩ with
    | false =>
      rw [includedLayers_visits_of_not_isMet hMet,
        includedLayers_visits_of_not_isMet (hMet'.trans hMet)]
    | true =>
      have hBelow := reached_below hAbove hMet
      have hBelow' := reached_below hAbove' (hMet'.trans hMet)
      rw [RoomCondition.visits, RoomCondition.visits, includedLayers_cons_of_isMet hAbove hMet,
        includedLayers_cons_of_isMet hAbove' (hMet'.trans hMet),
        includedLayers_pruneAll s hBelow hBelow' conditions]
      rfl
termination_by sizeOf c

theorem includedLayers_pruneAll (s : Condition.Scene) {above above' : List RoomCondition}
    (hAbove : above.all (·.isMet s) = true) (hAbove' : above'.all (·.isMet s) = true)
    (conditions : List RoomCondition) :
    includedLayers s (visitsAll above' (pruneAll s conditions)) =
      includedLayers s (visitsAll above conditions) := by
  cases conditions with
  | nil => rw [pruneAll, visitsAll, visitsAll]
  | cons c rest =>
    have hRest := includedLayers_pruneAll s hAbove hAbove' rest
    rw [pruneAll, visitsAll, includedLayers_append]
    cases hTest : c.test.holds s with
    | error fault =>
      -- The pruned list has no place for the condition, and the whole one includes nothing there.
      dsimp only
      have hMet := RoomCondition.isMet_of_error hTest
      rw [hRest, includedLayers_visits_of_not_isMet hMet, List.nil_append]
    | ok b =>
      dsimp only
      rw [visitsAll, includedLayers_append, hRest,
        RoomCondition.includedLayers_prune s hAbove hAbove' c]
termination_by sizeOf conditions

end

namespace Layers

variable {f : List RoomCondition → List RoomCondition} {l : Layers} {r : Request}

theorem roomOf?_mapConditions :
    (l.mapConditions f).roomOf? r =
      (l.roomOf? r).map fun room => { room with conditions := f room.conditions } := by
  rw [roomOf?, roomOf?]
  cases r.location with
  | none => rfl
  | some location =>
    rw [Option.bind_some, Option.bind_some, ← Keyed.get?_eq_lookup, ← Keyed.get?_eq_lookup]
    exact Keyed.get?_mapValues (fun room : Room => { room with conditions := f room.conditions })
      l.rooms location

theorem selection_mapConditions
    (h : ∀ room, l.roomOf? r = some room →
      includedLayers r.scene (visitsAll [] (f room.conditions)) =
        includedLayers r.scene (visitsAll [] room.conditions)) :
    (l.mapConditions f).selection r = l.selection r := by
  rw [selection, selection, visits, visits, roomOf?_mapConditions]
  cases hRoom : l.roomOf? r with
  | none => rfl
  | some room =>
    simp only [Option.map_some, h room hRoom]
    rfl

theorem selection_silence (l : Layers) (r : Request) :
    (l.silence r.scene).selection r = l.selection r := by
  apply selection_mapConditions
  intro room _
  have hVisits := visitsAll_silence r.scene [] room.conditions
  rw [List.map_nil] at hVisits
  rw [hVisits, includedLayers_map_silence]

theorem selection_prune (l : Layers) (r : Request) :
    (l.prune r.scene).selection r = l.selection r := by
  apply selection_mapConditions
  intro room _
  exact includedLayers_pruneAll r.scene List.all_nil List.all_nil room.conditions

theorem reachedFailures_visits_silence (l : Layers) (r : Request) :
    reachedFailures r.scene ((l.silence r.scene).visits r) = [] := by
  rw [visits, silence, roomOf?_mapConditions]
  cases l.roomOf? r with
  | none => rfl
  | some room =>
    have hVisits := visitsAll_silence r.scene [] room.conditions
    rw [List.map_nil] at hVisits
    rw [Option.map_some]
    dsimp only
    rw [hVisits, reachedFailures_map_silence]

end Layers

theorem Visit.map_failure? (s : Condition.Scene) (v : Visit) :
    (v.failure? s).map (·.condition) =
      if v.isReached s && v.condition.isUndecided s then some v.condition.id else none := by
  rw [failure?, RoomCondition.isUndecided]
  cases v.isReached s with
  | false => rfl
  | true => cases v.condition.test.holds s <;> rfl

theorem map_condition_reachedFailures (s : Condition.Scene) (visits : List Visit) :
    (reachedFailures s visits).map (·.condition) =
      (visits.filter fun v => v.isReached s && v.condition.isUndecided s).map (·.condition.id) := by
  rw [reachedFailures, List.map_filterMap, ← List.filterMap_eq_filter, List.map_filterMap]
  refine congrArg (fun g => List.filterMap g visits) (funext ?_)
  intro v
  rw [Visit.map_failure?, Option.guard]
  cases v.isReached s && v.condition.isUndecided s <;> rfl

/-- Conditions that cannot be decided contribute nothing, neither made false nor taken away with
all below them, and the failures on record are those of them that were reached, in order. -/
theorem Layers.undecided_contribute_nothing (l : Layers) (r : Request) :
    ((l.silence r.scene).merge r).fragment = (l.merge r).fragment ∧
    ((l.silence r.scene).merge r).trace.applied = (l.merge r).trace.applied ∧
    ((l.silence r.scene).merge r).trace.failures = [] ∧
    ((l.prune r.scene).merge r).fragment = (l.merge r).fragment ∧
    ((l.prune r.scene).merge r).trace.applied = (l.merge r).trace.applied ∧
    (l.merge r).trace.failures.map (·.condition) =
      ((l.visits r).filter fun v => v.isReached r.scene && v.condition.isUndecided r.scene).map
        (·.condition.id) := by
  refine ⟨?_, ?_, ?_, ?_, ?_, ?_⟩
  · rw [fragment_merge, fragment_merge, selection_silence]
  · rw [applied_merge, applied_merge, selection_silence]
  · rw [failures_merge, reachedFailures_visits_silence]
  · rw [fragment_merge, fragment_merge, selection_prune]
  · rw [applied_merge, applied_merge, selection_prune]
  · rw [failures_merge, map_condition_reachedFailures]

end Household
