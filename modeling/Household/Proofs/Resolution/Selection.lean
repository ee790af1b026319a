import Household.Resolution.Resolve

/-! # Which layers a request selects

The selection is described without merging anything: the base, the periods that hold, the room
with those of its conditions that hold below conditions that hold, the first group of the speaker,
and the speaker. The merge of a request lays exactly these layers over each other, in this order,
and records them and the conditions that could not be decided.
-/

set_option autoImplicit false

namespace Household

/-- Settings with the name under which they are recorded. -/
structure Layer where
  label : String
  settings : Fragment

def Period.layer (p : Period) : Layer := ⟨p.label, p.settings⟩

def Room.layer (room : Room) : Layer := ⟨room.label, room.settings⟩

def Group.layer (g : Group) : Layer := ⟨g.label, g.settings⟩

def Member.layer (m : Member) : Layer := ⟨m.label, m.settings⟩

def RoomCondition.layer (c : RoomCondition) : Layer := ⟨c.id, c.settings⟩

def RoomCondition.isMet (s : Condition.Scene) (c : RoomCondition) : Bool :=
  c.test.holds s matches .ok true

theorem RoomCondition.isMet_of_ok {s : Condition.Scene} {c : RoomCondition} {b : Bool}
    (h : c.test.holds s = .ok b) : c.isMet s = b := by
  rw [isMet, h]
  cases b <;> rfl

theorem RoomCondition.isMet_of_error {s : Condition.Scene} {c : RoomCondition}
    {fault : Condition.Fault} (h : c.test.holds s = .error fault) : c.isMet s = false := by
  rw [isMet, h]

/-- A place in a tree of conditions: the condition there and those it lies below, outermost
first. -/
structure Visit where
  above : List RoomCondition
  condition : RoomCondition

namespace Visit

def isReached (s : Condition.Scene) (v : Visit) : Bool := v.above.all (·.isMet s)

def isIncluded (s : Condition.Scene) (v : Visit) : Bool := v.isReached s && v.condition.isMet s

/-- What is recorded of a condition that was reached and could not be decided. -/
def failure? (s : Condition.Scene) (v : Visit) : Option ConditionFailure :=
  match v.isReached s, v.condition.test.holds s with
  | true, .error fault => some ⟨v.condition.id, fault.message⟩
  | _, _ => none

end Visit

mutual

/-- The places in the tree of a condition, each before those below it. -/
def RoomCondition.visits (above : List RoomCondition) : RoomCondition → List Visit
  | ⟨id, test, settings, conditions⟩ =>
    ⟨above, ⟨id, test, settings, conditions⟩⟩ ::
      visitsAll (above ++ [⟨id, test, settings, conditions⟩]) conditions

def visitsAll (above : List RoomCondition) : List RoomCondition → List Visit
  | [] => []
  | c :: rest => c.visits above ++ visitsAll above rest

end

def includedLayers (s : Condition.Scene) (visits : List Visit) : List Layer :=
  (visits.filter (·.isIncluded s)).map (·.condition.layer)

def reachedFailures (s : Condition.Scene) (visits : List Visit) : List ConditionFailure :=
  visits.filterMap (·.failure? s)

namespace Layers

def roomOf? (l : Layers) (r : Request) : Option Room :=
  r.location.bind fun location => l.rooms.lookup location

def speakersGroup? (l : Layers) (r : Request) : Option Group :=
  r.speaker.bind fun speaker => l.groups.find? (·.members.contains speaker)

def speakersMember? (l : Layers) (r : Request) : Option Member :=
  r.speaker.bind fun speaker => l.members.lookup speaker

/-- The places in the tree of conditions of the room, if the request names one. -/
def visits (l : Layers) (r : Request) : List Visit :=
  match l.roomOf? r with
  | some room => visitsAll [] room.conditions
  | none => []

/-- The layers that apply to a request, the one that counts most last. -/
def selection (l : Layers) (r : Request) : List Layer :=
  ⟨baseLabel, l.base⟩ :: (l.periods.filter (·.isActive r)).map Period.layer ++
    (l.roomOf? r).toList.map Room.layer ++ includedLayers r.scene (l.visits r) ++
    (l.speakersGroup? r).toList.map Group.layer ++ (l.speakersMember? r).toList.map Member.layer

end Layers

namespace Visit

variable {s : Condition.Scene} {v : Visit}

theorem isIncluded_of_not_isReached (h : v.isReached s = false) : v.isIncluded s = false := by
  rw [isIncluded, h, Bool.false_and]

theorem failure?_of_not_isReached (h : v.isReached s = false) : v.failure? s = none := by
  rw [failure?, h]

end Visit

section Walk

variable {s : Condition.Scene}

theorem includedLayers_append (visits visits' : List Visit) :
    includedLayers s (visits ++ visits') = includedLayers s visits ++ includedLayers s visits' := by
  simp [includedLayers]

theorem reachedFailures_append (visits visits' : List Visit) :
    reachedFailures s (visits ++ visits') =
      reachedFailures s visits ++ reachedFailures s visits' := by
  simp [reachedFailures]

variable {above : List RoomCondition} {c : RoomCondition} {visits : List Visit}

theorem includedLayers_cons_of_isMet (hAbove : above.all (·.isMet s) = true)
    (hMet : c.isMet s = true) :
    includedLayers s (⟨above, c⟩ :: visits) = c.layer :: includedLayers s visits := by
  have hIncluded : Visit.isIncluded s ⟨above, c⟩ = true := by
    rw [Visit.isIncluded, Visit.isReached, hAbove, hMet]
    rfl
  simp [includedLayers, hIncluded]

theorem includedLayers_cons_of_not_isMet (hMet : c.isMet s = false) :
    includedLayers s (⟨above, c⟩ :: visits) = includedLayers s visits := by
  simp [includedLayers, Visit.isIncluded, hMet]

theorem reachedFailures_cons_of_error {fault : Condition.Fault}
    (hAbove : above.all (·.isMet s) = true) (hTest : c.test.holds s = .error fault) :
    reachedFailures s (⟨above, c⟩ :: visits) =
      ⟨c.id, fault.message⟩ :: reachedFailures s visits := by
  have hFailure : Visit.failure? s ⟨above, c⟩ = some ⟨c.id, fault.message⟩ := by
    rw [Visit.failure?, Visit.isReached, hAbove, hTest]
  simp [reachedFailures, hFailure]

theorem reachedFailures_cons_of_ok {b : Bool} (hTest : c.test.holds s = .ok b) :
    reachedFailures s (⟨above, c⟩ :: visits) = reachedFailures s visits := by
  have hFailure : Visit.failure? s ⟨above, c⟩ = none := by
    rw [Visit.failure?, hTest]
    split <;> simp_all
  simp [reachedFailures, hFailure]

theorem includedLayers_of_unreached (h : ∀ v ∈ visits, v.isReached s = false) :
    includedLayers s visits = [] := by
  rw [includedLayers, List.map_eq_nil_iff, List.filter_eq_nil_iff]
  intro v hv
  rw [Visit.isIncluded_of_not_isReached (h v hv)]
  exact Bool.false_ne_true

theorem reachedFailures_of_unreached (h : ∀ v ∈ visits, v.isReached s = false) :
    reachedFailures s visits = [] := by
  rw [reachedFailures, List.filterMap_eq_nil_iff]
  intro v hv
  exact Visit.failure?_of_not_isReached (h v hv)

end Walk

mutual

theorem RoomCondition.prefix_of_mem_visits {above : List RoomCondition} {c : RoomCondition}
    {v : Visit} (hv : v ∈ c.visits above) : above <+: v.above := by
  cases c with
  | mk id test settings conditions =>
    rw [RoomCondition.visits] at hv
    rcases List.mem_cons.mp hv with rfl | hv
    · exact List.prefix_rfl
    · exact (List.prefix_append above _).trans (prefix_of_mem_visitsAll hv)
termination_by sizeOf c

theorem prefix_of_mem_visitsAll {above conditions : List RoomCondition} {v : Visit}
    (hv : v ∈ visitsAll above conditions) : above <+: v.above := by
  cases conditions with
  | nil =>
    rw [visitsAll] at hv
    cases hv
  | cons c rest =>
    rw [visitsAll] at hv
    rcases List.mem_append.mp hv with hv | hv
    · exact RoomCondition.prefix_of_mem_visits hv
    · exact prefix_of_mem_visitsAll hv
termination_by sizeOf conditions

end

theorem reached_below {s : Condition.Scene} {above : List RoomCondition} {c : RoomCondition}
    (hAbove : above.all (·.isMet s) = true) (hMet : c.isMet s = true) :
    (above ++ [c]).all (·.isMet s) = true := by
  rw [List.all_append, hAbove, List.all_cons, hMet]
  rfl

theorem unreached_below {s : Condition.Scene} {above conditions : List RoomCondition}
    {c : RoomCondition} (hMet : c.isMet s = false) :
    ∀ v ∈ visitsAll (above ++ [c]) conditions, v.isReached s = false := by
  intro v hv
  -- What lies in the tree of a condition lies below that condition too.
  obtain ⟨rest, hAbove⟩ := prefix_of_mem_visitsAll hv
  rw [Visit.isReached, ← hAbove]
  simp [hMet]

namespace Merged

/-- Further layers on top, and further conditions that could not be decided. -/
def extend (m : Merged) (layers : List Layer) (failed : List ConditionFailure) : Merged :=
  ⟨(layers.map (·.settings)).foldl Fragment.merge m.fragment,
    { m.trace with
      applied := m.trace.applied ++ layers.map (·.label)
      failures := m.trace.failures ++ failed }⟩

@[simp] theorem extend_nil (m : Merged) : m.extend [] [] = m := by simp [extend]

theorem extend_extend (m : Merged) (layers layers' : List Layer)
    (failed failed' : List ConditionFailure) :
    (m.extend layers failed).extend layers' failed' =
      m.extend (layers ++ layers') (failed ++ failed') := by simp [extend]

theorem apply_eq_extend (m : Merged) (label : String) (settings : Fragment) :
    m.apply label settings = m.extend [⟨label, settings⟩] [] := by simp [apply, extend]

theorem fail_eq_extend (m : Merged) (label : String) (fault : Condition.Fault) :
    m.fail label fault = m.extend [] [⟨label, fault.message⟩] := by simp [fail, extend]

mutual

theorem applyCondition_eq_extend (s : Condition.Scene) (m : Merged) {above : List RoomCondition}
    (hAbove : above.all (·.isMet s) = true) (c : RoomCondition) :
    applyCondition s m c =
      m.extend (includedLayers s (c.visits above)) (reachedFailures s (c.visits above)) := by
  cases c with
  | mk id test settings conditions =>
    rw [applyCondition, RoomCondition.visits]
    cases hTest : test.holds s with
    | error fault =>
      -- Nothing below is reached, so the one failure is all that is added.
      have hMet := @RoomCondition.isMet_of_error s ⟨id, test, settings, conditions⟩ fault hTest
      have hBelow := @unreached_below s above conditions _ hMet
      rw [includedLayers_cons_of_not_isMet hMet, reachedFailures_cons_of_error hAbove hTest,
        includedLayers_of_unreached hBelow, reachedFailures_of_unreached hBelow]
      exact fail_eq_extend m id fault
    | ok b =>
      rw [reachedFailures_cons_of_ok hTest]
      cases b with
      | false =>
        have hMet := @RoomCondition.isMet_of_ok s ⟨id, test, settings, conditions⟩ false hTest
        have hBelow := @unreached_below s above conditions _ hMet
        rw [includedLayers_cons_of_not_isMet hMet, includedLayers_of_unreached hBelow,
          reachedFailures_of_unreached hBelow, extend_nil]
      | true =>
        have hMet := @RoomCondition.isMet_of_ok s ⟨id, test, settings, conditions⟩ true hTest
        have hBelow := reached_below hAbove hMet
        rw [includedLayers_cons_of_isMet hAbove hMet, apply_eq_extend]
        dsimp only
        rw [applyConditions_eq_extend s _ hBelow conditions, extend_extend]
        rfl
termination_by sizeOf c

theorem applyConditions_eq_extend (s : Condition.Scene) (m : Merged) {above : List RoomCondition}
    (hAbove : above.all (·.isMet s) = true) (conditions : List RoomCondition) :
    applyConditions s m conditions =
      m.extend (includedLayers s (visitsAll above conditions))
        (reachedFailures s (visitsAll above conditions)) := by
  cases conditions with
  | nil =>
    rw [applyConditions, visitsAll]
    exact (extend_nil m).symm
  | cons c rest =>
    rw [applyConditions, visitsAll, applyCondition_eq_extend s m hAbove c,
      applyConditions_eq_extend s _ hAbove rest, extend_extend, includedLayers_append,
      reachedFailures_append]
termination_by sizeOf conditions

end

theorem applyPeriods_eq_extend (m : Merged) (periods : List Period) :
    m.applyPeriods periods = m.extend (periods.map Period.layer) [] := by
  induction periods generalizing m with
  | nil => simp [applyPeriods]
  | cons p rest ih =>
    have hStep : m.applyPeriods (p :: rest) = (m.apply p.label p.settings).applyPeriods rest := rfl
    rw [hStep, ih, apply_eq_extend, extend_extend]
    rfl

theorem applyRoom_eq_extend (m : Merged) (r : Request) (room : Room) :
    m.applyRoom r room =
      m.extend (room.layer :: includedLayers r.scene (visitsAll [] room.conditions))
        (reachedFailures r.scene (visitsAll [] room.conditions)) := by
  rw [applyRoom, apply_eq_extend, applyConditions_eq_extend r.scene _ List.all_nil, extend_extend]
  rfl

theorem applyGroup_eq_extend (m : Merged) (group : Option Group) :
    m.applyGroup group = m.extend (group.toList.map Group.layer) [] := by
  cases group with
  | none => exact (extend_nil m).symm
  | some g => exact apply_eq_extend m g.label g.settings

theorem applyMember_eq_extend (m : Merged) (member : Option Member) :
    m.applyMember member = m.extend (member.toList.map Member.layer) [] := by
  cases member with
  | none => exact (extend_nil m).symm
  | some p => exact apply_eq_extend m p.label p.settings

end Merged

namespace Layers

theorem room?_eq_lookup (l : Layers) : l.room? = fun location => l.rooms.lookup location :=
  funext (Keyed.get?_eq_lookup l.rooms)

/-- The merge by what the request finds in each place. -/
theorem merge_eq_apply (l : Layers) (r : Request) :
    l.merge r =
      let timed := (Merged.empty.apply baseLabel l.base).applyPeriods (l.activePeriods r)
      let placed := (l.roomOf? r).elim timed (timed.applyRoom r)
      (placed.applyGroup (l.speakersGroup? r)).applyMember (l.speakersMember? r) := by
  rw [merge, room?_eq_lookup, speakersGroup?, speakersMember?, roomOf?]
  cases r.speaker with
  | none => cases r.location.bind fun location => l.rooms.lookup location <;> rfl
  | some speaker =>
    rw [Option.bind_some, Option.bind_some, ← Keyed.get?_eq_lookup]
    cases r.location.bind fun location => l.rooms.lookup location <;> rfl

theorem merge_eq_extend (l : Layers) (r : Request) :
    l.merge r = Merged.empty.extend (l.selection r) (reachedFailures r.scene (l.visits r)) := by
  have hTimed : (Merged.empty.apply baseLabel l.base).applyPeriods (l.activePeriods r) =
      Merged.empty.extend
        (⟨baseLabel, l.base⟩ :: (l.periods.filter (·.isActive r)).map Period.layer) [] := by
    rw [Merged.apply_eq_extend, Merged.applyPeriods_eq_extend, Merged.extend_extend]
    rfl
  rw [merge_eq_apply, hTimed, selection, visits]
  dsimp only
  rw [Merged.applyGroup_eq_extend, Merged.applyMember_eq_extend]
  cases l.roomOf? r with
  | none =>
    rw [Option.elim_none, Merged.extend_extend, Merged.extend_extend]
    simp [includedLayers, reachedFailures]
  | some room =>
    rw [Option.elim_some, Merged.applyRoom_eq_extend, Merged.extend_extend, Merged.extend_extend,
      Merged.extend_extend]
    simp

theorem fragment_merge (l : Layers) (r : Request) :
    (l.merge r).fragment = Fragment.mergeAll ((l.selection r).map (·.settings)) := by
  rw [merge_eq_extend]
  rfl

theorem applied_merge (l : Layers) (r : Request) :
    (l.merge r).trace.applied = (l.selection r).map (·.label) := by
  rw [merge_eq_extend]
  rfl

theorem failures_merge (l : Layers) (r : Request) :
    (l.merge r).trace.failures = reachedFailures r.scene (l.visits r) := by
  rw [merge_eq_extend]
  rfl

/-- The merge of a request lays exactly the selected layers over each other, and records their
names and the conditions that were reached and could not be decided. -/
theorem merge_eq_selection (l : Layers) (r : Request) :
    l.merge r =
      { fragment := Fragment.mergeAll ((l.selection r).map (·.settings))
        trace :=
          { applied := (l.selection r).map (·.label)
            failures := (l.visits r).filterMap (·.failure? r.scene)
            rejections := [] } } := by
  rw [merge_eq_extend]
  rfl

end Layers

end Household
