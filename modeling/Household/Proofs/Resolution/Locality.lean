import Household.Proofs.Condition.Evaluation
import Household.Proofs.Resolution.LastMention

/-! # What a profile depends on

Of a household a request sees the base, the periods, one room, one group and one member; of the
request the household sees the clock without the date, the occupants, the modes that periods are
named after, and the states that the room asks for. Whatever else differs, the profile and its
trace are the same.
-/

set_option autoImplicit false

namespace Household

mutual

/-- The states that a condition and those below it ask for. -/
def RoomCondition.stateKeys : RoomCondition → List String
  | ⟨_, test, _, conditions⟩ => test.stateKeys ++ stateKeysAll conditions

def stateKeysAll : List RoomCondition → List String
  | [] => []
  | c :: rest => c.stateKeys ++ stateKeysAll rest

end

/-- The first request sees of the first household what the second request sees of the second, and
is seen alike. -/
structure Layers.SameView (l l' : Layers) (r r' : Request) : Prop where
  speaker : r.speaker = r'.speaker
  location : r.location = r'.location
  weekday : r.weekday = r'.weekday
  time : r.time = r'.time
  occupants : r.occupants = r'.occupants
  base : l.base = l'.base
  periods : l.periods = l'.periods
  room : l.roomOf? r = l'.roomOf? r'
  group : l.speakersGroup? r = l'.speakersGroup? r'
  member : l.speakersMember? r = l'.speakersMember? r'
  modes : ∀ p ∈ l.periods, p.activation = .manual → (p.name ∈ r.modes ↔ p.name ∈ r'.modes)
  state : ∀ room, l.roomOf? r = some room → ∀ key ∈ stateKeysAll room.conditions,
    r.state.lookup key = r'.state.lookup key

namespace Merged

variable {s s' : Condition.Scene}

mutual

theorem applyCondition_congr (m : Merged) {c : RoomCondition} (h : s.Agree c.stateKeys s') :
    applyCondition s m c = applyCondition s' m c := by
  cases c with
  | mk id test settings conditions =>
    rw [RoomCondition.stateKeys] at h
    rw [applyCondition, applyCondition, Condition.Compiled.holds_congr h.left]
    cases test.holds s' with
    | error fault => rfl
    | ok met =>
      cases met with
      | false => rfl
      | true => exact applyConditions_congr _ h.right
termination_by sizeOf c

theorem applyConditions_congr (m : Merged) {conditions : List RoomCondition}
    (h : s.Agree (stateKeysAll conditions) s') :
    applyConditions s m conditions = applyConditions s' m conditions := by
  cases conditions with
  | nil => rw [applyConditions, applyConditions]
  | cons c rest =>
    rw [stateKeysAll] at h
    rw [applyConditions, applyConditions, applyCondition_congr m h.left,
      applyConditions_congr _ h.right]
termination_by sizeOf conditions

end

end Merged

/-- A period in a window does not look at the modes, and a manual one not at the clock. -/
theorem Period.isActive_congr {p : Period} {r r' : Request} (hWeekday : r.weekday = r'.weekday)
    (hTime : r.time = r'.time)
    (hModes : p.activation = .manual → (p.name ∈ r.modes ↔ p.name ∈ r'.modes)) :
    p.isActive r = p.isActive r' := by
  rw [isActive, isActive]
  cases hActivation : p.activation with
  | window range days => rw [hWeekday, hTime]
  | manual =>
    have hContains : r.modes.contains p.name = r'.modes.contains p.name := by
      rw [Bool.eq_iff_iff, List.contains_iff_mem, List.contains_iff_mem]
      exact hModes hActivation
    rw [hContains]

namespace Layers.SameView

variable {l l' : Layers} {r r' : Request}

theorem activePeriods_eq (h : l.SameView l' r r') : l.activePeriods r = l'.activePeriods r' := by
  rw [activePeriods, activePeriods, ← h.periods]
  apply List.filter_congr
  intro p hp
  exact Period.isActive_congr h.weekday h.time (h.modes p hp)

theorem scenes_agree (h : l.SameView l' r r') {room : Room}
    (hRoom : l.roomOf? r = some room) :
    r.scene.Agree (stateKeysAll room.conditions) r'.scene where
  hour := congrArg TimeOfDay.hour h.time
  minute := congrArg TimeOfDay.minute h.time
  weekday := h.weekday
  occupants := h.occupants
  state key hKey := by
    rw [Keyed.get?_eq_lookup, Keyed.get?_eq_lookup]
    exact h.state room hRoom key hKey

theorem applyRoom_eq (h : l.SameView l' r r') {room : Room}
    (hRoom : l.roomOf? r = some room) (m : Merged) :
    m.applyRoom r room = m.applyRoom r' room :=
  Merged.applyConditions_congr _ (h.scenes_agree hRoom)

theorem merge_eq (h : l.SameView l' r r') : l.merge r = l'.merge r' := by
  rw [merge_eq_apply, merge_eq_apply]
  dsimp only
  rw [h.activePeriods_eq, h.base, ← h.room, ← h.group, ← h.member]
  cases hRoom : l.roomOf? r with
  | none => rw [Option.elim_none, Option.elim_none]
  | some room => rw [Option.elim_some, Option.elim_some, h.applyRoom_eq hRoom]

end Layers.SameView

/-- A profile and its trace depend on nothing that the request does not see of the household and
the household not of the request. -/
theorem Layers.resolve_eq_of_sameView {l l' : Layers} {r r' : Request}
    (h : l.SameView l' r r') : l.resolve r = l'.resolve r' := by
  rw [resolve, resolve, h.merge_eq]

def cinema : Room where
  location := "den"
  name := none
  settings := [("voice", .str "calm")]
  conditions :=
    [⟨"room:den/condition:film", Condition.compile "state(tv)",
      [("max_response_length", .int 40)],
      [⟨"room:den/condition:film/condition:dark", Condition.compile "not state(lamp)",
        [("voice_volume", .str "whisper")], []⟩]⟩]

def filmNight : Period where
  name := "film night"
  description := ""
  activation := .manual
  enabled := true
  settings := [("proactive_suggestions", .bool false)]

def smallHousehold : Layers where
  base := []
  periods := [filmNight]
  rooms := [("den", cinema)]
  groups := []
  members := [("ada", ⟨"ada", none, [("interests", .list ["trains"])]⟩)]

def largeHousehold : Layers where
  base := []
  periods := [filmNight]
  rooms := [("attic", ⟨"attic", none, [("voice", .str "loud")], []⟩), ("den", cinema)]
  groups := [⟨"guests", ["bob"], [("model", .str "small")]⟩]
  members :=
    [("ada", ⟨"ada", none, [("interests", .list ["trains"])]⟩),
      ("bob", ⟨"bob", none, [("voice", .unset)]⟩)]

def filmRequest : Request :=
  { denRequest with
    modes := ["film night"]
    state := [("tv", .str "on")]
    occupants := ["ada"] }

/-- A week later, with the door open and another mode switched on. -/
def laterRequest : Request :=
  { filmRequest with
    moment :=
      { denRequest.moment with
        date :=
          { denRequest.moment.date with
            day := 27
            day_pos := by decide
            day_le := by decide } }
    modes := ["film night", "party"]
    state := [("door", .bool true), ("tv", .str "on")] }

theorem stateKeys_cinema : stateKeysAll cinema.conditions = ["tv", "lamp"] := by decide +kernel

theorem sameView_film : smallHousehold.SameView largeHousehold filmRequest laterRequest where
  speaker := rfl
  location := rfl
  weekday := by decide
  time := rfl
  occupants := rfl
  base := rfl
  periods := rfl
  room := rfl
  group := rfl
  member := rfl
  modes := by decide
  state room hRoom key hKey := by
    obtain rfl : cinema = room := Option.some.inj hRoom
    rw [stateKeys_cinema] at hKey
    rcases List.mem_cons.mp hKey with rfl | hKey
    · rfl
    · rw [List.mem_singleton.mp hKey]
      rfl

theorem Layers.resolve_eq_of_sameView_film :
    smallHousehold.SameView largeHousehold filmRequest laterRequest ∧
      smallHousehold.resolve filmRequest = largeHousehold.resolve laterRequest :=
  ⟨sameView_film, Layers.resolve_eq_of_sameView sameView_film⟩

end Household
