import Household.Layer.Build
import Household.Proofs.Resolution.Selection

/-! # Layers of an accepted document

Every builder checks the settings that it passes on. In the layers of a document that is accepted
all settings are therefore checked, those of the conditions at every depth among them, and so is
every layer that a request selects.
-/

set_option autoImplicit false

namespace Household

section Steps

variable {α β : Type}

theorem bind_eq_ok_iff {x : Checked α} {f : α → Checked β} {b : β} :
    (x >>= f) = .ok b ↔ ∃ a, x = .ok a ∧ f a = .ok b := by
  constructor
  · intro h
    cases x with
    | ok a => exact ⟨a, rfl, h⟩
    | error fault => cases h
  · rintro ⟨a, rfl, h⟩
    exact h

theorem pure_eq_ok_iff {a b : α} : (pure a : Checked α) = .ok b ↔ b = a :=
  ⟨fun h => (Except.ok.inj h).symm, fun h => h ▸ rfl⟩

theorem guard_eq_ok_iff {c : Prop} [Decidable c] {field : FieldPath} {rule : Breach}
    {next : Unit → Checked α} {a : α} :
    (if c then breach field rule >>= next else next ()) = .ok a ↔ ¬c ∧ next () = .ok a := by
  by_cases hc : c
  · rw [if_pos hc]
    constructor
    · intro h
      cases h
    · rintro ⟨hNot, -⟩
      exact absurd hc hNot
  · rw [if_neg hc]
    exact (and_iff_right hc).symm

end Steps

theorem exists_checkSettings_eq_ok_iff {field : FieldPath} {settings : Fragment} {P : Prop} :
    (∃ u, checkSettings field settings = .ok u ∧ P) ↔ settings.check = .ok () ∧ P := by
  rw [checkSettings]
  cases hCheck : settings.check with
  | ok _ => simp
  | error c => simp [breach]

theorem PeriodEntry.build_eq_ok_iff {e : PeriodEntry} {field : FieldPath} {p : Period} :
    e.build field = .ok p ↔
      ¬isBlankName e.name = true ∧ ∃ activation, e.activation field = .ok activation ∧
        e.settings.check = .ok () ∧
          p = ⟨e.name, e.description, activation, e.enabled, e.settings⟩ := by
  simp only [build, guard_eq_ok_iff, bind_eq_ok_iff, pure_eq_ok_iff,
    exists_checkSettings_eq_ok_iff]

theorem MemberEntry.build_eq_ok_iff {e : MemberEntry} {id : String} {m : Member} :
    e.build id = .ok m ↔ e.allSettings.check = .ok () ∧ m = ⟨id, e.name, e.allSettings⟩ := by
  simp only [build, bind_eq_ok_iff, pure_eq_ok_iff, exists_checkSettings_eq_ok_iff]

theorem GroupEntry.build_eq_ok_iff {e : GroupEntry} {field : FieldPath} {g : Group} :
    e.build field = .ok g ↔
      ¬isBlankName e.name = true ∧ e.settings.check = .ok () ∧
        g = ⟨e.name, NameSet.ofList e.members, e.settings⟩ := by
  simp only [build, guard_eq_ok_iff, bind_eq_ok_iff, pure_eq_ok_iff,
    exists_checkSettings_eq_ok_iff]

theorem RoomEntry.build_eq_ok_iff {e : RoomEntry} {location : String} {room : Room} :
    e.build location = .ok room ↔
      e.settings.check = .ok () ∧ ∃ conditions,
        buildConditions [.key "rooms", .key location] ("room:" ++ location) 0 e.conditions =
            .ok conditions ∧
          room = ⟨location, e.name, e.settings, conditions⟩ := by
  simp only [build, bind_eq_ok_iff, pure_eq_ok_iff, exists_checkSettings_eq_ok_iff]

theorem exists_build_of_mem_buildNamed {α β : Type} {part : String} {name : α → String}
    {duplicate : String → Breach} {build : α → FieldPath → Checked β} {index : Nat}
    {seen : List String} {entries : List α} {results : List β}
    (h : buildNamed part name duplicate build index seen entries = .ok results) :
    ∀ b ∈ results, ∃ e ∈ entries, ∃ field, build e field = .ok b := by
  induction entries generalizing index seen results with
  | nil =>
    cases h
    simp
  | cons e rest ih =>
    simp only [buildNamed, bind_eq_ok_iff, guard_eq_ok_iff, pure_eq_ok_iff] at h
    obtain ⟨first, hBuild, -, later, hLater, rfl⟩ := h
    intro b hb
    rcases List.mem_cons.mp hb with rfl | hb
    · exact ⟨e, List.mem_cons_self, _, hBuild⟩
    · obtain ⟨e', hMem, hBuild'⟩ := ih hLater b hb
      exact ⟨e', List.mem_cons_of_mem _ hMem, hBuild'⟩

theorem exists_build_of_mem_buildKeyed {α β : Type} {build : α → String → Checked β}
    {entries : List (String × α)} {m : Keyed β} (h : buildKeyed build entries = .ok m) :
    ∀ entry ∈ m, ∃ a, (entry.1, a) ∈ entries ∧ build a entry.1 = .ok entry.2 := by
  induction entries generalizing m with
  | nil =>
    cases h
    simp
  | cons first rest ih =>
    obtain ⟨key, a⟩ := first
    simp only [buildKeyed, bind_eq_ok_iff, pure_eq_ok_iff] at h
    obtain ⟨b, hBuild, later, hLater, rfl⟩ := h
    intro entry hEntry
    rcases List.mem_cons.mp hEntry with rfl | hEntry
    · exact ⟨a, List.mem_cons_self, hBuild⟩
    · obtain ⟨a', hMem, hBuild'⟩ := ih hLater entry hEntry
      exact ⟨a', List.mem_cons_of_mem _ hMem, hBuild'⟩

mutual

theorem ConditionEntry.check_of_build {field : FieldPath} {parent : String} {index : Nat}
    {e : ConditionEntry} {c : RoomCondition} (h : e.build field parent index = .ok c)
    (above : List RoomCondition) : ∀ v ∈ c.visits above, v.condition.settings.check = .ok () := by
  cases e with
  | mk name source settings conditions =>
    simp only [ConditionEntry.build, bind_eq_ok_iff, pure_eq_ok_iff,
      exists_checkSettings_eq_ok_iff] at h
    obtain ⟨hCheck, below, hBelow, rfl⟩ := h
    intro v hv
    rw [RoomCondition.visits] at hv
    rcases List.mem_cons.mp hv with rfl | hv
    · exact hCheck
    · exact check_of_buildConditions hBelow _ v hv
termination_by sizeOf e

theorem check_of_buildConditions {field : FieldPath} {parent : String} {index : Nat}
    {entries : List ConditionEntry} {conditions : List RoomCondition}
    (h : buildConditions field parent index entries = .ok conditions)
    (above : List RoomCondition) :
    ∀ v ∈ visitsAll above conditions, v.condition.settings.check = .ok () := by
  cases entries with
  | nil =>
    rw [buildConditions] at h
    cases h
    simp [visitsAll]
  | cons e rest =>
    rw [buildConditions] at h
    simp only [bind_eq_ok_iff, pure_eq_ok_iff] at h
    obtain ⟨c, hBuild, later, hLater, rfl⟩ := h
    intro v hv
    rw [visitsAll] at hv
    rcases List.mem_append.mp hv with hv | hv
    · exact ConditionEntry.check_of_build hBuild above v hv
    · exact check_of_buildConditions hLater above v hv
termination_by sizeOf entries

end

namespace Layers

/-- All settings are checked. -/
structure Sound (l : Layers) : Prop where
  base : l.base.check = .ok ()
  periods : ∀ p ∈ l.periods, p.settings.check = .ok ()
  rooms : ∀ entry ∈ l.rooms, entry.2.settings.check = .ok ()
  conditions : ∀ entry ∈ l.rooms, ∀ v ∈ visitsAll [] entry.2.conditions,
    v.condition.settings.check = .ok ()
  groups : ∀ g ∈ l.groups, g.settings.check = .ok ()
  members : ∀ entry ∈ l.members, entry.2.settings.check = .ok ()

theorem sound_of_ofDocument {d : Document} {l : Layers} (h : ofDocument d = .ok l) : l.Sound := by
  simp only [ofDocument, bind_eq_ok_iff, pure_eq_ok_iff, exists_checkSettings_eq_ok_iff] at h
  obtain ⟨hBase, periods, hPeriods, rooms, hRooms, members, hMembers, groups, hGroups, rfl⟩ := h
  refine ⟨hBase, ?_, ?_, ?_, ?_, ?_⟩
  · intro p hp
    obtain ⟨e, -, field, hBuild⟩ := exists_build_of_mem_buildNamed hPeriods p hp
    obtain ⟨-, activation, -, hCheck, rfl⟩ := PeriodEntry.build_eq_ok_iff.mp hBuild
    exact hCheck
  · intro entry hEntry
    obtain ⟨e, -, hBuild⟩ := exists_build_of_mem_buildKeyed hRooms entry hEntry
    obtain ⟨hCheck, conditions, -, hRoom⟩ := RoomEntry.build_eq_ok_iff.mp hBuild
    rw [hRoom]
    exact hCheck
  · intro entry hEntry
    obtain ⟨e, -, hBuild⟩ := exists_build_of_mem_buildKeyed hRooms entry hEntry
    obtain ⟨-, conditions, hConditions, hRoom⟩ := RoomEntry.build_eq_ok_iff.mp hBuild
    rw [hRoom]
    exact check_of_buildConditions hConditions []
  · intro g hg
    obtain ⟨e, -, field, hBuild⟩ := exists_build_of_mem_buildNamed hGroups g hg
    obtain ⟨-, hCheck, rfl⟩ := GroupEntry.build_eq_ok_iff.mp hBuild
    exact hCheck
  · intro entry hEntry
    obtain ⟨e, -, hBuild⟩ := exists_build_of_mem_buildKeyed hMembers entry hEntry
    obtain ⟨hCheck, hMember⟩ := MemberEntry.build_eq_ok_iff.mp hBuild
    rw [hMember]
    exact hCheck

theorem Sound.check_of_roomOf? {l : Layers} (hSound : l.Sound) {r : Request} {room : Room}
    (h : l.roomOf? r = some room) :
    room.settings.check = .ok () ∧
      ∀ v ∈ visitsAll [] room.conditions, v.condition.settings.check = .ok () := by
  obtain ⟨location, -, hRoom⟩ := Option.bind_eq_some_iff.mp h
  have hMem := Keyed.mem_of_lookup hRoom
  exact ⟨hSound.rooms _ hMem, hSound.conditions _ hMem⟩

theorem Sound.check_of_mem_selection {l : Layers} (hSound : l.Sound) (r : Request) :
    ∀ layer ∈ l.selection r, layer.settings.check = .ok () := by
  intro layer hLayer
  simp only [selection, List.cons_append, List.mem_cons, List.mem_append, List.mem_map,
    Option.mem_toList, or_assoc] at hLayer
  rcases hLayer with rfl | ⟨p, hp, rfl⟩ | ⟨room, hRoom, rfl⟩ | hIncluded | ⟨g, hg, rfl⟩ |
    ⟨m, hm, rfl⟩
  · exact hSound.base
  · exact hSound.periods p (List.mem_filter.mp hp).1
  · exact (hSound.check_of_roomOf? hRoom).1
  · obtain ⟨v, hv, rfl⟩ := List.mem_map.mp hIncluded
    have hVisit := (List.mem_filter.mp hv).1
    rw [visits] at hVisit
    cases hRoom : l.roomOf? r with
    | none =>
      rw [hRoom] at hVisit
      cases hVisit
    | some room =>
      rw [hRoom] at hVisit
      exact (hSound.check_of_roomOf? hRoom).2 v hVisit
  · obtain ⟨speaker, -, hFind⟩ := Option.bind_eq_some_iff.mp hg
    exact hSound.groups g (List.mem_of_find?_eq_some hFind)
  · obtain ⟨speaker, -, hMember⟩ := Option.bind_eq_some_iff.mp hm
    exact hSound.members _ (Keyed.mem_of_lookup hMember)

end Layers

end Household
