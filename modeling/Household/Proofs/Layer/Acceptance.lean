import Household.Proofs.Layer.Building
import Household.Proofs.Layer.DayWords
import Household.Proofs.Setting.Shapes

/-! # Which documents are accepted

A document is accepted exactly if each of its parts keeps its rules; where a part stands does not
matter. The layers of an accepted document are its parts one by one: nothing is left out, added,
moved or changed, apart from the interests of a member, which join the settings.
-/

set_option autoImplicit false

namespace Household

/-! ## The rules -/

/-- The value under every known key has the shape of that key. -/
def Fragment.KeepsShapes (f : Fragment) : Prop :=
  ∀ entry ∈ f, ∀ shape, shapeOf? entry.1 = some shape → shape.check entry.2 = .ok ()

theorem Fragment.check_eq_ok_iff {f : Fragment} : f.check = .ok () ↔ f.KeepsShapes := by
  refine checkAll_eq_ok_iff.trans (forall₂_congr fun entry _ => ?_)
  exact Shape.checkField_eq_ok_iff

namespace PeriodEntry

/-- Both bounds are times, and they differ. -/
def HasBounds (e : PeriodEntry) (s f : TimeOfDay) : Prop :=
  ∃ start finish, e.start = some start ∧ e.finish = some finish ∧
    TimeRange.bound start = .ok s ∧ TimeRange.bound finish = .ok f ∧ s ≠ f

structure KeepsRules (e : PeriodEntry) : Prop where
  name : isBlankName e.name = false
  manual : e.manual = true → e.start = none ∧ e.finish = none ∧ e.days = none
  bounds : e.manual = false → ∃ s f, e.HasBounds s f
  days : e.manual = false → ∀ words, e.days = some words →
    words ≠ [] ∧ ∀ word ∈ words, DaySet.IsKnown word
  settings : e.settings.KeepsShapes

/-- What switches the period on. A list of days that is left out stands for every day. -/
def SwitchedBy (e : PeriodEntry) : Activation → Prop
  | .manual => e.manual = true
  | .window range days => e.manual = false ∧ e.HasBounds range.start range.finish ∧
      ∀ d, d ∈ days ↔ ∀ words, e.days = some words → ∃ word ∈ words, DaySet.StandsFor word d

structure Becomes (e : PeriodEntry) (p : Period) : Prop where
  name : p.name = e.name
  description : p.description = e.description
  activation : e.SwitchedBy p.activation
  enabled : p.enabled = e.enabled
  settings : p.settings = e.settings

end PeriodEntry

mutual

/-- The condition and those nested in it, at all depths. -/
def ConditionEntry.nested : ConditionEntry → List ConditionEntry
  | ⟨name, source, settings, conditions⟩ =>
    ⟨name, source, settings, conditions⟩ :: nestedAll conditions

def nestedAll : List ConditionEntry → List ConditionEntry
  | [] => []
  | e :: rest => e.nested ++ nestedAll rest

end

/-- Whether a condition cannot be read as a tree. -/
def ConditionEntry.isBroken (e : ConditionEntry) : Bool := !(Condition.parse e.source).isOk

mutual

/-- The two trees have one shape, and so they agree at every place. -/
def ConditionEntry.Becomes (parent : String) (index : Nat) :
    ConditionEntry → RoomCondition → Prop
  | ⟨name, source, settings, conditions⟩, c =>
    c.id = parent ++ "/condition:" ++ conditionLabel index name ∧
      c.test = Condition.compile source ∧ c.settings = settings ∧
        BecomeAll c.id 0 conditions c.conditions

def BecomeAll (parent : String) (index : Nat) :
    List ConditionEntry → List RoomCondition → Prop
  | [], [] => True
  | e :: entries, c :: conditions =>
    e.Becomes parent index c ∧ BecomeAll parent (index + 1) entries conditions
  | _, _ => False

end

structure RoomEntry.KeepsRules (e : RoomEntry) : Prop where
  settings : e.settings.KeepsShapes
  conditions : ∀ c ∈ nestedAll e.conditions, c.settings.KeepsShapes

structure RoomEntry.Becomes (key : String) (e : RoomEntry) (room : Room) : Prop where
  location : room.location = key
  name : room.name = e.name
  settings : room.settings = e.settings
  conditions : BecomeAll ("room:" ++ key) 0 e.conditions room.conditions

structure GroupEntry.KeepsRules (e : GroupEntry) : Prop where
  name : isBlankName e.name = false
  settings : e.settings.KeepsShapes

structure GroupEntry.Becomes (e : GroupEntry) (g : Group) : Prop where
  name : g.name = e.name
  members : ∀ speaker, speaker ∈ g.members ↔ speaker ∈ e.members
  settings : g.settings = e.settings

/-- Interests that are listed stand among the settings, unless the settings name their own. -/
structure MemberEntry.Becomes (key : String) (e : MemberEntry) (m : Member) : Prop where
  id : m.id = key
  name : m.name = e.name
  settings : m.settings = e.allSettings
  entry : ∀ name, Keyed.get? m.settings name =
    if name = "interests" ∧ e.interests ≠ [] ∧ Keyed.get? e.settings name = none then
      some (.list e.interests)
    else Keyed.get? e.settings name

namespace Document

structure KeepsRules (d : Document) : Prop where
  base : d.base.KeepsShapes
  periods : ∀ e ∈ d.periods, e.KeepsRules
  periodNames : (d.periods.map (·.name)).Nodup
  rooms : ∀ entry ∈ d.rooms, entry.2.KeepsRules
  members : ∀ entry ∈ d.members, entry.2.allSettings.KeepsShapes
  groups : ∀ e ∈ d.groups, e.KeepsRules
  groupNames : (d.groups.map (·.name)).Nodup

/-- The conditions of all rooms, at all depths. -/
def conditions (d : Document) : List ConditionEntry :=
  d.rooms.flatMap fun entry => nestedAll entry.2.conditions

structure Becomes (d : Document) (l : Layers) : Prop where
  base : l.base = d.base
  periods : List.Forall₂ PeriodEntry.Becomes d.periods l.periods
  rooms : List.Forall₂ (fun entry built => built.1 = entry.1 ∧ entry.2.Becomes entry.1 built.2)
    d.rooms l.rooms
  groups : List.Forall₂ GroupEntry.Becomes d.groups l.groups
  members : List.Forall₂ (fun entry built => built.1 = entry.1 ∧ entry.2.Becomes entry.1 built.2)
    d.members l.members
  conditions : l.summary.conditions = d.conditions.length
  brokenConditions : l.summary.brokenConditions = d.conditions.countP (·.isBroken)

end Document

/-! ## Periods -/

namespace PeriodEntry

variable {e : PeriodEntry} {field : FieldPath}

theorem ofTexts_eq_ok_iff {start finish : String} {range : TimeRange} :
    TimeRange.ofTexts start finish = .ok range ↔
      TimeRange.bound start = .ok range.start ∧ TimeRange.bound finish = .ok range.finish := by
  obtain ⟨s, f⟩ := range
  unfold TimeRange.ofTexts
  cases TimeRange.bound start with
  | error bad => simp
  | ok s' =>
    cases TimeRange.bound finish with
    | error bad => simp
    | ok f' => simp

/-- The days of a window, as they are read. -/
def HasDays (e : PeriodEntry) (days : DaySet) : Prop :=
  match e.days with
  | none => days = DaySet.all
  | some words => DaySet.ofNames words = .ok days

theorem activation_of_texts {start finish : String} {a : Activation}
    (hManual : e.manual = false) (hStart : e.start = some start)
    (hFinish : e.finish = some finish) :
    e.activation field = .ok a ↔ ∃ range, TimeRange.ofTexts start finish = .ok range ∧
      range.start ≠ range.finish ∧ ∃ days, e.HasDays days ∧ a = .window range days := by
  simp only [activation, hManual, hStart, hFinish, Bool.false_eq_true, if_false]
  cases TimeRange.ofTexts start finish with
  | error bad => simp [breach]
  | ok range =>
    by_cases hSame : range.start = range.finish
    · simp [hSame, breach]
    · cases hDays : e.days with
      | none => simp [hSame, HasDays, hDays, eq_comm]
      | some words =>
        cases hRead : DaySet.ofNames words with
        | error fault => simp [hSame, HasDays, hDays, hRead, breach]
        | ok days => simp [hSame, HasDays, hDays, hRead, eq_comm]

theorem activation_eq_ok_iff {a : Activation} :
    e.activation field = .ok a ↔
      (e.manual = true ∧ (e.start = none ∧ e.finish = none ∧ e.days = none) ∧ a = .manual) ∨
        (e.manual = false ∧ ∃ range, e.HasBounds range.start range.finish ∧
          ∃ days, e.HasDays days ∧ a = .window range days) := by
  cases hManual : e.manual with
  | true =>
    cases hStart : e.start <;> cases hFinish : e.finish <;> cases hDays : e.days <;>
      simp [activation, hManual, hStart, hFinish, hDays, breach, eq_comm]
  | false =>
    cases hStart : e.start with
    | none => simp [activation, HasBounds, breach, hManual, hStart]
    | some start =>
      cases hFinish : e.finish with
      | none => simp [activation, HasBounds, breach, hManual, hStart, hFinish]
      | some finish =>
        rw [activation_of_texts hManual hStart hFinish]
        simp [HasBounds, ofTexts_eq_ok_iff, hStart, hFinish, and_assoc]

theorem HasDays.mem_iff {days : DaySet} (h : e.HasDays days) :
    (∀ words, e.days = some words → words ≠ [] ∧ ∀ word ∈ words, DaySet.IsKnown word) ∧
      ∀ d, d ∈ days ↔
        ∀ words, e.days = some words → ∃ word ∈ words, DaySet.StandsFor word d := by
  unfold HasDays at h
  cases hDays : e.days with
  | none =>
    rw [hDays] at h
    have hAll : days = DaySet.all := h
    subst hAll
    refine ⟨?_, fun d => iff_of_true (Weekday.mem_all d) ?_⟩
    · rintro _ ⟨⟩
    · rintro _ ⟨⟩
  | some words =>
    rw [hDays] at h
    obtain ⟨hWords, hKnown, hMem⟩ := DaySet.ofNames_eq_ok h
    refine ⟨?_, fun d => ?_⟩
    · rintro _ ⟨⟩
      exact ⟨hWords, hKnown⟩
    · rw [hMem]
      refine ⟨?_, fun hAll => hAll words rfl⟩
      rintro hd _ ⟨⟩
      exact hd

theorem exists_hasDays
    (h : ∀ words, e.days = some words → words ≠ [] ∧ ∀ word ∈ words, DaySet.IsKnown word) :
    ∃ days, e.HasDays days := by
  unfold HasDays
  cases hDays : e.days with
  | none => exact ⟨DaySet.all, rfl⟩
  | some words =>
    obtain ⟨hWords, hKnown⟩ := h words hDays
    exact DaySet.exists_ofNames hWords hKnown

theorem keepsRules_and_becomes_of_build {p : Period} (h : e.build field = .ok p) :
    e.KeepsRules ∧ e.Becomes p := by
  obtain ⟨hName, a, hActivation, hSettings, rfl⟩ := build_eq_ok_iff.mp h
  have hName := Bool.eq_false_iff.mpr hName
  have hSettings := Fragment.check_eq_ok_iff.mp hSettings
  rcases activation_eq_ok_iff.mp hActivation with
    ⟨hManual, hWindow, rfl⟩ | ⟨hManual, range, hBounds, days, hDays, rfl⟩
  · refine ⟨⟨hName, fun _ => hWindow, ?_, ?_, hSettings⟩, ⟨rfl, rfl, hManual, rfl, rfl⟩⟩
    · intro hFalse
      rw [hManual] at hFalse
      cases hFalse
    · intro hFalse
      rw [hManual] at hFalse
      cases hFalse
  · obtain ⟨hKnown, hMem⟩ := hDays.mem_iff
    refine ⟨⟨hName, ?_, fun _ => ⟨_, _, hBounds⟩, fun _ => hKnown, hSettings⟩,
      ⟨rfl, rfl, ⟨hManual, hBounds, hMem⟩, rfl, rfl⟩⟩
    intro hTrue
    rw [hManual] at hTrue
    cases hTrue

theorem exists_build (h : e.KeepsRules) (field : FieldPath) : ∃ p, e.build field = .ok p := by
  have hActivation : ∃ a, e.activation field = .ok a := by
    cases hManual : e.manual with
    | true => exact ⟨_, activation_eq_ok_iff.mpr (Or.inl ⟨hManual, h.manual hManual, rfl⟩)⟩
    | false =>
      obtain ⟨s, f, hBounds⟩ := h.bounds hManual
      obtain ⟨days, hDays⟩ := exists_hasDays (h.days hManual)
      exact ⟨_, activation_eq_ok_iff.mpr (Or.inr ⟨hManual, ⟨s, f⟩, hBounds, days, hDays, rfl⟩)⟩
  obtain ⟨a, hActivation⟩ := hActivation
  exact ⟨_, build_eq_ok_iff.mpr ⟨Bool.eq_false_iff.mp h.name, a, hActivation,
    Fragment.check_eq_ok_iff.mpr h.settings, rfl⟩⟩

end PeriodEntry

/-! ## Conditions -/

mutual

theorem ConditionEntry.becomes_of_build {field : FieldPath} {parent : String} {index : Nat}
    {e : ConditionEntry} {c : RoomCondition} (h : e.build field parent index = .ok c) :
    (∀ inner ∈ e.nested, inner.settings.KeepsShapes) ∧ e.Becomes parent index c := by
  cases e with
  | mk name source settings conditions =>
    simp only [ConditionEntry.build, bind_eq_ok_iff, pure_eq_ok_iff,
      exists_checkSettings_eq_ok_iff] at h
    obtain ⟨hCheck, below, hBelow, rfl⟩ := h
    obtain ⟨hInner, hBecome⟩ := becomeAll_of_buildConditions hBelow
    rw [ConditionEntry.nested, ConditionEntry.Becomes]
    exact ⟨List.forall_mem_cons.mpr ⟨Fragment.check_eq_ok_iff.mp hCheck, hInner⟩,
      rfl, rfl, rfl, hBecome⟩
termination_by sizeOf e

theorem becomeAll_of_buildConditions {field : FieldPath} {parent : String} {index : Nat}
    {entries : List ConditionEntry} {conditions : List RoomCondition}
    (h : buildConditions field parent index entries = .ok conditions) :
    (∀ inner ∈ nestedAll entries, inner.settings.KeepsShapes) ∧
      BecomeAll parent index entries conditions := by
  cases entries with
  | nil =>
    rw [buildConditions] at h
    cases h
    simp [nestedAll, BecomeAll]
  | cons e rest =>
    rw [buildConditions] at h
    simp only [bind_eq_ok_iff, pure_eq_ok_iff] at h
    obtain ⟨c, hBuild, later, hLater, rfl⟩ := h
    obtain ⟨hFirst, hBecomes⟩ := ConditionEntry.becomes_of_build hBuild
    obtain ⟨hRest, hBecome⟩ := becomeAll_of_buildConditions hLater
    rw [nestedAll, BecomeAll]
    exact ⟨List.forall_mem_append.mpr ⟨hFirst, hRest⟩, hBecomes, hBecome⟩
termination_by sizeOf entries

end

mutual

theorem ConditionEntry.exists_build {e : ConditionEntry}
    (h : ∀ inner ∈ e.nested, inner.settings.KeepsShapes) (field : FieldPath) (parent : String)
    (index : Nat) : ∃ c, e.build field parent index = .ok c := by
  cases e with
  | mk name source settings conditions =>
    rw [ConditionEntry.nested] at h
    obtain ⟨hSettings, hBelow⟩ := List.forall_mem_cons.mp h
    obtain ⟨below, hBuild⟩ := exists_buildConditions hBelow
      (field ++ [.key "conditions", .index index])
      (parent ++ "/condition:" ++ conditionLabel index name) 0
    refine ⟨⟨parent ++ "/condition:" ++ conditionLabel index name, Condition.compile source,
      settings, below⟩, ?_⟩
    simp only [ConditionEntry.build, bind_eq_ok_iff, pure_eq_ok_iff,
      exists_checkSettings_eq_ok_iff]
    exact ⟨Fragment.check_eq_ok_iff.mpr hSettings, below, hBuild, rfl⟩
termination_by sizeOf e

theorem exists_buildConditions {entries : List ConditionEntry}
    (h : ∀ inner ∈ nestedAll entries, inner.settings.KeepsShapes) (field : FieldPath)
    (parent : String) (index : Nat) :
    ∃ conditions, buildConditions field parent index entries = .ok conditions := by
  cases entries with
  | nil => exact ⟨[], by rw [buildConditions]⟩
  | cons e rest =>
    rw [nestedAll] at h
    obtain ⟨hFirst, hRest⟩ := List.forall_mem_append.mp h
    obtain ⟨c, hBuild⟩ := ConditionEntry.exists_build hFirst field parent index
    obtain ⟨later, hLater⟩ := exists_buildConditions hRest field parent (index + 1)
    refine ⟨c :: later, ?_⟩
    rw [buildConditions]
    simp only [bind_eq_ok_iff, pure_eq_ok_iff]
    exact ⟨c, hBuild, later, hLater, rfl⟩
termination_by sizeOf entries

end

theorem countAll_append (conditions conditions' : List RoomCondition) :
    countAll (conditions ++ conditions') =
      ((countAll conditions).1 + (countAll conditions').1,
        (countAll conditions).2 + (countAll conditions').2) := by
  induction conditions with
  | nil => simp [countAll]
  | cons c rest ih => simp [countAll, ih, Nat.add_assoc]

mutual

theorem ConditionEntry.count_of_becomes {parent : String} {index : Nat} {e : ConditionEntry}
    {c : RoomCondition} (h : e.Becomes parent index c) :
    c.count = (e.nested.length, e.nested.countP (·.isBroken)) := by
  cases e with
  | mk name source settings conditions =>
    obtain ⟨id, test, settings', below⟩ := c
    rw [ConditionEntry.Becomes] at h
    obtain ⟨-, rfl, -, hBelow⟩ := h
    have hCount := countAll_of_becomeAll hBelow
    have hFault : (Condition.compile source).fault?.isSome = !(Condition.parse source).isOk := by
      rw [Condition.Compiled.fault?, Condition.compile]
      cases Condition.parse source <;> rfl
    rw [RoomCondition.count, hCount, ConditionEntry.nested, hFault]
    simp [List.countP_cons, ConditionEntry.isBroken]
termination_by sizeOf e

theorem countAll_of_becomeAll {parent : String} {index : Nat} {entries : List ConditionEntry}
    {conditions : List RoomCondition} (h : BecomeAll parent index entries conditions) :
    countAll conditions =
      ((nestedAll entries).length, (nestedAll entries).countP (·.isBroken)) := by
  cases entries with
  | nil =>
    cases conditions with
    | nil => simp [countAll, nestedAll]
    | cons c rest => simp [BecomeAll] at h
  | cons e entries =>
    cases conditions with
    | nil => simp [BecomeAll] at h
    | cons c rest =>
      rw [BecomeAll] at h
      rw [countAll, ConditionEntry.count_of_becomes h.1, countAll_of_becomeAll h.2, nestedAll,
        List.length_append, List.countP_append]
termination_by sizeOf entries

end

/-! ## Lists of parts -/

section Parts

variable {α β : Type}

theorem forall₂_of_buildNamed {part : String} {name : α → String} {duplicate : String → Breach}
    {build : α → FieldPath → Checked β} {index : Nat} {seen : List String} {entries : List α}
    {results : List β} (h : buildNamed part name duplicate build index seen entries = .ok results)
    {P : α → Prop} {R : α → β → Prop}
    (hBuild : ∀ e field b, build e field = .ok b → P e ∧ R e b) :
    ((∀ e ∈ entries, P e) ∧ List.Forall₂ R entries results) ∧
      (entries.map name).Nodup ∧ ∀ e ∈ entries, name e ∉ seen := by
  induction entries generalizing index seen results with
  | nil =>
    cases h
    simp
  | cons e rest ih =>
    simp only [buildNamed, bind_eq_ok_iff, guard_eq_ok_iff, pure_eq_ok_iff] at h
    obtain ⟨b, hFirst, hNew, later, hLater, rfl⟩ := h
    obtain ⟨⟨hRules, hRest⟩, hNodup, hUnseen⟩ := ih hLater
    obtain ⟨hRule, hResult⟩ := hBuild e _ b hFirst
    refine ⟨⟨List.forall_mem_cons.mpr ⟨hRule, hRules⟩, .cons hResult hRest⟩, ?_, ?_⟩
    · rw [List.map_cons, List.nodup_cons]
      refine ⟨?_, hNodup⟩
      intro hMem
      obtain ⟨other, hOther, hSame⟩ := List.mem_map.mp hMem
      exact hUnseen other hOther (hSame ▸ List.mem_cons_self)
    · refine List.forall_mem_cons.mpr ⟨hNew, ?_⟩
      exact fun other hOther hSeen => hUnseen other hOther (List.mem_cons_of_mem _ hSeen)

theorem exists_buildNamed {name : α → String} {build : α → FieldPath → Checked β}
    {entries : List α} (hBuild : ∀ e ∈ entries, ∀ field, ∃ b, build e field = .ok b)
    (hNodup : (entries.map name).Nodup) (part : String) (duplicate : String → Breach)
    (index : Nat) {seen : List String} (hUnseen : ∀ e ∈ entries, name e ∉ seen) :
    ∃ results, buildNamed part name duplicate build index seen entries = .ok results := by
  induction entries generalizing index seen with
  | nil => exact ⟨[], rfl⟩
  | cons e rest ih =>
    obtain ⟨hFirst, hRest⟩ := List.forall_mem_cons.mp hBuild
    rw [List.map_cons, List.nodup_cons] at hNodup
    obtain ⟨b, hb⟩ := hFirst [.key part, .index index]
    have hLaterUnseen : ∀ other ∈ rest, name other ∉ name e :: seen := by
      intro other hOther hMem
      rcases List.mem_cons.mp hMem with hSame | hSeen
      · exact hNodup.1 (hSame ▸ List.mem_map_of_mem hOther)
      · exact hUnseen other (List.mem_cons_of_mem _ hOther) hSeen
    obtain ⟨later, hLater⟩ := ih hRest hNodup.2 (index + 1) hLaterUnseen
    refine ⟨b :: later, ?_⟩
    simp only [buildNamed, bind_eq_ok_iff, guard_eq_ok_iff, pure_eq_ok_iff]
    exact ⟨b, hb, hUnseen e List.mem_cons_self, later, hLater, rfl⟩

theorem forall₂_of_buildKeyed {build : α → String → Checked β} {entries : List (String × α)}
    {m : Keyed β} (h : buildKeyed build entries = .ok m) {P : α → Prop} {R : String → α → β → Prop}
    (hBuild : ∀ a key b, build a key = .ok b → P a ∧ R key a b) :
    (∀ entry ∈ entries, P entry.2) ∧
      List.Forall₂ (fun entry built => built.1 = entry.1 ∧ R entry.1 entry.2 built.2) entries m := by
  induction entries generalizing m with
  | nil =>
    cases h
    simp
  | cons entry rest ih =>
    obtain ⟨key, a⟩ := entry
    simp only [buildKeyed, bind_eq_ok_iff, pure_eq_ok_iff] at h
    obtain ⟨b, hFirst, later, hLater, rfl⟩ := h
    obtain ⟨hRules, hRest⟩ := ih hLater
    obtain ⟨hRule, hResult⟩ := hBuild a key b hFirst
    exact ⟨List.forall_mem_cons.mpr ⟨hRule, hRules⟩, .cons ⟨rfl, hResult⟩ hRest⟩

theorem exists_buildKeyed {build : α → String → Checked β} {entries : List (String × α)}
    (h : ∀ entry ∈ entries, ∃ b, build entry.2 entry.1 = .ok b) :
    ∃ m, buildKeyed build entries = .ok m := by
  induction entries with
  | nil => exact ⟨[], rfl⟩
  | cons entry rest ih =>
    obtain ⟨key, a⟩ := entry
    obtain ⟨⟨b, hBuild⟩, hRest⟩ := List.forall_mem_cons.mp h
    obtain ⟨later, hLater⟩ := ih hRest
    refine ⟨(key, b) :: later, ?_⟩
    simp only [buildKeyed, bind_eq_ok_iff, pure_eq_ok_iff]
    exact ⟨b, hBuild, later, hLater, rfl⟩

end Parts

/-! ## Rooms, groups and members -/

theorem RoomEntry.keepsRules_and_becomes_of_build {e : RoomEntry} {location : String}
    {room : Room} (h : e.build location = .ok room) :
    e.KeepsRules ∧ e.Becomes location room := by
  obtain ⟨hSettings, conditions, hConditions, rfl⟩ := build_eq_ok_iff.mp h
  obtain ⟨hInner, hBecome⟩ := becomeAll_of_buildConditions hConditions
  exact ⟨⟨Fragment.check_eq_ok_iff.mp hSettings, hInner⟩, ⟨rfl, rfl, rfl, hBecome⟩⟩

theorem RoomEntry.exists_build {e : RoomEntry} (h : e.KeepsRules) (location : String) :
    ∃ room, e.build location = .ok room := by
  obtain ⟨conditions, hConditions⟩ := exists_buildConditions h.conditions
    [.key "rooms", .key location] ("room:" ++ location) 0
  exact ⟨_, build_eq_ok_iff.mpr ⟨Fragment.check_eq_ok_iff.mpr h.settings, conditions,
    hConditions, rfl⟩⟩

theorem NameSet.mem_ofList {names : List String} {name : String} :
    name ∈ NameSet.ofList names ↔ name ∈ names := by
  suffices h : ∀ s : NameSet, name ∈ names.foldl insert s ↔ name ∈ s ∨ name ∈ names by
    rw [ofList, h, List.mem_nil_iff, false_or]
  induction names with
  | nil => simp
  | cons first rest ih =>
    intro s
    rw [List.foldl_cons, ih, mem_insert, List.mem_cons, or_assoc, or_left_comm]

theorem GroupEntry.keepsRules_and_becomes_of_build {e : GroupEntry} {field : FieldPath}
    {g : Group} (h : e.build field = .ok g) : e.KeepsRules ∧ e.Becomes g := by
  obtain ⟨hName, hSettings, rfl⟩ := build_eq_ok_iff.mp h
  exact ⟨⟨Bool.eq_false_iff.mpr hName, Fragment.check_eq_ok_iff.mp hSettings⟩,
    ⟨rfl, fun _ => NameSet.mem_ofList, rfl⟩⟩

theorem GroupEntry.exists_build {e : GroupEntry} (h : e.KeepsRules) (field : FieldPath) :
    ∃ g, e.build field = .ok g :=
  ⟨_, build_eq_ok_iff.mpr ⟨Bool.eq_false_iff.mp h.name, Fragment.check_eq_ok_iff.mpr h.settings,
    rfl⟩⟩

theorem MemberEntry.get?_allSettings (e : MemberEntry) (name : String) :
    Keyed.get? e.allSettings name =
      if name = "interests" ∧ e.interests ≠ [] ∧ Keyed.get? e.settings name = none then
        some (.list e.interests)
      else Keyed.get? e.settings name := by
  unfold allSettings
  by_cases hName : name = "interests"
  · subst hName
    cases hOwn : Keyed.get? e.settings "interests" <;> cases hInterests : e.interests <;>
      simp [Keyed.contains, hOwn]
  · split
    · simp [hName]
    · simp [hName, Ne.symm hName]

theorem MemberEntry.keepsShapes_and_becomes_of_build {e : MemberEntry} {id : String} {m : Member}
    (h : e.build id = .ok m) : e.allSettings.KeepsShapes ∧ e.Becomes id m := by
  obtain ⟨hSettings, rfl⟩ := build_eq_ok_iff.mp h
  exact ⟨Fragment.check_eq_ok_iff.mp hSettings, ⟨rfl, rfl, rfl, e.get?_allSettings⟩⟩

theorem MemberEntry.exists_build {e : MemberEntry} (h : e.allSettings.KeepsShapes) (id : String) :
    ∃ m, e.build id = .ok m :=
  ⟨_, build_eq_ok_iff.mpr ⟨Fragment.check_eq_ok_iff.mpr h, rfl⟩⟩

/-! ## Documents -/

namespace Layers

theorem countAll_of_rooms {entries : Keyed RoomEntry} {rooms : Keyed Room}
    (h : List.Forall₂ (fun entry built => built.1 = entry.1 ∧ entry.2.Becomes entry.1 built.2)
      entries rooms) :
    countAll (rooms.flatMap (·.2.conditions)) =
      ((entries.flatMap fun entry => nestedAll entry.2.conditions).length,
        (entries.flatMap fun entry => nestedAll entry.2.conditions).countP (·.isBroken)) := by
  induction h with
  | nil => simp [countAll]
  | cons hFirst hRest ih =>
    rw [List.flatMap_cons, countAll_append, ih, countAll_of_becomeAll hFirst.2.conditions,
      List.flatMap_cons, List.length_append, List.countP_append]

theorem keepsRules_and_becomes_of_ofDocument {d : Document} {l : Layers}
    (h : ofDocument d = .ok l) : d.KeepsRules ∧ d.Becomes l := by
  simp only [ofDocument, bind_eq_ok_iff, pure_eq_ok_iff, exists_checkSettings_eq_ok_iff] at h
  obtain ⟨hBase, periods, hPeriods, rooms, hRooms, members, hMembers, groups, hGroups, rfl⟩ := h
  obtain ⟨⟨hPeriodRules, hPeriods⟩, hPeriodNames, -⟩ := forall₂_of_buildNamed hPeriods
    fun _ _ _ => PeriodEntry.keepsRules_and_becomes_of_build
  obtain ⟨hRoomRules, hRooms⟩ := forall₂_of_buildKeyed hRooms
    fun _ _ _ => RoomEntry.keepsRules_and_becomes_of_build
  obtain ⟨hMemberRules, hMembers⟩ := forall₂_of_buildKeyed hMembers
    fun _ _ _ => MemberEntry.keepsShapes_and_becomes_of_build
  obtain ⟨⟨hGroupRules, hGroups⟩, hGroupNames, -⟩ := forall₂_of_buildNamed hGroups
    fun _ _ _ => GroupEntry.keepsRules_and_becomes_of_build
  have hCount := countAll_of_rooms hRooms
  exact ⟨⟨Fragment.check_eq_ok_iff.mp hBase, hPeriodRules, hPeriodNames, hRoomRules, hMemberRules,
      hGroupRules, hGroupNames⟩,
    ⟨rfl, hPeriods, hRooms, hGroups, hMembers, congrArg Prod.fst hCount,
      congrArg Prod.snd hCount⟩⟩

theorem exists_ofDocument {d : Document} (h : d.KeepsRules) : ∃ l, ofDocument d = .ok l := by
  obtain ⟨periods, hPeriods⟩ := exists_buildNamed
    (fun e he => PeriodEntry.exists_build (h.periods e he)) h.periodNames "time_periods"
    .duplicatePeriod 0 fun _ _ => List.not_mem_nil
  obtain ⟨rooms, hRooms⟩ := exists_buildKeyed
    fun entry hEntry => RoomEntry.exists_build (h.rooms entry hEntry) entry.1
  obtain ⟨members, hMembers⟩ := exists_buildKeyed
    fun entry hEntry => MemberEntry.exists_build (h.members entry hEntry) entry.1
  obtain ⟨groups, hGroups⟩ := exists_buildNamed
    (fun e he => GroupEntry.exists_build (h.groups e he)) h.groupNames "family_groups"
    .duplicateGroup 0 fun _ _ => List.not_mem_nil
  refine ⟨⟨d.base, periods, rooms, groups, members⟩, ?_⟩
  simp only [ofDocument, bind_eq_ok_iff, pure_eq_ok_iff, exists_checkSettings_eq_ok_iff]
  exact ⟨Fragment.check_eq_ok_iff.mpr h.base, periods, hPeriods, rooms, hRooms, members, hMembers,
    groups, hGroups, rfl⟩

/-- A document is accepted exactly if it keeps the rules, and it becomes its layers unchanged. -/
theorem accepts_iff_keepsRules_and_becomes (d : Document) :
    ((∃ l, ofDocument d = .ok l) ↔ d.KeepsRules) ∧ ∀ l, ofDocument d = .ok l → d.Becomes l := by
  refine ⟨⟨?_, exists_ofDocument⟩, fun l h => (keepsRules_and_becomes_of_ofDocument h).2⟩
  rintro ⟨l, h⟩
  exact (keepsRules_and_becomes_of_ofDocument h).1

end Layers

end Household
