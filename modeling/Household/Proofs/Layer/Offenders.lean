import Household.Proofs.Layer.Acceptance
import Household.Proofs.Setting.Complaints

/-! # Faults name the offender

When a document is rejected, the field that is reported leads to a part of it that breaks a rule
itself: a setting that does not fit, a name that is blank or taken, a bound or a list of days that
cannot be read, a period that is neither one thing nor the other. There is one exception. A bound at
the end that is no time is reported at the start.
-/

set_option autoImplicit false

namespace Household

/-! ## Parts that break a rule -/

/-- What is wrong with a period, and at which of its fields. -/
inductive PeriodEntry.Breaks (e : PeriodEntry) : FieldPath → Breach → Prop where
  | blankName (h : isBlankName e.name = true) : Breaks e [.key "name"] .blankPeriodName
  | manualWindow (hManual : e.manual = true)
      (hWindow : e.start ≠ none ∨ e.finish ≠ none ∨ e.days ≠ none) :
      Breaks e [] (.manualWithWindow e.name)
  | incomplete (hManual : e.manual = false) (hBound : e.start = none ∨ e.finish = none) :
      Breaks e [] (.incompleteWindow e.name)
  | badStart {start : String} {bad : TimeRange.BadTime} (hStart : e.start = some start)
      (hBad : TimeRange.bound start = .error bad) : Breaks e [.key "start"] (.badTime bad)
  | badEnd {finish : String} {bad : TimeRange.BadTime} (hFinish : e.finish = some finish)
      (hBad : TimeRange.bound finish = .error bad) : Breaks e [.key "end"] (.badTime bad)
  | equalEnd {start finish : String} {t : TimeOfDay} (hStart : e.start = some start)
      (hFinish : e.finish = some finish) (hFirst : TimeRange.bound start = .ok t)
      (hLast : TimeRange.bound finish = .ok t) : Breaks e [.key "end"] .emptyWindow
  | noDays (h : e.days = some []) : Breaks e [.key "days"] (.badDays .noDays)
  | unknownDay {words : List String} {word : String} (hDays : e.days = some words)
      (hMem : word ∈ words) (hUnknown : ¬DaySet.IsKnown word) :
      Breaks e [.key "days"] (.badDays (.unknownDay (Weekday.normalName word)))

/-- The end is no time and the start is one, but it is the start that is named. -/
def PeriodEntry.BlamesStart (e : PeriodEntry) (field : FieldPath) (rule : Breach) : Prop :=
  ∃ start finish t bad, e.start = some start ∧ TimeRange.bound start = .ok t ∧
    e.finish = some finish ∧ TimeRange.bound finish = .error bad ∧
      field = [.key "start"] ∧ rule = .badTime bad

namespace Document

/-- The field leads to the list of conditions of a room or of a condition. -/
inductive HoldsConditions (d : Document) : FieldPath → List ConditionEntry → Prop where
  | room {name : String} {e : RoomEntry} (h : (name, e) ∈ d.rooms) :
      HoldsConditions d [.key "rooms", .key name] e.conditions
  | nested {field : FieldPath} {entries : List ConditionEntry} {i : Nat} {e : ConditionEntry}
      (hOuter : HoldsConditions d field entries) (h : entries[i]? = some e) :
      HoldsConditions d (field ++ [.key "conditions", .index i]) e.conditions

/-- The field leads to settings. -/
inductive HoldsSettings (d : Document) : FieldPath → Fragment → Prop where
  | base : HoldsSettings d [.key "base_defaults"] d.base
  | period {i : Nat} {e : PeriodEntry} (h : d.periods[i]? = some e) :
      HoldsSettings d [.key "time_periods", .index i, .key "settings"] e.settings
  | room {name : String} {e : RoomEntry} (h : (name, e) ∈ d.rooms) :
      HoldsSettings d [.key "rooms", .key name, .key "settings"] e.settings
  | condition {field : FieldPath} {entries : List ConditionEntry} {i : Nat} {e : ConditionEntry}
      (hOuter : HoldsConditions d field entries) (h : entries[i]? = some e) :
      HoldsSettings d (field ++ [.key "conditions", .index i] ++ [.key "settings"]) e.settings
  | member {id : String} {e : MemberEntry} (h : (id, e) ∈ d.members) :
      HoldsSettings d [.key "family_members", .key id, .key "settings"] e.settings
  | group {i : Nat} {e : GroupEntry} (h : d.groups[i]? = some e) :
      HoldsSettings d [.key "family_groups", .index i, .key "settings"] e.settings

/-- The part of the document to which the field leads breaks the rule. -/
inductive Breaks (d : Document) : FieldPath → Breach → Prop where
  | setting {field : FieldPath} {f : Fragment} {path : List String} {misfit : Misfit}
      (hSettings : d.HoldsSettings field f) (h : f.Offends path misfit) :
      Breaks d (field ++ .keys path) (.setting misfit)
  | period {i : Nat} {e : PeriodEntry} {field : FieldPath} {rule : Breach}
      (hPeriod : d.periods[i]? = some e) (h : e.Breaks field rule) :
      Breaks d ([.key "time_periods", .index i] ++ field) rule
  | duplicatePeriod {i j : Nat} {e earlier : PeriodEntry} (hPeriod : d.periods[i]? = some e)
      (hBefore : j < i) (hEarlier : d.periods[j]? = some earlier) (hName : earlier.name = e.name) :
      Breaks d [.key "time_periods", .index i, .key "name"] (.duplicatePeriod e.name)
  | blankGroup {i : Nat} {e : GroupEntry} (hGroup : d.groups[i]? = some e)
      (h : isBlankName e.name = true) :
      Breaks d [.key "family_groups", .index i, .key "name"] .blankGroupName
  | duplicateGroup {i j : Nat} {e earlier : GroupEntry} (hGroup : d.groups[i]? = some e)
      (hBefore : j < i) (hEarlier : d.groups[j]? = some earlier) (hName : earlier.name = e.name) :
      Breaks d [.key "family_groups", .index i, .key "name"] (.duplicateGroup e.name)

/-- The field names the start of a period whose end is no time. -/
def BlamesStart (d : Document) (field : FieldPath) (rule : Breach) : Prop :=
  ∃ i e rest, d.periods[i]? = some e ∧ e.BlamesStart rest rule ∧
    field = [.key "time_periods", .index i] ++ rest

end Document

/-! ## Steps that fail -/

section Steps

variable {α β : Type} {fault : LoadFault}

theorem bind_eq_error_iff {x : Checked α} {f : α → Checked β} :
    (x >>= f) = .error fault ↔ x = .error fault ∨ ∃ a, x = .ok a ∧ f a = .error fault := by
  cases x with
  | error first => simp [bind, Except.bind]
  | ok a => simp [bind, Except.bind]

theorem pure_eq_error_iff {a : α} : (pure a : Checked α) = .error fault ↔ False :=
  iff_of_false (fun h => nomatch h) id

theorem guard_eq_error_iff {c : Prop} [Decidable c] {field : FieldPath} {rule : Breach}
    {next : Unit → Checked α} :
    (if c then breach field rule >>= next else next ()) = .error fault ↔
      c ∧ fault = .invalid field rule ∨ ¬c ∧ next () = .error fault := by
  by_cases hc : c
  · rw [if_pos hc]
    have hBreach : (breach field rule >>= next) = .error (.invalid field rule) := rfl
    rw [hBreach]
    simp [hc, eq_comm]
  · rw [if_neg hc]
    simp [hc]

theorem offends_of_checkSettings {field : FieldPath} {settings : Fragment}
    (h : checkSettings field settings = .error fault) :
    ∃ path misfit, settings.Offends path misfit ∧
      fault = .invalid (field ++ .keys path) (.setting misfit) := by
  rw [checkSettings] at h
  split at h
  · cases h
  · rename_i c hCheck
    cases h
    exact ⟨_, _, Fragment.offends_of_check hCheck, rfl⟩

end Steps

/-! ## Periods -/

namespace DaySet

theorem eq_normalName_of_ofName {word given : String} (h : Weekday.ofName word = .error given) :
    given = Weekday.normalName word := by
  rw [Weekday.ofName] at h
  split at h
  · cases h
  · exact (Except.error.inj h).symm

theorem eq_unknownDay_of_named {word : String} {fault : Fault} (h : named word = .error fault) :
    ¬IsKnown word ∧ fault = .unknownDay (Weekday.normalName word) := by
  constructor
  · rintro ⟨days, hDays⟩
    rw [named_eq_ok_iff.mpr hDays] at h
    cases h
  · rw [named] at h
    split at h
    · cases h
    split at h
    · cases h
    split at h
    · cases h
    split at h
    · cases h
    · rename_i given hGiven
      cases h
      rw [eq_normalName_of_ofName hGiven, Weekday.normalName_normalName]

theorem exists_unknown_of_union {words : List String} {fault : Fault}
    (h : union words = .error fault) :
    ∃ word ∈ words, ¬IsKnown word ∧ fault = .unknownDay (Weekday.normalName word) := by
  induction words with
  | nil => cases h
  | cons word rest ih =>
    rw [union] at h
    split at h
    · rename_i hNamed
      cases h
      exact ⟨word, List.mem_cons_self, eq_unknownDay_of_named hNamed⟩
    · obtain ⟨later, hMem, hLater⟩ := ih (map_eq_error_iff.mp h)
      exact ⟨later, List.mem_cons_of_mem _ hMem, hLater⟩

theorem ofNames_eq_error {words : List String} {fault : Fault} (h : ofNames words = .error fault) :
    words = [] ∧ fault = .noDays ∨
      ∃ word ∈ words, ¬IsKnown word ∧ fault = .unknownDay (Weekday.normalName word) := by
  rw [ofNames] at h
  split at h
  · rename_i hEmpty
    cases h
    exact .inl ⟨List.isEmpty_iff.mp hEmpty, rfl⟩
  · exact .inr (exists_unknown_of_union (map_eq_error_iff.mp h))

end DaySet

namespace PeriodEntry

variable {e : PeriodEntry} {field : FieldPath} {fault : LoadFault}

theorem ofTexts_eq_error {start finish : String} {bad : TimeRange.BadTime}
    (h : TimeRange.ofTexts start finish = .error bad) :
    TimeRange.bound start = .error bad ∨
      (∃ t, TimeRange.bound start = .ok t) ∧ TimeRange.bound finish = .error bad := by
  unfold TimeRange.ofTexts at h
  split at h
  · rename_i hStart
    cases h
    exact .inl hStart
  · rename_i t hStart
    split at h
    · rename_i hFinish
      cases h
      exact .inr ⟨⟨t, hStart⟩, hFinish⟩
    · cases h

theorem activation_of_incomplete (hManual : e.manual = false)
    (hBound : e.start = none ∨ e.finish = none) :
    e.activation field = breach field (.incompleteWindow e.name) := by
  rw [activation, if_neg (by simp [hManual])]
  rcases hBound with hStart | hFinish
  · rw [hStart]
  · rw [hFinish]
    cases e.start <;> rfl

theorem breaks_of_texts {start finish : String} (hManual : e.manual = false)
    (hStart : e.start = some start) (hFinish : e.finish = some finish)
    (h : e.activation field = .error fault) :
    ∃ rest rule, fault = .invalid (field ++ rest) rule ∧
      (e.Breaks rest rule ∨ e.BlamesStart rest rule) := by
  simp only [activation, hManual, hStart, hFinish, Bool.false_eq_true, if_false] at h
  split at h
  · rename_i bad hRange
    cases h
    refine ⟨[.key "start"], _, rfl, ?_⟩
    rcases ofTexts_eq_error hRange with hBad | ⟨⟨t, hFirst⟩, hBad⟩
    · exact .inl (.badStart hStart hBad)
    · exact .inr ⟨start, finish, t, bad, hStart, hFirst, hFinish, hBad, rfl, rfl⟩
  · rename_i range hRange
    obtain ⟨hFirst, hLast⟩ := ofTexts_eq_ok_iff.mp hRange
    split at h
    · rename_i hSame
      cases h
      exact ⟨[.key "end"], _, rfl, .inl (.equalEnd hStart hFinish hFirst (hSame ▸ hLast))⟩
    · split at h
      · cases h
      · rename_i words hDays
        split at h
        · rename_i hNames
          cases h
          refine ⟨[.key "days"], _, rfl, .inl ?_⟩
          rcases DaySet.ofNames_eq_error hNames with ⟨rfl, rfl⟩ | ⟨word, hMem, hUnknown, rfl⟩
          · exact .noDays hDays
          · exact .unknownDay hDays hMem hUnknown
        · cases h

theorem breaks_of_activation (h : e.activation field = .error fault) :
    ∃ rest rule, fault = .invalid (field ++ rest) rule ∧
      (e.Breaks rest rule ∨ e.BlamesStart rest rule) := by
  have hHere : field = field ++ [] := (List.append_nil field).symm
  cases hManual : e.manual with
  | true =>
    rw [activation, if_pos hManual] at h
    split at h
    · rename_i hWindow
      cases h
      refine ⟨[], _, congrArg (LoadFault.invalid · _) hHere, .inl (.manualWindow hManual ?_)⟩
      simpa [Option.isSome_iff_ne_none, or_assoc] using hWindow
    · cases h
  | false =>
    by_cases hBound : e.start = none ∨ e.finish = none
    · rw [activation_of_incomplete hManual hBound] at h
      cases h
      exact ⟨[], _, congrArg (LoadFault.invalid · _) hHere, .inl (.incomplete hManual hBound)⟩
    · obtain ⟨hStart, hFinish⟩ := not_or.mp hBound
      obtain ⟨start, hStart⟩ := Option.ne_none_iff_exists'.mp hStart
      obtain ⟨finish, hFinish⟩ := Option.ne_none_iff_exists'.mp hFinish
      exact breaks_of_texts hManual hStart hFinish h

end PeriodEntry

theorem PeriodEntry.build_eq_error_iff {e : PeriodEntry} {field : FieldPath} {fault : LoadFault} :
    e.build field = .error fault ↔
      (isBlankName e.name = true ∧ fault = .invalid (field ++ [.key "name"]) .blankPeriodName) ∨
        ¬isBlankName e.name = true ∧ (e.activation field = .error fault ∨
          ∃ activation, e.activation field = .ok activation ∧
            checkSettings (field ++ [.key "settings"]) e.settings = .error fault) := by
  simp only [build, guard_eq_error_iff, bind_eq_error_iff, pure_eq_error_iff, and_false,
    exists_false, or_false]

theorem GroupEntry.build_eq_error_iff {e : GroupEntry} {field : FieldPath} {fault : LoadFault} :
    e.build field = .error fault ↔
      (isBlankName e.name = true ∧ fault = .invalid (field ++ [.key "name"]) .blankGroupName) ∨
        ¬isBlankName e.name = true ∧
          checkSettings (field ++ [.key "settings"]) e.settings = .error fault := by
  simp only [build, guard_eq_error_iff, bind_eq_error_iff, pure_eq_error_iff, and_false,
    exists_false, or_false]

theorem RoomEntry.build_eq_error_iff {e : RoomEntry} {name : String} {fault : LoadFault} :
    e.build name = .error fault ↔
      checkSettings [.key "rooms", .key name, .key "settings"] e.settings = .error fault ∨
        ∃ u, checkSettings [.key "rooms", .key name, .key "settings"] e.settings = .ok u ∧
          buildConditions [.key "rooms", .key name] ("room:" ++ name) 0 e.conditions =
            .error fault := by
  simp only [build, bind_eq_error_iff, pure_eq_error_iff, and_false, exists_false, or_false]
  rfl

theorem MemberEntry.build_eq_error_iff {e : MemberEntry} {id : String} {fault : LoadFault} :
    e.build id = .error fault ↔
      checkSettings [.key "family_members", .key id, .key "settings"] e.allSettings =
        .error fault := by
  simp only [build, bind_eq_error_iff, pure_eq_error_iff, and_false, exists_false, or_false]

/-! ## Lists of parts -/

section Parts

variable {α β : Type} {fault : LoadFault}

theorem exists_of_buildNamed_eq_error {part : String} {name : α → String}
    {duplicate : String → Breach} {build : α → FieldPath → Checked β} {index : Nat}
    {seen : List String} {entries : List α}
    (h : buildNamed part name duplicate build index seen entries = .error fault) :
    ∃ i e, entries[i]? = some e ∧
      (build e [.key part, .index (index + i)] = .error fault ∨
        fault = .invalid [.key part, .index (index + i), .key "name"] (duplicate (name e)) ∧
          (name e ∈ seen ∨ ∃ j < i, ∃ earlier, entries[j]? = some earlier ∧
            name earlier = name e)) := by
  induction entries generalizing index seen with
  | nil => cases h
  | cons e rest ih =>
    simp only [buildNamed, bind_eq_error_iff, guard_eq_error_iff, pure_eq_error_iff, and_false,
      exists_false, or_false] at h
    rcases h with hBuild | ⟨-, -, ⟨hSeen, hFault⟩ | ⟨-, hRest⟩⟩
    · exact ⟨0, e, rfl, .inl hBuild⟩
    · exact ⟨0, e, rfl, .inr ⟨hFault, .inl hSeen⟩⟩
    · obtain ⟨i, later, hLater, hReason⟩ := ih hRest
      refine ⟨i + 1, later, hLater, ?_⟩
      rw [Nat.add_assoc, Nat.add_comm 1 i] at hReason
      refine hReason.imp_right (And.imp_right ?_)
      -- A name that was seen is that of this entry, or it was seen before this entry.
      rintro (hSeen | ⟨j, hj, earlier, hEarlier, hName⟩)
      · rcases List.mem_cons.mp hSeen with hSame | hSeen
        · exact .inr ⟨0, Nat.succ_pos i, e, rfl, hSame.symm⟩
        · exact .inl hSeen
      · exact .inr ⟨j + 1, Nat.succ_lt_succ hj, earlier, hEarlier, hName⟩

theorem exists_of_buildKeyed_eq_error {build : α → String → Checked β}
    {entries : List (String × α)} (h : buildKeyed build entries = .error fault) :
    ∃ key a, (key, a) ∈ entries ∧ build a key = .error fault := by
  induction entries with
  | nil => cases h
  | cons first rest ih =>
    obtain ⟨key, a⟩ := first
    simp only [buildKeyed, bind_eq_error_iff, pure_eq_error_iff, and_false, exists_false,
      or_false] at h
    rcases h with hBuild | ⟨-, -, hRest⟩
    · exact ⟨key, a, List.mem_cons_self, hBuild⟩
    · obtain ⟨key', a', hMem, hBuild⟩ := ih hRest
      exact ⟨key', a', List.mem_cons_of_mem _ hMem, hBuild⟩

end Parts

/-! ## Interests -/

namespace MemberEntry

variable {e : MemberEntry} {path : List String} {shape : Shape} {value : Setting} {misfit : Misfit}

-- Below the settings as a whole, nothing but the list of interests is added.
theorem expects_of_allSettings (h : e.allSettings.Expects path shape value) :
    (path = [] ∧ shape = .table knownSettings ∧ value = .table e.allSettings) ∨
      e.settings.Expects path shape value ∨ (shape = .list ∧ value = .list e.interests) := by
  induction h with
  | top => exact .inl ⟨rfl, rfl, rfl⟩
  | @entry path shape inner entries key value hTable hMem hInner ih =>
    rcases ih with ⟨rfl, rfl, hEntries⟩ | hSettings | ⟨-, hList⟩
    · cases hEntries
      rw [allSettings] at hMem
      split at hMem
      · exact .inr (.inl (Fragment.Expects.top.entry hMem hInner))
      · rcases Keyed.eq_or_mem_of_mem_insert hMem with hInterests | hMem
        · cases hInterests
          cases hInner
          exact .inr (.inr ⟨rfl, rfl⟩)
        · exact .inr (.inl (Fragment.Expects.top.entry hMem hInner))
    · exact .inr (.inl (hSettings.entry hMem hInner))
    · cases hList

theorem offends_of_allSettings (h : e.allSettings.Offends path misfit) :
    e.settings.Offends path misfit := by
  obtain ⟨hPath, shape, value, hExpects, hRefuses⟩ := h
  rcases expects_of_allSettings hExpects with ⟨hTop, -, -⟩ | hSettings | ⟨rfl, rfl⟩
  · exact absurd hTop hPath
  · exact ⟨hPath, shape, value, hSettings, hRefuses⟩
  · obtain ⟨deeper, hCheck, -⟩ := hRefuses
    cases hCheck

end MemberEntry

/-! ## Documents -/

namespace Document

variable {d : Document} {field : FieldPath} {fault : LoadFault}

/-- The fault is a broken rule and names the offender, or it blames a start for its end. -/
def Explains (d : Document) (fault : LoadFault) : Prop :=
  ∃ field rule, fault = .invalid field rule ∧ (d.Breaks field rule ∨ d.BlamesStart field rule)

theorem HoldsSettings.explains {f : Fragment} (hSettings : d.HoldsSettings field f)
    (h : checkSettings field f = .error fault) : d.Explains fault := by
  obtain ⟨path, misfit, hOffends, rfl⟩ := offends_of_checkSettings h
  exact ⟨_, _, rfl, .inl (.setting hSettings hOffends)⟩

theorem explains_of_buildPeriods (h : buildPeriods d.periods = .error fault) :
    d.Explains fault := by
  obtain ⟨i, e, hPeriod, hBuild | ⟨rfl, hTaken⟩⟩ := exists_of_buildNamed_eq_error h
  · rw [Nat.zero_add] at hBuild
    rcases PeriodEntry.build_eq_error_iff.mp hBuild with ⟨hBlank, rfl⟩ | ⟨-, hActivation | hRest⟩
    · exact ⟨_, _, rfl, .inl (.period hPeriod (.blankName hBlank))⟩
    · obtain ⟨rest, rule, rfl, hBreaks | hBlames⟩ := PeriodEntry.breaks_of_activation hActivation
      · exact ⟨_, _, rfl, .inl (.period hPeriod hBreaks)⟩
      · exact ⟨_, _, rfl, .inr ⟨i, e, rest, hPeriod, hBlames, rfl⟩⟩
    · obtain ⟨-, -, hSettings⟩ := hRest
      exact (HoldsSettings.period hPeriod).explains hSettings
  · rw [Nat.zero_add]
    rcases hTaken with hSeen | ⟨j, hj, earlier, hEarlier, hName⟩
    · cases hSeen
    · exact ⟨_, _, rfl, .inl (.duplicatePeriod hPeriod hj hEarlier hName)⟩

theorem explains_of_buildGroups (h : buildGroups d.groups = .error fault) : d.Explains fault := by
  obtain ⟨i, e, hGroup, hBuild | ⟨rfl, hTaken⟩⟩ := exists_of_buildNamed_eq_error h
  · rw [Nat.zero_add] at hBuild
    rcases GroupEntry.build_eq_error_iff.mp hBuild with ⟨hBlank, rfl⟩ | ⟨-, hSettings⟩
    · exact ⟨_, _, rfl, .inl (.blankGroup hGroup hBlank)⟩
    · exact (HoldsSettings.group hGroup).explains hSettings
  · rw [Nat.zero_add]
    rcases hTaken with hSeen | ⟨j, hj, earlier, hEarlier, hName⟩
    · cases hSeen
    · exact ⟨_, _, rfl, .inl (.duplicateGroup hGroup hj hEarlier hName)⟩

mutual

theorem HoldsConditions.explains_of_build {field : FieldPath} {entries : List ConditionEntry}
    {parent : String} {index : Nat} {e : ConditionEntry} (hHolds : d.HoldsConditions field entries)
    (hEntry : entries[index]? = some e) (h : e.build field parent index = .error fault) :
    d.Explains fault := by
  have hSettings := HoldsSettings.condition hHolds hEntry
  have hBelow := hHolds.nested hEntry
  cases e with
  | mk name source settings conditions =>
    simp only [ConditionEntry.build, bind_eq_error_iff, pure_eq_error_iff, and_false,
      exists_false, or_false] at h
    rcases h with hCheck | ⟨-, -, hConditions⟩
    · exact hSettings.explains hCheck
    · exact hBelow.explains_of_buildConditions (fun i => by rw [Nat.zero_add]) hConditions
termination_by sizeOf e

-- The conditions still to be built are those from the position on.
theorem HoldsConditions.explains_of_buildConditions {field : FieldPath}
    {entries rest : List ConditionEntry} {parent : String} {index : Nat}
    (hHolds : d.HoldsConditions field entries) (hRest : ∀ i, rest[i]? = entries[index + i]?)
    (h : buildConditions field parent index rest = .error fault) : d.Explains fault := by
  cases rest with
  | nil =>
    rw [buildConditions] at h
    cases h
  | cons e later =>
    simp only [buildConditions, bind_eq_error_iff, pure_eq_error_iff, and_false, exists_false,
      or_false] at h
    have hLater : ∀ i, later[i]? = entries[index + 1 + i]? := by
      intro i
      rw [Nat.add_assoc, Nat.add_comm 1 i]
      exact hRest (i + 1)
    rcases h with hBuild | ⟨-, -, hConditions⟩
    · exact hHolds.explains_of_build (hRest 0).symm hBuild
    · exact hHolds.explains_of_buildConditions hLater hConditions
termination_by sizeOf rest

end

theorem explains_of_buildRooms (h : buildKeyed RoomEntry.build d.rooms = .error fault) :
    d.Explains fault := by
  obtain ⟨name, e, hRoom, hBuild⟩ := exists_of_buildKeyed_eq_error h
  rcases RoomEntry.build_eq_error_iff.mp hBuild with hSettings | ⟨-, -, hConditions⟩
  · exact (HoldsSettings.room hRoom).explains hSettings
  · apply (HoldsConditions.room hRoom).explains_of_buildConditions _ hConditions
    intro i
    rw [Nat.zero_add]

theorem explains_of_buildMembers (h : buildKeyed MemberEntry.build d.members = .error fault) :
    d.Explains fault := by
  obtain ⟨id, e, hMember, hBuild⟩ := exists_of_buildKeyed_eq_error h
  obtain ⟨path, misfit, hOffends, rfl⟩ :=
    offends_of_checkSettings (MemberEntry.build_eq_error_iff.mp hBuild)
  exact ⟨_, _, rfl, .inl (.setting (.member hMember) (MemberEntry.offends_of_allSettings hOffends))⟩

theorem Breaks.bound_start {i : Nat} {bad : TimeRange.BadTime}
    (h : d.Breaks [.key "time_periods", .index i, .key "start"] (.badTime bad)) :
    ∃ e start, d.periods[i]? = some e ∧ e.start = some start ∧
      TimeRange.bound start = .error bad := by
  generalize hField : [Step.key "time_periods", .index i, .key "start"] = field,
    hRule : Breach.badTime bad = rule at h
  cases h with
  | period hPeriod hBreaks =>
    cases hBreaks with
    | badStart hStart hBad =>
      cases hField
      cases hRule
      exact ⟨_, _, hPeriod, hStart, hBad⟩
    | badEnd => simp at hField
    | _ => cases hRule
  | _ => cases hRule

end Document

namespace Layers

/-- Whenever a document is rejected, the field that is named breaks a rule itself, unless the start
of a period is blamed for its end. -/
theorem offender_named {d : Document} {fault : LoadFault} (h : ofDocument d = .error fault) :
    ∃ field rule, fault = .invalid field rule ∧
      (d.Breaks field rule ∨ d.BlamesStart field rule) := by
  simp only [ofDocument, bind_eq_error_iff, pure_eq_error_iff, and_false, exists_false,
    or_false] at h
  rcases h with hBase | ⟨-, -, hPeriods | ⟨-, -, hRooms | ⟨-, -, hMembers | ⟨-, -, hGroups⟩⟩⟩⟩
  · exact Document.HoldsSettings.base.explains hBase
  · exact Document.explains_of_buildPeriods hPeriods
  · exact Document.explains_of_buildRooms hRooms
  · exact Document.explains_of_buildMembers hMembers
  · exact Document.explains_of_buildGroups hGroups

/-- A condition below a condition whose settings give a flag as a number. -/
def loudNight : Document :=
  { base := [], periods := [], groups := [], members := []
    rooms := [("den", ⟨none, [], [⟨some "late", "hour > 20", [],
      [⟨none, "true", [("memory", .table [("include_shared", .int 1)])], []⟩]⟩]⟩)] }

theorem offender_named_loudNight :
    ofDocument loudNight = .error (.invalid
        [.key "rooms", .key "den", .key "conditions", .index 0, .key "conditions", .index 0,
          .key "settings", .key "memory", .key "include_shared"]
        (.setting (.kind "boolean" "integer"))) ∧
      ∃ field rule, LoadFault.invalid
          [.key "rooms", .key "den", .key "conditions", .index 0, .key "conditions", .index 0,
            .key "settings", .key "memory", .key "include_shared"]
          (.setting (.kind "boolean" "integer")) = .invalid field rule ∧
        (loudNight.Breaks field rule ∨ loudNight.BlamesStart field rule) :=
  ⟨rfl, offender_named rfl⟩

def openNight : Document :=
  { base := [], rooms := [], groups := [], members := []
    periods := [⟨"night", "", false, some "09:00", some "25:00", none, true, []⟩] }

/-- The start is a time, and yet it is the start that is named. -/
theorem not_offender_named_openNight :
    ¬∀ d field rule, ofDocument d = .error (.invalid field rule) → d.Breaks field rule := by
  intro h
  obtain ⟨e, start, hPeriod, hStart, hBad⟩ := (h openNight _ _ rfl).bound_start
  cases hPeriod
  cases hStart
  cases hBad

end Layers

end Household
