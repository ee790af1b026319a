import Household.Proofs.Layer.Acceptance

/-! # When periods are active

A window of time is read on the circle of the day: a time lies in it if no more has passed since
its start than passes from its start to its end, however the two lie to midnight. The two windows
between a pair of times make up the whole day and share the two times alone.
-/

set_option autoImplicit false

namespace Household

/-! ## Times on the circle of the day -/

namespace TimeOfDay

/-- The nanoseconds of a day without leap seconds. -/
def dayLength : Int := 24 * 60 * 60 * 1000000000

/-- The nanoseconds from the last time that the clock showed `s` until it shows `t`. -/
def since (t s : TimeOfDay) : Int := ((t.instant : Int) - s.instant) % dayLength

theorem instant_lt {t : TimeOfDay} (h : t.isLeap = false) : (t.instant : Int) < dayLength := by
  have hSecond := t.second_lt
  simp only [isLeap, decide_eq_false_iff_not] at h
  unfold instant dayLength
  omega

theorem eq_iff {s t : TimeOfDay} : s = t ↔ s.second = t.second ∧ s.nano = t.nano := by
  cases s
  cases t
  simp

end TimeOfDay

namespace TimeRange

def swap (r : TimeRange) : TimeRange := ⟨r.finish, r.start⟩

variable {r : TimeRange} {t : TimeOfDay}

theorem contains_iff : r.contains t = true ↔ r.start.le t = true ∧ t.le r.finish = true ∨
    r.start.le r.finish = false ∧ (r.start.le t = true ∨ t.le r.finish = true) := by
  unfold contains isInverted
  cases r.start.le r.finish with
  | true => simp
  | false => simp +contextual [or_iff_right_of_imp]

theorem contains_iff_since_le (ht : t.isLeap = false) (hStart : r.start.isLeap = false)
    (hFinish : r.finish.isLeap = false) :
    r.contains t = true ↔ t.since r.start ≤ r.finish.since r.start := by
  have hTimeLt := TimeOfDay.instant_lt ht
  have hStartLt := TimeOfDay.instant_lt hStart
  have hFinishLt := TimeOfDay.instant_lt hFinish
  rw [contains_iff, ← Bool.not_eq_true, TimeOfDay.le_iff_instant_le hStart ht,
    TimeOfDay.le_iff_instant_le ht hFinish, TimeOfDay.le_iff_instant_le hStart hFinish]
  simp only [TimeOfDay.since, TimeOfDay.dayLength] at hTimeLt hStartLt hFinishLt ⊢
  omega

/-- No time lies outside of both windows, and only the two bounds lie in both. -/
theorem contains_swap (hBounds : r.start ≠ r.finish) (t : TimeOfDay) :
    (r.contains t = true ∨ r.swap.contains t = true) ∧
      (r.contains t = true ∧ r.swap.contains t = true ↔ t = r.start ∨ t = r.finish) := by
  rw [ne_eq, TimeOfDay.eq_iff] at hBounds
  simp only [contains_iff, swap, ← Bool.not_eq_true, TimeOfDay.le_iff, TimeOfDay.eq_iff]
  omega

end TimeRange

/-! ## Active periods -/

namespace PeriodEntry

/-- The words for days cover the day. A list that is left out covers every day. -/
def FallsOn (e : PeriodEntry) (d : Weekday) : Prop :=
  ∀ words, e.days = some words → ∃ word ∈ words, DaySet.StandsFor word d

def swapped (e : PeriodEntry) : PeriodEntry := { e with start := e.finish, finish := e.start }

variable {e : PeriodEntry} {p : Period} {s f : TimeOfDay} {r : Request}

theorem HasBounds.unique {s' f' : TimeOfDay} (h : e.HasBounds s f) (h' : e.HasBounds s' f') :
    s = s' ∧ f = f' := by
  obtain ⟨start, finish, hStart, hFinish, hs, hf, -⟩ := h
  obtain ⟨start', finish', hStart', hFinish', hs', hf', -⟩ := h'
  obtain rfl : start = start' := Option.some.inj (hStart.symm.trans hStart')
  obtain rfl : finish = finish' := Option.some.inj (hFinish.symm.trans hFinish')
  exact ⟨Except.ok.inj (hs.symm.trans hs'), Except.ok.inj (hf.symm.trans hf')⟩

theorem HasBounds.swapped (h : e.HasBounds s f) : e.swapped.HasBounds f s := by
  obtain ⟨start, finish, hStart, hFinish, hs, hf, hNe⟩ := h
  exact ⟨finish, start, hFinish, hStart, hf, hs, hNe.symm⟩

theorem KeepsRules.swapped (h : e.KeepsRules) : e.swapped.KeepsRules where
  name := h.name
  manual hManual := by
    obtain ⟨hStart, hFinish, hDays⟩ := h.manual hManual
    exact ⟨hFinish, hStart, hDays⟩
  bounds hManual := by
    obtain ⟨s, f, hBounds⟩ := h.bounds hManual
    exact ⟨f, s, hBounds.swapped⟩
  days := h.days
  settings := h.settings

theorem Becomes.activation_of_manual (h : e.Becomes p) (hManual : e.manual = true) :
    p.activation = .manual := by
  have hSwitch := h.activation
  cases hActivation : p.activation with
  | manual => rfl
  | window range days =>
    rw [hActivation] at hSwitch
    exact absurd (hSwitch.1.symm.trans hManual) Bool.false_ne_true

theorem Becomes.exists_window (h : e.Becomes p) (hManual : e.manual = false) :
    ∃ range days, p.activation = .window range days ∧
      e.HasBounds range.start range.finish ∧ ∀ d, d ∈ days ↔ e.FallsOn d := by
  have hSwitch := h.activation
  cases hActivation : p.activation with
  | manual =>
    rw [hActivation] at hSwitch
    exact absurd (hManual.symm.trans hSwitch) Bool.false_ne_true
  | window range days =>
    rw [hActivation] at hSwitch
    exact ⟨range, days, rfl, hSwitch.2⟩

theorem Becomes.isActive_iff_of_manual (h : e.Becomes p) (hManual : e.manual = true) :
    p.isActive r = true ↔ e.enabled = true ∧ e.name ∈ r.modes := by
  rw [Period.isActive, h.activation_of_manual hManual, h.enabled, h.name]
  simp

theorem Becomes.isActive_iff_of_bounds (h : e.Becomes p) (hManual : e.manual = false)
    (hBounds : e.HasBounds s f) :
    p.isActive r = true ↔ e.enabled = true ∧ e.FallsOn r.weekday ∧
      TimeRange.contains ⟨s, f⟩ r.time = true := by
  obtain ⟨range, days, hWindow, hRange, hDays⟩ := h.exists_window hManual
  obtain ⟨rfl, rfl⟩ := hBounds.unique hRange
  rw [Period.isActive, hWindow, h.enabled]
  simp only [Bool.and_eq_true, DaySet.contains, List.contains_iff_mem, hDays]

theorem Becomes.isActive_withModes (h : e.Becomes p) (hManual : e.manual = false) (r : Request)
    (modes : NameSet) : p.isActive { r with modes := modes } = p.isActive r := by
  obtain ⟨range, days, hWindow, -, -⟩ := h.exists_window hManual
  rw [Period.isActive, Period.isActive, hWindow]
  rfl

/-- A period that is accepted is active when its mode is switched on, or, if it has a window, on
its days from its start on for as long as it takes from there to its end. Exchanging the two bounds
gives the rest of the day, with the bounds themselves in both windows. -/
theorem isActive_iff_of_build {field : FieldPath} (h : e.build field = .ok p) :
    (∀ r : Request, r.time.isLeap = false →
      (∀ s f, e.HasBounds s f → s.isLeap = false ∧ f.isLeap = false) →
        (p.isActive r = true ↔ e.enabled = true ∧
          (e.manual = true ∧ e.name ∈ r.modes ∨
            e.manual = false ∧ e.FallsOn r.weekday ∧
              ∃ s f, e.HasBounds s f ∧ r.time.since s ≤ f.since s))) ∧
    (e.manual = false → ∃ s f, e.HasBounds s f ∧ ∃ p', e.swapped.build field = .ok p' ∧
      ∀ r : Request,
        (p.isActive r = true ∨ p'.isActive r = true ↔
          e.enabled = true ∧ e.FallsOn r.weekday) ∧
        (p.isActive r = true ∧ p'.isActive r = true ↔
          e.enabled = true ∧ e.FallsOn r.weekday ∧ (r.time = s ∨ r.time = f))) ∧
    (e.manual = false → ∀ (r : Request) (modes : NameSet),
      p.isActive { r with modes := modes } = p.isActive r) := by
  obtain ⟨hRules, hBecomes⟩ := keepsRules_and_becomes_of_build h
  refine ⟨fun r hTime hLeap => ?_, fun hManual => ?_, hBecomes.isActive_withModes⟩
  · cases hManual : e.manual with
    | true => simp [hBecomes.isActive_iff_of_manual hManual]
    | false =>
      obtain ⟨s, f, hBounds⟩ := hRules.bounds hManual
      obtain ⟨hs, hf⟩ := hLeap s f hBounds
      have hWithin : (∃ s f, e.HasBounds s f ∧ r.time.since s ≤ f.since s) ↔
          r.time.since s ≤ f.since s := by
        refine ⟨?_, fun hSince => ⟨s, f, hBounds, hSince⟩⟩
        rintro ⟨s', f', hBounds', hSince⟩
        obtain ⟨rfl, rfl⟩ := hBounds.unique hBounds'
        exact hSince
      rw [hBecomes.isActive_iff_of_bounds hManual hBounds,
        TimeRange.contains_iff_since_le hTime hs hf, hWithin]
      simp
  · obtain ⟨s, f, hBounds⟩ := hRules.bounds hManual
    obtain ⟨p', hBuild⟩ := exists_build hRules.swapped field
    have hBecomes' := (keepsRules_and_becomes_of_build hBuild).2
    refine ⟨s, f, hBounds, p', hBuild, fun r => ?_⟩
    have hActive := hBecomes.isActive_iff_of_bounds (r := r) hManual hBounds
    have hActive' : p'.isActive r = true ↔ e.enabled = true ∧ e.FallsOn r.weekday ∧
        (TimeRange.swap ⟨s, f⟩).contains r.time = true :=
      hBecomes'.isActive_iff_of_bounds hManual hBounds.swapped
    obtain ⟨-, -, -, -, -, -, hNe⟩ := hBounds
    obtain ⟨hAll, hBoth⟩ := TimeRange.contains_swap (r := ⟨s, f⟩) hNe r.time
    rw [hActive, hActive', ← and_or_left, ← and_or_left, ← and_and_left, ← and_and_left]
    exact ⟨and_congr_right fun _ => and_iff_left hAll,
      and_congr_right fun _ => and_congr_right fun _ => hBoth⟩

/-- From ten in the evening until six in the morning, on weekdays and Saturdays. -/
def nights : PeriodEntry where
  name := "nights"
  description := ""
  manual := false
  start := some "22:00"
  finish := some "06:00"
  days := some ["weekdays", "SAT"]
  enabled := true
  settings := []

def tenInTheEvening : TimeOfDay :=
  { TimeOfDay.midnight with second := 79200, second_lt := by decide }

def sixInTheMorning : TimeOfDay :=
  { TimeOfDay.midnight with second := 21600, second_lt := by decide }

def nightsPeriod : Period where
  name := "nights"
  description := ""
  activation := .window ⟨tenInTheEvening, sixInTheMorning⟩
    [.monday, .tuesday, .wednesday, .thursday, .friday, .saturday]
  enabled := true
  settings := []

def earlySaturday : Request :=
  .ofMoment
    { date := ⟨2026, 11, 28, by decide, by decide, by decide, by decide⟩
      time := { TimeOfDay.midnight with second := 18000, second_lt := by decide } }

theorem isLeap_nights (s f : TimeOfDay) (h : nights.HasBounds s f) :
    s.isLeap = false ∧ f.isLeap = false := by
  have hBounds : nights.HasBounds tenInTheEvening sixInTheMorning :=
    ⟨_, _, rfl, rfl, rfl, rfl, by decide⟩
  obtain ⟨rfl, rfl⟩ := h.unique hBounds
  decide

theorem isActive_iff_of_build_nights :
    nights.build [] = .ok nightsPeriod ∧ earlySaturday.time.isLeap = false ∧
      (∀ s f, nights.HasBounds s f → s.isLeap = false ∧ f.isLeap = false) ∧
        nightsPeriod.isActive earlySaturday = true ∧
          ∃ s f, nights.HasBounds s f ∧ earlySaturday.time.since s ≤ f.since s := by
  have hBuild : nights.build [] = .ok nightsPeriod := rfl
  have hActive : nightsPeriod.isActive earlySaturday = true := by decide +kernel
  refine ⟨hBuild, rfl, isLeap_nights, hActive, ?_⟩
  rcases ((isActive_iff_of_build hBuild).1 earlySaturday rfl isLeap_nights).mp hActive with
    ⟨-, ⟨hManual, -⟩ | ⟨-, -, hWithin⟩⟩
  · cases hManual
  · exact hWithin

end PeriodEntry

end Household
