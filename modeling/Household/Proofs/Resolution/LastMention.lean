import Household.Proofs.Layer.Building
import Household.Proofs.Profile.Fields

/-! # Profiles follow the last layer that speaks

For layers of an accepted document no value is ever rejected: every field of a resolved profile is
what the last selected layer that mentions its path says, and has its usual value if no layer does
or if that layer unsets it.
-/

set_option autoImplicit false

namespace Household

theorem Layers.Sound.fits_merge {l : Layers} (hSound : l.Sound) (r : Request) :
    Fragment.Fits knownSettings (l.merge r).fragment := by
  have hChecked : ∀ settings ∈ (l.selection r).map (·.settings), settings.check = .ok () := by
    intro settings hMem
    obtain ⟨layer, hLayer, rfl⟩ := List.mem_map.mp hMem
    exact hSound.check_of_mem_selection r layer hLayer
  rw [Layers.fragment_merge]
  exact ⟨Fragment.allSet_mergeAll _, Fragment.check_mergeAll hChecked⟩

theorem Profile.Says.withTrace {p : Profile} {standing : List String → Standing}
    (h : p.Says standing) (trace : Trace) : Profile.Says { p with trace := trace } standing :=
  { h with }

theorem Layers.rejections_merge (l : Layers) (r : Request) : (l.merge r).trace.rejections = [] := by
  rw [Layers.merge_eq_extend]
  rfl

/-- Each field of a profile is given by the last selected layer that mentions its path, and nothing
is rejected. -/
theorem Layers.resolve_says_last_mention {d : Document} {l : Layers}
    (h : Layers.ofDocument d = .ok l) (r : Request) :
    (l.resolve r).trace.applied = (l.selection r).map (·.label) ∧
    (l.resolve r).trace.rejections = [] ∧
    ∃ standing : List String → Standing,
      (∀ key rest, Fragment.LastEffect ((l.selection r).map (·.settings)) (key :: rest)
        (standing (key :: rest))) ∧
      (l.resolve r).Says standing := by
  obtain ⟨hRejected, hSays⟩ := Fragment.toProfile_says ((sound_of_ofDocument h).fits_merge r)
  refine ⟨l.applied_merge r, ?_, Fragment.stands (l.merge r).fragment, ?_, hSays.withTrace _⟩
  · rw [resolve, Profile.ofFragment, hRejected, l.rejections_merge r]
    rfl
  · intro key rest
    rw [l.fragment_merge r]
    exact (Fragment.stands_mergeAll_iff _ _ _).mp rfl

/-- A base, a room whose settings take back a table of the base, a condition, and a member. -/
def denDocument : Document where
  base := [("memory", .table [("include_shared", .bool false)]), ("voice", .str "nova")]
  periods := []
  rooms :=
    [("den",
      { name := none
        settings := [("memory", .unset)]
        conditions :=
          [⟨some "night", "hour < 6",
            [("voice", .str "calm"), ("word_replacements", .table [("scary", .str "odd")])],
            []⟩] })]
  groups := []
  members := [("ada", { name := none, interests := ["trains"], settings := [("voice", .unset)] })]

def denLayers : Layers where
  base := [("memory", .table [("include_shared", .bool false)]), ("voice", .str "nova")]
  periods := []
  rooms :=
    [("den",
      { location := "den"
        name := none
        settings := [("memory", .unset)]
        conditions :=
          [⟨"room:den/condition:night", Condition.compile "hour < 6",
            [("voice", .str "calm"), ("word_replacements", .table [("scary", .str "odd")])],
            []⟩] })]
  groups := []
  members :=
    [("ada",
      { id := "ada"
        name := none
        settings := [("interests", .list ["trains"]), ("voice", .unset)] })]

/-- Ada in the den at midnight. -/
def denRequest : Request where
  speaker := some "ada"
  location := some "den"
  moment :=
    { date := ⟨2026, 10, 20, by decide, by decide, by decide, by decide⟩
      time := .midnight }
  modes := []
  state := []
  occupants := []

theorem Layers.resolve_says_last_mention_den :
    Layers.ofDocument denDocument = .ok denLayers ∧
    (denLayers.resolve denRequest).trace.applied =
      (denLayers.selection denRequest).map (·.label) ∧
    (denLayers.resolve denRequest).trace.rejections = [] ∧
    ∃ standing : List String → Standing,
      (∀ key rest, Fragment.LastEffect ((denLayers.selection denRequest).map (·.settings))
        (key :: rest) (standing (key :: rest))) ∧
      (denLayers.resolve denRequest).Says standing := by
  have hLoaded : Layers.ofDocument denDocument = .ok denLayers := by rfl
  exact ⟨hLoaded, Layers.resolve_says_last_mention hLoaded denRequest⟩

end Household
