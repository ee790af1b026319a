import Mathlib.Data.List.Nodup
import Household.Proofs.Layer.Acceptance
import Household.Proofs.Resolution.LastMention

/-! # Names in the record of a request

The names under which layers are recorded tell the kinds of layers apart by their first letters, and
a document gives no name of a period twice. The name of a condition is made of the labels on the way
to it, and these may be given twice: two conditions are told apart if labels side by side differ and
none of them holds the text between two labels.
-/

set_option autoImplicit false

namespace Household

/-! ## Labels on the way to a condition -/

def labelMark : List Char := "/condition:".toList

/-- The labels of conditions side by side, the first of them at position `index`. -/
def siblingLabels : Nat → List ConditionEntry → List String
  | _, [] => []
  | index, e :: rest => conditionLabel index e.name :: siblingLabels (index + 1) rest

mutual

/-- The labels on the way to the condition and to those nested in it. -/
def ConditionEntry.paths (index : Nat) : ConditionEntry → List (List String)
  | ⟨name, _, _, conditions⟩ =>
    [conditionLabel index name] :: (pathsAll 0 conditions).map (conditionLabel index name :: ·)

def pathsAll (index : Nat) : List ConditionEntry → List (List String)
  | [] => []
  | e :: rest => e.paths index ++ pathsAll (index + 1) rest

end

def pathText : List String → String
  | [] => ""
  | label :: rest => "/condition:" ++ label ++ pathText rest

mutual

/-- What is nested in the condition keeps its labels apart. -/
def ConditionEntry.LabelsApart : ConditionEntry → Prop
  | ⟨_, _, _, conditions⟩ => Household.LabelsApart 0 conditions

/-- At every depth, labels side by side differ, and no label holds the mark before labels. -/
def LabelsApart (index : Nat) : List ConditionEntry → Prop
  | [] => True
  | e :: rest =>
    (conditionLabel index e.name ∉ siblingLabels (index + 1) rest ∧
      ¬labelMark <:+: (conditionLabel index e.name).toList) ∧
        e.LabelsApart ∧ LabelsApart (index + 1) rest

end

mutual

theorem ConditionEntry.map_id_visits {parent : String} {index : Nat} {e : ConditionEntry}
    {c : RoomCondition} (h : e.Becomes parent index c) (above : List RoomCondition) :
    (c.visits above).map (·.condition.id) = (e.paths index).map (parent ++ pathText ·) := by
  cases e with
  | mk name source settings conditions =>
    obtain ⟨id, test, settings', below⟩ := c
    rw [ConditionEntry.Becomes] at h
    obtain ⟨rfl, -, -, hBelow⟩ := h
    rw [RoomCondition.visits, ConditionEntry.paths, List.map_cons, List.map_cons,
      map_id_visitsAll hBelow, List.map_map]
    simp [pathText, Function.comp_def, String.append_assoc]
termination_by sizeOf e

theorem map_id_visitsAll {parent : String} {index : Nat} {entries : List ConditionEntry}
    {conditions : List RoomCondition} (h : BecomeAll parent index entries conditions)
    (above : List RoomCondition) :
    (visitsAll above conditions).map (·.condition.id) =
      (pathsAll index entries).map (parent ++ pathText ·) := by
  cases entries with
  | nil =>
    cases conditions with
    | nil => simp [visitsAll, pathsAll]
    | cons c rest => simp [BecomeAll] at h
  | cons e entries =>
    cases conditions with
    | nil => simp [BecomeAll] at h
    | cons c rest =>
      rw [BecomeAll] at h
      rw [visitsAll, pathsAll, List.map_append, List.map_append, e.map_id_visits h.1 above,
        map_id_visitsAll h.2 above]
termination_by sizeOf entries

end

/-! ## Paths that differ -/

def IsPlainPath (path : List String) : Prop := ∀ label ∈ path, ¬labelMark <:+: label.toList

theorem ConditionEntry.exists_of_mem_paths {index : Nat} {e : ConditionEntry} {path : List String}
    (h : path ∈ e.paths index) : ∃ rest, path = conditionLabel index e.name :: rest := by
  cases e with
  | mk name source settings conditions =>
    rw [ConditionEntry.paths] at h
    rcases List.mem_cons.mp h with rfl | h
    · exact ⟨[], rfl⟩
    · obtain ⟨rest, -, rfl⟩ := List.mem_map.mp h
      exact ⟨rest, rfl⟩

theorem exists_of_mem_pathsAll {index : Nat} {entries : List ConditionEntry} {path : List String}
    (h : path ∈ pathsAll index entries) :
    ∃ label ∈ siblingLabels index entries, ∃ rest, path = label :: rest := by
  induction entries generalizing index with
  | nil => simp [pathsAll] at h
  | cons e entries ih =>
    rw [pathsAll] at h
    rcases List.mem_append.mp h with h | h
    · exact ⟨_, List.mem_cons_self, ConditionEntry.exists_of_mem_paths h⟩
    · obtain ⟨label, hLabel, hPath⟩ := ih h
      exact ⟨label, List.mem_cons_of_mem _ hLabel, hPath⟩

mutual

theorem ConditionEntry.nodup_paths {index : Nat} {e : ConditionEntry} (h : e.LabelsApart)
    (hLabel : ¬labelMark <:+: (conditionLabel index e.name).toList) :
    (e.paths index).Nodup ∧ ∀ path ∈ e.paths index, IsPlainPath path := by
  cases e with
  | mk name source settings conditions =>
    rw [ConditionEntry.LabelsApart] at h
    obtain ⟨hNodup, hPlain⟩ := nodup_pathsAll h
    rw [ConditionEntry.paths, List.nodup_cons, List.forall_mem_cons, List.forall_mem_map]
    refine ⟨⟨?_, hNodup.map fun _ _ hSame => (List.cons.inj hSame).2⟩, ?_, ?_⟩
    · -- a path to something nested has at least two labels
      intro hMem
      obtain ⟨path, hPath, hSame⟩ := List.mem_map.mp hMem
      obtain ⟨_, -, _, rfl⟩ := exists_of_mem_pathsAll hPath
      cases hSame
    · exact List.forall_mem_singleton.mpr hLabel
    · exact fun path hPath => List.forall_mem_cons.mpr ⟨hLabel, hPlain path hPath⟩
termination_by sizeOf e

theorem nodup_pathsAll {index : Nat} {entries : List ConditionEntry}
    (h : LabelsApart index entries) :
    (pathsAll index entries).Nodup ∧ ∀ path ∈ pathsAll index entries, IsPlainPath path := by
  cases entries with
  | nil => simp [pathsAll]
  | cons e rest =>
    rw [LabelsApart] at h
    obtain ⟨⟨hNew, hLabel⟩, hBelow, hRest⟩ := h
    obtain ⟨hFirst, hFirstPlain⟩ := e.nodup_paths hBelow hLabel
    obtain ⟨hLater, hLaterPlain⟩ := nodup_pathsAll hRest
    rw [pathsAll, List.nodup_append]
    refine ⟨⟨hFirst, hLater, ?_⟩, List.forall_mem_append.mpr ⟨hFirstPlain, hLaterPlain⟩⟩
    -- paths through different siblings differ in their first labels
    rintro path hPath _ hPath' rfl
    obtain ⟨_, rfl⟩ := e.exists_of_mem_paths hPath
    obtain ⟨label, hMem, _, hSame⟩ := exists_of_mem_pathsAll hPath'
    exact hNew ((List.cons.inj hSame).1 ▸ hMem)
termination_by sizeOf entries

end

/-! ## Paths read back from their text -/

/-- The text is at its end or goes on with a label. -/
def StartsLabel (s : List Char) : Prop := s = [] ∨ labelMark <+: s

theorem toList_pathText_cons (label : String) (rest : List String) :
    (pathText (label :: rest)).toList = labelMark ++ (label.toList ++ (pathText rest).toList) := by
  simp only [pathText, String.toList_append, List.append_assoc]
  rfl

theorem startsLabel_pathText (path : List String) : StartsLabel (pathText path).toList := by
  cases path with
  | nil => exact .inl rfl
  | cons label rest =>
    rw [toList_pathText_cons]
    exact .inr (List.prefix_append _ _)

/-- A label ends where the next one begins: the mark does not overlap itself. -/
theorem eq_nil_of_startsLabel {s x rest : List Char} (hPlain : ¬labelMark <:+: s ++ x)
    (h : StartsLabel (x ++ rest)) (hRest : StartsLabel rest) : x = [] := by
  rcases h with hNil | hMark
  · exact (List.append_eq_nil_iff.mp hNil).1
  cases x with
  | nil => rfl
  | cons a x =>
    exfalso
    have hNotWithin : ¬labelMark <+: a :: x := fun hWithin =>
      hPlain (hWithin.isInfix.trans (List.suffix_append s (a :: x)).isInfix)
    obtain ⟨front, hFront⟩ :=
      (List.prefix_or_prefix_of_prefix hMark (List.prefix_append (a :: x) rest)).resolve_left
        hNotWithin
    cases front with
    | nil =>
      rw [List.append_nil] at hFront
      exact hNotWithin (hFront ▸ List.prefix_rfl)
    | cons b front =>
      -- the rest of the mark stands at the start of `rest`, which starts with a slash
      have hOn : b :: front <+: rest := by
        rw [← hFront] at hMark
        exact (List.prefix_append_right_inj _).mp hMark
      have hSlash : b = '/' := by
        rcases hRest with rfl | ⟨tail, rfl⟩
        · simp at hOn
        · exact (List.cons_prefix_cons.mp hOn).1
      have hTail : labelMark.tail = x ++ b :: front := by rw [← hFront]; rfl
      have hMem : '/' ∈ labelMark.tail := by rw [hTail, hSlash]; simp
      exact absurd hMem (by decide)

theorem append_eq_append_of_startsLabel {s t rest rest' : List Char}
    (hs : ¬labelMark <:+: s) (ht : ¬labelMark <:+: t) (hRest : StartsLabel rest)
    (hRest' : StartsLabel rest') (h : s ++ rest = t ++ rest') : s = t ∧ rest = rest' := by
  rcases List.append_eq_append_iff.mp h with ⟨x, rfl, rfl⟩ | ⟨x, rfl, rfl⟩
  · obtain rfl := eq_nil_of_startsLabel ht hRest hRest'
    simp
  · obtain rfl := eq_nil_of_startsLabel hs hRest' hRest
    simp

theorem eq_of_pathText_eq {path path' : List String} (hPlain : IsPlainPath path)
    (hPlain' : IsPlainPath path') (h : pathText path = pathText path') : path = path' := by
  induction path generalizing path' with
  | nil =>
    cases path' with
    | nil => rfl
    | cons label' rest' => simp [pathText] at h
  | cons label rest ih =>
    cases path' with
    | nil => simp [pathText] at h
    | cons label' rest' =>
      obtain ⟨hLabel, hRest⟩ := List.forall_mem_cons.mp hPlain
      obtain ⟨hLabel', hRest'⟩ := List.forall_mem_cons.mp hPlain'
      have hText := congrArg String.toList h
      rw [toList_pathText_cons, toList_pathText_cons, List.append_cancel_left_eq] at hText
      obtain ⟨hSame, hLater⟩ := append_eq_append_of_startsLabel hLabel hLabel'
        (startsLabel_pathText rest) (startsLabel_pathText rest') hText
      rw [String.toList_inj.mp hSame, ih hRest hRest' (String.toList_inj.mp hLater)]

theorem nodup_ids_of_labelsApart {parent : String} {entries : List ConditionEntry}
    {conditions : List RoomCondition} (h : BecomeAll parent 0 entries conditions)
    (hApart : LabelsApart 0 entries) (above : List RoomCondition) :
    ((visitsAll above conditions).map (·.condition.id)).Nodup := by
  obtain ⟨hNodup, hPlain⟩ := nodup_pathsAll hApart
  rw [map_id_visitsAll h above]
  refine hNodup.map_on fun path hPath path' hPath' hSame => ?_
  have hText := congrArg String.toList hSame
  simp only [String.toList_append, List.append_cancel_left_eq, String.toList_inj] at hText
  exact eq_of_pathText_eq (hPlain path hPath) (hPlain path' hPath') hText

/-! ## Kinds of layers -/

theorem exists_of_mem_right {α β : Type} {R : α → β → Prop} {as : List α} {bs : List β}
    (h : List.Forall₂ R as bs) : ∀ b ∈ bs, ∃ a ∈ as, R a b := by
  induction h with
  | nil => simp
  | cons hFirst _ ih =>
    refine List.forall_mem_cons.mpr ⟨⟨_, List.mem_cons_self, hFirst⟩, fun b hb => ?_⟩
    obtain ⟨a, ha, hab⟩ := ih b hb
    exact ⟨a, List.mem_cons_of_mem _ ha, hab⟩

/-- Lists of names that start with different letters have no name in common. -/
theorem nodup_flatten_iff {initials : List Char} {parts : List (List String)}
    (h : List.Forall₂ (fun c part => ∀ s ∈ part, s.toList.head? = some c) initials parts)
    (hInitials : initials.Nodup) : parts.flatten.Nodup ↔ ∀ part ∈ parts, part.Nodup := by
  rw [List.nodup_flatten]
  refine and_iff_left ?_
  induction h with
  | nil => exact .nil
  | cons hFirst hRest ih =>
    obtain ⟨hNew, hLater⟩ := List.nodup_cons.mp hInitials
    refine .cons (fun part hPart s hs hs' => ?_) (ih hLater)
    obtain ⟨c, hc, hPart⟩ := exists_of_mem_right hRest part hPart
    have hSame := (hFirst s hs).symm.trans (hPart s hs')
    exact hNew (Option.some.inj hSame ▸ hc)

theorem nodup_map_toList {α β : Type} (f : α → β) (o : Option α) : (o.toList.map f).Nodup := by
  cases o <;> simp

theorem map_label_includedLayers (s : Condition.Scene) (visits : List Visit) :
    (includedLayers s visits).map (·.label) =
      (visits.filter (·.isIncluded s)).map (·.condition.id) := by
  simp [includedLayers, RoomCondition.layer]

namespace Document

variable {d : Document} {l : Layers} {r : Request}

theorem Becomes.exists_room (h : d.Becomes l) {room : Room} (hRoom : l.roomOf? r = some room) :
    ∃ entry ∈ d.rooms, entry.2.Becomes entry.1 room := by
  obtain ⟨location, -, hGet⟩ := Option.bind_eq_some_iff.mp hRoom
  obtain ⟨entry, hEntry, -, hBecomes⟩ := exists_of_mem_right h.rooms _ (Keyed.mem_of_lookup hGet)
  exact ⟨entry, hEntry, hBecomes⟩

/-- The conditions of a room are recorded under its name and a label at least. -/
theorem Becomes.exists_of_mem_visits (h : d.Becomes l) {v : Visit} (hv : v ∈ l.visits r) :
    ∃ room, l.roomOf? r = some room ∧
      ∃ label rest, v.condition.id = room.label ++ pathText (label :: rest) := by
  rw [Layers.visits] at hv
  cases hRoom : l.roomOf? r with
  | none =>
    rw [hRoom] at hv
    cases hv
  | some room =>
    rw [hRoom] at hv
    obtain ⟨entry, -, hBecomes⟩ := h.exists_room hRoom
    have hId := List.mem_map_of_mem (f := (·.condition.id)) hv
    rw [map_id_visitsAll hBecomes.conditions []] at hId
    obtain ⟨path, hPath, hText⟩ := List.mem_map.mp hId
    obtain ⟨label, -, rest, rfl⟩ := exists_of_mem_pathsAll hPath
    refine ⟨room, rfl, label, rest, ?_⟩
    rw [← hText, Room.label, hBecomes.location]

theorem Becomes.nodup_periodLabels (h : d.Becomes l) (hRules : d.KeepsRules) (r : Request) :
    ((l.periods.filter (·.isActive r)).map Period.label).Nodup := by
  have hNames : d.periods.map (·.name) = l.periods.map (·.name) := by
    rw [← List.forall₂_eq_eq_eq, List.forall₂_map_left_iff, List.forall₂_map_right_iff]
    exact h.periods.imp fun _ _ hBecomes => hBecomes.name.symm
  have hNodup := hRules.periodNames
  rw [hNames] at hNodup
  have hLabels : (l.periods.map Period.label).Nodup := by
    rw [show l.periods.map Period.label = (l.periods.map (·.name)).map ("time:" ++ ·) by
      simp [Period.label]]
    exact hNodup.map fun _ _ hSame => by simpa [← String.toList_inj] using hSame
  exact hLabels.sublist (List.filter_sublist.map _)

theorem Becomes.exists_of_mem_included (h : d.Becomes l) {s : String}
    (hs : s ∈ (includedLayers r.scene (l.visits r)).map (·.label)) :
    ∃ room, l.roomOf? r = some room ∧ ∃ label rest, s = room.label ++ pathText (label :: rest) := by
  rw [map_label_includedLayers] at hs
  obtain ⟨v, hv, rfl⟩ := List.mem_map.mp hs
  exact h.exists_of_mem_visits (List.mem_filter.mp hv).1

theorem Becomes.nodup_roomLabels_iff (h : d.Becomes l) (r : Request) :
    ((l.roomOf? r).toList.map Room.label ++
        (includedLayers r.scene (l.visits r)).map (·.label)).Nodup ↔
      ((includedLayers r.scene (l.visits r)).map (·.label)).Nodup := by
  rw [List.nodup_append, and_iff_right (nodup_map_toList Room.label _)]
  refine and_iff_left ?_
  rintro _ hRoomLabel _ hLabel rfl
  obtain ⟨room, hRoom, label, rest, hSame⟩ := h.exists_of_mem_included hLabel
  rw [hRoom] at hRoomLabel
  rw [List.mem_singleton.mp hRoomLabel] at hSame
  have hText := congrArg String.toList hSame
  rw [String.toList_append, List.self_eq_append_right, toList_pathText_cons] at hText
  cases hText

theorem Becomes.initials (h : d.Becomes l) (r : Request) :
    List.Forall₂ (fun c part => ∀ s ∈ part, s.toList.head? = some c) ['b', 't', 'r', 'g', 'm']
      [[baseLabel], (l.periods.filter (·.isActive r)).map Period.label,
        (l.roomOf? r).toList.map Room.label ++
          (includedLayers r.scene (l.visits r)).map (·.label),
        (l.speakersGroup? r).toList.map Group.label,
        (l.speakersMember? r).toList.map Member.label] := by
  refine .cons ?_ (.cons ?_ (.cons ?_ (.cons ?_ (.cons ?_ .nil))))
  · simp [baseLabel]
  · refine List.forall_mem_map.mpr fun p _ => ?_
    simp [Period.label]
  · refine List.forall_mem_append.mpr ⟨List.forall_mem_map.mpr fun room _ => ?_, fun s hs => ?_⟩
    · simp [Room.label]
    · obtain ⟨room, -, label, rest, rfl⟩ := h.exists_of_mem_included hs
      simp [Room.label]
  · refine List.forall_mem_map.mpr fun g _ => ?_
    simp [Group.label]
  · refine List.forall_mem_map.mpr fun m _ => ?_
    simp [Member.label]

theorem Becomes.nodup_applied_iff (h : d.Becomes l) (hRules : d.KeepsRules) (r : Request) :
    (l.resolve r).trace.applied.Nodup ↔
      ((includedLayers r.scene (l.visits r)).map (·.label)).Nodup := by
  have hParts : (l.resolve r).trace.applied =
      [[baseLabel], (l.periods.filter (·.isActive r)).map Period.label,
        (l.roomOf? r).toList.map Room.label ++
          (includedLayers r.scene (l.visits r)).map (·.label),
        (l.speakersGroup? r).toList.map Group.label,
        (l.speakersMember? r).toList.map Member.label].flatten := by
    rw [show (l.resolve r).trace.applied = (l.merge r).trace.applied from rfl,
      Layers.applied_merge, Layers.selection]
    simp [Function.comp_def, Period.layer, Room.layer, Group.layer, Member.layer]
  rw [hParts, nodup_flatten_iff (h.initials r) (by decide)]
  simp only [List.forall_mem_cons, List.nodup_singleton, h.nodup_periodLabels hRules r,
    h.nodup_roomLabels_iff r, nodup_map_toList, List.not_mem_nil, false_imp_iff, implies_true,
    true_and, and_true]

end Document

namespace Layers

/-- Whichever layers of an accepted document apply, only conditions can be recorded twice under
one name, and they are not if the labels of each room are kept apart. -/
theorem applied_nodup_of_labelsApart {d : Document} {l : Layers} (h : ofDocument d = .ok l)
    (r : Request) :
    ((l.resolve r).trace.applied.Nodup ↔
      ((includedLayers r.scene (l.visits r)).map (·.label)).Nodup) ∧
    ((∀ entry ∈ d.rooms, LabelsApart 0 entry.2.conditions) →
      (l.resolve r).trace.applied.Nodup) := by
  obtain ⟨hRules, hBecomes⟩ := keepsRules_and_becomes_of_ofDocument h
  have hIff := hBecomes.nodup_applied_iff hRules r
  refine ⟨hIff, fun hApart => hIff.mpr ?_⟩
  rw [map_label_includedLayers, visits]
  cases hRoom : l.roomOf? r with
  | none => exact List.nodup_nil
  | some room =>
    obtain ⟨entry, hEntry, hRoomBecomes⟩ := hBecomes.exists_room hRoom
    have hNodup := nodup_ids_of_labelsApart hRoomBecomes.conditions (hApart entry hEntry) []
    exact hNodup.sublist (List.filter_sublist.map _)

/-- A condition within a condition, and one without a name beside them. -/
def lateDocument : Document where
  base := []
  periods := []
  rooms :=
    [("den",
      { name := none
        settings := []
        conditions :=
          [⟨some "late", "true", [], [⟨some "late", "true", [], []⟩]⟩, ⟨none, "true", [], []⟩] })]
  groups := []
  members := []

def lateLayers : Layers where
  base := []
  periods := []
  rooms :=
    [("den",
      { location := "den"
        name := none
        settings := []
        conditions :=
          [⟨"room:den/condition:late", Condition.compile "true", [],
            [⟨"room:den/condition:late/condition:late", Condition.compile "true", [], []⟩]⟩,
            ⟨"room:den/condition:#1", Condition.compile "true", [], []⟩] })]
  groups := []
  members := []

theorem applied_nodup_of_labelsApart_late :
    ofDocument lateDocument = .ok lateLayers ∧
      (∀ entry ∈ lateDocument.rooms, LabelsApart 0 entry.2.conditions) ∧
      (lateLayers.resolve denRequest).trace.applied.Nodup := by
  have hLoaded : ofDocument lateDocument = .ok lateLayers := by rfl
  have hApart : ∀ entry ∈ lateDocument.rooms, LabelsApart 0 entry.2.conditions := by
    refine List.forall_mem_singleton.mpr ?_
    simp only [LabelsApart, ConditionEntry.LabelsApart, siblingLabels]
    decide
  exact ⟨hLoaded, hApart, (applied_nodup_of_labelsApart hLoaded denRequest).2 hApart⟩

/-- A room with two conditions of one name, which differ in their settings. -/
def twinDocument : Document where
  base := []
  periods := []
  rooms :=
    [("den",
      { name := none
        settings := []
        conditions :=
          [⟨some "late", "true", [("voice", .str "calm")], []⟩,
            ⟨some "late", "true", [("voice", .str "loud")], []⟩] })]
  groups := []
  members := []

def twinCondition (voice : String) : RoomCondition :=
  ⟨"room:den/condition:late", Condition.compile "true", [("voice", .str voice)], []⟩

def twinLayers : Layers where
  base := []
  periods := []
  rooms :=
    [("den",
      { location := "den"
        name := none
        settings := []
        conditions := [twinCondition "calm", twinCondition "loud"] })]
  groups := []
  members := []

theorem isMet_twinCondition (s : Condition.Scene) (voice : String) :
    (twinCondition voice).isMet s = true :=
  RoomCondition.isMet_of_ok rfl

/-- The load takes a label twice, and both conditions are recorded under it. -/
theorem not_applied_nodup_twin :
    ¬∀ (d : Document) (l : Layers) (r : Request), ofDocument d = .ok l →
      (l.resolve r).trace.applied.Nodup := by
  intro h
  have hLoaded : ofDocument twinDocument = .ok twinLayers := by rfl
  have hNodup := h twinDocument twinLayers denRequest hLoaded
  have hIncluded : includedLayers denRequest.scene (twinLayers.visits denRequest) =
      [(twinCondition "calm").layer, (twinCondition "loud").layer] := by
    have hVisits : twinLayers.visits denRequest =
        [⟨[], twinCondition "calm"⟩, ⟨[], twinCondition "loud"⟩] := by rfl
    rw [hVisits, includedLayers_cons_of_isMet rfl (isMet_twinCondition _ _),
      includedLayers_cons_of_isMet rfl (isMet_twinCondition _ _)]
    rfl
  obtain ⟨hRules, hBecomes⟩ := keepsRules_and_becomes_of_ofDocument hLoaded
  rw [hBecomes.nodup_applied_iff hRules, hIncluded] at hNodup
  exact absurd hNodup (by decide)

end Layers

end Household
