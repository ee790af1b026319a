import Household.Profile.FromSettings
import Household.Proofs.Decimal.Whole
import Household.Proofs.Setting.Shapes

/-! # The fields of a profile

When all known values of a fragment fit their shapes and nothing in it is unset, no value is
rejected, and every field of the profile is what stands at the path of the field, read as a value of
its kind; a field at whose path nothing stands has its usual value.
-/

set_option autoImplicit false

namespace Household

namespace Setting

def IsFlag (b : Bool) (value : Setting) : Prop := value = .bool b

def IsText (s : String) (value : Setting) : Prop := value = .str s

def IsList (items : List String) (value : Setting) : Prop := value = .list items

def IsNameSet (names : NameSet) (value : Setting) : Prop :=
  ∃ items, value = .list items ∧ names = NameSet.ofList items

/-- The whole number that a value is. One written as a fraction is brought into 64 bits. -/
inductive IsWhole (n : Int) : Setting → Prop
  | int : IsWhole n (.int n)
  | float {x : Float} {m : Int} (hExact : (Decimal.Exact.ofFloat x).value? = some (m : ℚ))
      (hRange : n = max (-2 ^ 63) (min (2 ^ 63 - 1) m)) : IsWhole n (.float x)

theorem isWhole_iff {n : Int} {value : Setting} : IsWhole n value ↔ value.int? = some n := by
  constructor
  · rintro (_ | ⟨hExact, rfl⟩)
    · rfl
    · rw [int?, Decimal.whole?_eq_some_iff.mpr hExact]
      rfl
  · intro h
    cases value with
    | int m =>
      obtain rfl : m = n := Option.some.inj h
      exact .int
    | float x =>
      obtain ⟨m, hWhole, rfl⟩ := Option.map_eq_some_iff.mp h
      exact .float (Decimal.whole?_eq_some_iff.mp hWhole) rfl
    | _ => cases h

def IsLength (n : Nat) (value : Setting) : Prop := IsWhole n value

def IsChoice {α : Type} [Choice α] (a : α) (value : Setting) : Prop := value = .str (Choice.name a)

end Setting

/-- `a` is read from the leaf that stands, and is the usual value if nothing stands. -/
def Standing.Gives {α : Type} (usual : α) (reads : α → Setting → Prop) (a : α) : Standing → Prop
  | .absent => a = usual
  | .leaf value => reads a value
  | .table => False

/-- Every field is given by what stands at its path. -/
structure Profile.Says (p : Profile) (standing : List String → Standing) : Prop where
  responseStyle : (standing ["response_style"]).Gives
    Profile.usual.responseStyle Setting.IsChoice p.responseStyle
  vocabularyLevel : (standing ["vocabulary_level"]).Gives
    Profile.usual.vocabularyLevel Setting.IsChoice p.vocabularyLevel
  maxResponseLength : (standing ["max_response_length"]).Gives
    Profile.usual.maxResponseLength Setting.IsLength p.maxResponseLength
  contentRestrictions : (standing ["content_restrictions"]).Gives
    Profile.usual.contentRestrictions Setting.IsNameSet p.contentRestrictions
  blockedTopics : (standing ["blocked_topics"]).Gives
    Profile.usual.blockedTopics Setting.IsNameSet p.blockedTopics
  proactiveSuggestions : (standing ["proactive_suggestions"]).Gives
    Profile.usual.proactiveSuggestions Setting.IsFlag p.proactiveSuggestions
  proactiveFrequency : (standing ["proactive_frequency"]).Gives
    Profile.usual.proactiveFrequency Setting.IsChoice p.proactiveFrequency
  interruptionThreshold : (standing ["interruption_threshold"]).Gives
    Profile.usual.interruptionThreshold Setting.IsChoice p.interruptionThreshold
  voiceResponses : (standing ["voice_responses"]).Gives
    Profile.usual.voiceResponses Setting.IsFlag p.voiceResponses
  voiceVolume : (standing ["voice_volume"]).Gives
    Profile.usual.voiceVolume Setting.IsChoice p.voiceVolume
  voice : (standing ["voice"]).Gives Profile.usual.voice Setting.IsText p.voice
  notifications : (standing ["notifications"]).Gives
    Profile.usual.notifications Setting.IsChoice p.notifications
  model : (standing ["model"]).Gives Profile.usual.model Setting.IsText p.model
  personalMemory : (standing ["memory", "include_personal"]).Gives
    Profile.usual.memory.personal Setting.IsFlag p.memory.personal
  sharedMemory : (standing ["memory", "include_shared"]).Gives
    Profile.usual.memory.shared Setting.IsFlag p.memory.shared
  allowed : (standing ["permissions", "allowed"]).Gives
    Profile.usual.permissions.allowed Setting.IsList p.permissions.allowed
  denied : (standing ["permissions", "denied"]).Gives
    Profile.usual.permissions.denied Setting.IsList p.permissions.denied
  preferredVocabulary : (standing ["preferred_vocabulary"]).Gives
    Profile.usual.preferredVocabulary Setting.IsList p.preferredVocabulary
  avoidConcepts : (standing ["avoid_concepts"]).Gives
    Profile.usual.avoidConcepts Setting.IsList p.avoidConcepts
  wordReplacements : ∀ word replacement, Keyed.get? p.wordReplacements word = some replacement ↔
    standing ["word_replacements", word] = .leaf (.str replacement)
  interests : (standing ["interests"]).Gives Profile.usual.interests Setting.IsList p.interests

theorem Choice.exists_ofName_of_mem {α : Type} [Choice α] {s : String} (h : s ∈ Choice.names α) :
    ∃ a, Choice.ofName α s = .ok a ∧ Choice.name a = s := by
  obtain ⟨a, hAll, hName⟩ := List.mem_map.mp h
  cases hFind : Choice.ofName? α s with
  | none =>
    have hNone := List.find?_eq_none.mp hFind a hAll
    simp [hName] at hNone
  | some b =>
    have hFound := List.find?_some hFind
    exact ⟨b, by rw [Choice.ofName, hFind], by simpa using hFound⟩

namespace Fragment

/-- Nothing is unset, and what stands under the fields has their shapes. -/
structure Fits (fields : List (String × Shape)) (f : Fragment) : Prop where
  allSet : Setting.AllSet f
  checked : checkAll (Shape.checkField fields) f = .ok ()

theorem Fits.of_get? {fields : List (String × Shape)} {f : Fragment} {key : String} {shape : Shape}
    {value : Setting} (h : Fits fields f) (hShape : Keyed.get? fields key = some shape)
    (hKey : get? f key = some value) : value.IsSet ∧ shape.check value = .ok () := by
  have hMem := Keyed.mem_of_get? hKey
  refine ⟨Setting.allSet_iff.mp h.allSet _ hMem, ?_⟩
  exact Shape.checkField_eq_ok_iff.mp (checkAll_eq_ok_iff.mp h.checked _ hMem) shape hShape

end Fragment

/-- Nothing was rejected, and the value is given by what stands. -/
structure Reading.Agrees {α : Type} (r : Reading α) (usual : α) (reads : α → Setting → Prop)
    (standing : Standing) : Prop where
  rejected : r.rejected = []
  value : standing.Gives usual reads r.value

theorem Reading.Agrees.nameSet {r : Reading (List String)} {standing : Standing}
    (h : r.Agrees [] Setting.IsList standing) :
    (r.map NameSet.ofList).Agrees [] Setting.IsNameSet standing := by
  refine ⟨h.rejected, ?_⟩
  have hValue := h.value
  cases standing with
  | absent =>
    rw [Standing.Gives] at hValue
    rw [Standing.Gives, Reading.map, hValue]
    rfl
  | leaf value => exact ⟨r.value, hValue, rfl⟩
  | table => exact hValue

namespace Fragment

open Reading

variable {fields : List (String × Shape)} {f : Fragment} {key : String}

theorem agrees_of_accepts {α : Type} {r : Reading α} {usual : α} {reads : α → Setting → Prop}
    {shape : Shape} (h : Fits fields f) (hShape : Keyed.get? fields key = some shape)
    (hNone : get? f key = none → r = accept usual)
    (hSome : ∀ value, get? f key = some value → value.IsSet → shape.check value = .ok () →
      value.table? = none ∧ ∃ a, r = accept a ∧ reads a value) :
    r.Agrees usual reads (stands f [key]) := by
  cases hKey : get? f key with
  | none =>
    rw [hNone hKey, stands_cons_none hKey]
    exact ⟨rfl, rfl⟩
  | some value =>
    obtain ⟨hSet, hCheck⟩ := h.of_get? hShape hKey
    obtain ⟨hTable, a, rfl, hReads⟩ := hSome value hKey hSet hCheck
    have hStands : stands f [key] = .leaf value := by
      rw [stands, at?, hKey]
      cases value with
      | table => cases hTable
      | _ => rfl
    rw [hStands]
    exact ⟨rfl, hReads⟩

theorem readFlagAt_agrees (h : Fits fields f) (hShape : Keyed.get? fields key = some .flag)
    (field : String) : (readFlagAt f key field).Agrees true Setting.IsFlag (stands f [key]) := by
  refine agrees_of_accepts h hShape ?_ ?_
  · intro hKey
    rw [readFlagAt, hKey]
  · intro value hKey hSet hCheck
    cases value with
    | bool b => exact ⟨rfl, b, by rw [readFlagAt, hKey], rfl⟩
    | unset => exact hSet.elim
    | _ => simp [Shape.check] at hCheck

theorem readText_agrees (h : Fits fields f) (hShape : Keyed.get? fields key = some .text) :
    (readText f key).Agrees "default" Setting.IsText (stands f [key]) := by
  refine agrees_of_accepts h hShape ?_ ?_
  · intro hKey
    rw [readText, hKey]
  · intro value hKey hSet hCheck
    cases value with
    | str s => exact ⟨rfl, s, by rw [readText, hKey], rfl⟩
    | unset => exact hSet.elim
    | _ => simp [Shape.check] at hCheck

theorem readListAt_agrees (h : Fits fields f) (hShape : Keyed.get? fields key = some .list)
    (field : String) (missing refused : List String) :
    (readListAt f key field missing refused).Agrees missing Setting.IsList (stands f [key]) := by
  refine agrees_of_accepts h hShape ?_ ?_
  · intro hKey
    rw [readListAt, hKey]
  · intro value hKey hSet hCheck
    cases value with
    | list items => exact ⟨rfl, items, by rw [readListAt, hKey], rfl⟩
    | unset => exact hSet.elim
    | _ => simp [Shape.check] at hCheck

theorem readLength_agrees (h : Fits fields f)
    (hShape : Keyed.get? fields "max_response_length" = some .positive) :
    (readLength f).Agrees usualLength Setting.IsLength (stands f ["max_response_length"]) := by
  refine agrees_of_accepts h hShape ?_ ?_
  · intro hKey
    rw [readLength, hKey]
  · intro value hKey hSet hCheck
    obtain ⟨n, hInt, hPos⟩ := Shape.exists_int?_of_check_positive hSet hCheck
    refine ⟨?_, n.toNat, ?_, ?_⟩
    · cases value with
      | table => cases hInt
      | _ => rfl
    · simp only [readLength, hKey, hInt, if_pos hPos]
    · rw [Setting.IsLength, Setting.isWhole_iff, hInt, Int.toNat_of_nonneg (by omega)]

theorem readChoice_agrees {α : Type} [Choice α] (h : Fits fields f)
    (hShape : Keyed.get? fields (Choice.key α) = some (.oneOf (Choice.names α))) :
    (readChoice α f).Agrees Choice.usual Setting.IsChoice (stands f [Choice.key α]) := by
  refine agrees_of_accepts h hShape ?_ ?_
  · intro hKey
    rw [readChoice, hKey]
  · intro value hKey hSet hCheck
    cases value with
    | str s =>
      have hMem : s ∈ Choice.names α := by
        by_contra hNot
        simp [Shape.check, hNot] at hCheck
      obtain ⟨a, hName, rfl⟩ := Choice.exists_ofName_of_mem hMem
      refine ⟨rfl, a, ?_, rfl⟩
      simp only [readChoice, hKey, hName]
    | unset => exact hSet.elim
    | _ => simp [Shape.check] at hCheck

theorem stands_singleton_eq_leaf_iff {f : Fragment} {key s : String} :
    stands f [key] = .leaf (.str s) ↔ get? f key = some (.str s) := by
  rw [stands, at?]
  cases get? f key with
  | none => simp
  | some value => cases value <;> simp

theorem Fits.of_table {entries : Fragment} (hSet : (Setting.table entries).IsSet)
    (hCheck : Shape.check (.table fields) (.table entries) = .ok ()) : Fits fields entries := by
  rcases Shape.check_table_eq_ok_iff.mp hCheck with ⟨hShape, -⟩ | ⟨fields', hShape, hEntries⟩
  · cases hShape
  · cases hShape
    exact ⟨hSet, hEntries⟩

theorem Fits.table_of_get? {inner : List (String × Shape)} (h : Fits fields f)
    (hShape : Keyed.get? fields key = some (.table inner)) :
    get? f key = none ∨ ∃ entries, get? f key = some (.table entries) ∧ Fits inner entries := by
  cases hKey : get? f key with
  | none => exact Or.inl rfl
  | some value =>
    obtain ⟨hSet, hCheck⟩ := h.of_get? hShape hKey
    cases value with
    | table entries => exact Or.inr ⟨entries, rfl, Fits.of_table hSet hCheck⟩
    | unset => exact hSet.elim
    | _ => simp [Shape.check] at hCheck

theorem readMemory_agrees (h : Fits fields f)
    (hShape : Keyed.get? fields "memory" = some (.table memoryFields)) :
    (readMemory f).rejected = [] ∧
    (stands f ["memory", "include_personal"]).Gives true Setting.IsFlag
      (readMemory f).value.personal ∧
    (stands f ["memory", "include_shared"]).Gives true Setting.IsFlag
      (readMemory f).value.shared := by
  rcases h.table_of_get? hShape with hKey | ⟨entries, hKey, hEntries⟩
  · rw [readMemory, hKey, stands_cons_none hKey, stands_cons_none hKey]
    exact ⟨rfl, rfl, rfl⟩
  · have hPersonal := @readFlagAt_agrees memoryFields entries "include_personal" hEntries rfl
      "memory.include_personal"
    have hShared := @readFlagAt_agrees memoryFields entries "include_shared" hEntries rfl
      "memory.include_shared"
    rw [readMemory, hKey, stands_cons_table (by simp) hKey, stands_cons_table (by simp) hKey]
    refine ⟨?_, hPersonal.value, hShared.value⟩
    dsimp only
    rw [hPersonal.rejected, hShared.rejected, List.append_nil]

theorem readPermissions_agrees (h : Fits fields f)
    (hShape : Keyed.get? fields "permissions" = some (.table permissionFields)) :
    (readPermissions f).rejected = [] ∧
    (stands f ["permissions", "allowed"]).Gives ["*"] Setting.IsList
      (readPermissions f).value.allowed ∧
    (stands f ["permissions", "denied"]).Gives [] Setting.IsList
      (readPermissions f).value.denied := by
  rcases h.table_of_get? hShape with hKey | ⟨entries, hKey, hEntries⟩
  · rw [readPermissions, hKey, stands_cons_none hKey, stands_cons_none hKey]
    exact ⟨rfl, rfl, rfl⟩
  · have hAllowed := @readListAt_agrees permissionFields entries "allowed" hEntries rfl
      "permissions.allowed" ["*"] []
    have hDenied := @readListAt_agrees permissionFields entries "denied" hEntries rfl
      "permissions.denied" [] []
    rw [readPermissions, hKey, stands_cons_table (by simp) hKey, stands_cons_table (by simp) hKey]
    refine ⟨?_, hAllowed.value, hDenied.value⟩
    dsimp only
    rw [hAllowed.rejected, hDenied.rejected, List.append_nil]

theorem readWords_of_check {entries : Fragment} (hSet : Setting.AllSet entries)
    (hCheck : checkAll checkWord entries = .ok ()) :
    (readWords entries).rejected = [] ∧
    ∀ word replacement, Keyed.get? (readWords entries).value word = some replacement ↔
      get? entries word = some (.str replacement) := by
  induction entries with
  | nil => simp [readWords, accept, get?]
  | cons entry rest ih =>
    obtain ⟨first, value⟩ := entry
    have hRest : checkAll checkWord rest = .ok () := by
      rw [checkAll_eq_ok_iff] at hCheck ⊢
      exact (List.forall_mem_cons.mp hCheck).2
    obtain ⟨hRejected, hWords⟩ := ih hSet.2 hRest
    have hWord : checkWord first value = .ok () :=
      (List.forall_mem_cons.mp (checkAll_eq_ok_iff.mp hCheck)).1
    rcases checkWord_eq_ok_iff.mp hWord with rfl | ⟨text, rfl⟩
    · exact hSet.1.elim
    · rw [readWords]
      refine ⟨hRejected, ?_⟩
      intro word replacement
      simp only [Keyed.get?, get?]
      by_cases hFirst : first = word
      · simp [hFirst]
      · simp only [if_neg hFirst]
        exact hWords word replacement

theorem readReplacements_agrees (h : Fits fields f)
    (hShape : Keyed.get? fields "word_replacements" = some .words) :
    (readReplacements f).rejected = [] ∧
    ∀ word replacement, Keyed.get? (readReplacements f).value word = some replacement ↔
      stands f ["word_replacements", word] = .leaf (.str replacement) := by
  cases hKey : get? f "word_replacements" with
  | none =>
    rw [readReplacements, hKey]
    refine ⟨rfl, ?_⟩
    intro word replacement
    rw [stands_cons_none hKey]
    simp [accept]
  | some value =>
    obtain ⟨hSet, hCheck⟩ := h.of_get? hShape hKey
    cases value with
    | table entries =>
      have hEntries : checkAll checkWord entries = .ok () := by simpa [Shape.check] using hCheck
      obtain ⟨hRejected, hWords⟩ := readWords_of_check hSet hEntries
      rw [readReplacements, hKey]
      refine ⟨hRejected, ?_⟩
      intro word replacement
      rw [stands_cons_table (by simp) hKey, hWords, stands_singleton_eq_leaf_iff]
    | unset => exact hSet.elim
    | _ => simp [Shape.check] at hCheck

/-- A fragment that fits is read without a rejection, every field from what stands at its path. -/
theorem toProfile_says (h : Fits knownSettings f) :
    f.toProfile.rejected = [] ∧ f.toProfile.value.Says (stands f) := by
  have hStyle := @readChoice_agrees _ f ResponseStyle _ h rfl
  have hLevel := @readChoice_agrees _ f VocabularyLevel _ h rfl
  have hLength := readLength_agrees h rfl
  have hRestrictions :=
    @readListAt_agrees _ f "content_restrictions" h rfl "content_restrictions" [] contentCategories
  have hTopics := @readListAt_agrees _ f "blocked_topics" h rfl "blocked_topics" [] []
  have hSuggestions := @readFlagAt_agrees _ f "proactive_suggestions" h rfl "proactive_suggestions"
  have hFrequency := @readChoice_agrees _ f ProactiveFrequency _ h rfl
  have hThreshold := @readChoice_agrees _ f InterruptionThreshold _ h rfl
  have hResponses := @readFlagAt_agrees _ f "voice_responses" h rfl "voice_responses"
  have hVolume := @readChoice_agrees _ f VoiceVolume _ h rfl
  have hVoice := @readText_agrees _ f "voice" h rfl
  have hNotifications := @readChoice_agrees _ f NotificationMode _ h rfl
  have hModel := @readText_agrees _ f "model" h rfl
  obtain ⟨hMemory, hPersonal, hShared⟩ := readMemory_agrees h rfl
  obtain ⟨hPermissions, hAllowed, hDenied⟩ := readPermissions_agrees h rfl
  have hVocabulary :=
    @readListAt_agrees _ f "preferred_vocabulary" h rfl "preferred_vocabulary" [] []
  have hConcepts := @readListAt_agrees _ f "avoid_concepts" h rfl "avoid_concepts" [] []
  obtain ⟨hReplacements, hWords⟩ := readReplacements_agrees h rfl
  have hInterests := @readListAt_agrees _ f "interests" h rfl "interests" [] []
  constructor
  · simp [toProfile, readRestrictions, readList, readFlag, Reading.map, hStyle.rejected,
      hLevel.rejected, hLength.rejected, hRestrictions.rejected, hTopics.rejected,
      hSuggestions.rejected, hFrequency.rejected, hThreshold.rejected, hResponses.rejected,
      hVolume.rejected, hVoice.rejected, hNotifications.rejected, hModel.rejected, hMemory,
      hPermissions, hVocabulary.rejected, hConcepts.rejected, hReplacements, hInterests.rejected]
  · exact
      { responseStyle := hStyle.value
        vocabularyLevel := hLevel.value
        maxResponseLength := hLength.value
        contentRestrictions := hRestrictions.nameSet.value
        blockedTopics := hTopics.nameSet.value
        proactiveSuggestions := hSuggestions.value
        proactiveFrequency := hFrequency.value
        interruptionThreshold := hThreshold.value
        voiceResponses := hResponses.value
        voiceVolume := hVolume.value
        voice := hVoice.value
        notifications := hNotifications.value
        model := hModel.value
        personalMemory := hPersonal
        sharedMemory := hShared
        allowed := hAllowed
        denied := hDenied
        preferredVocabulary := hVocabulary.value
        avoidConcepts := hConcepts.value
        wordReplacements := hWords
        interests := hInterests.value }

end Fragment

end Household
