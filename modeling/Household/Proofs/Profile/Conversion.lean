import Mathlib.Data.List.TakeWhile
import Household.Layer.Build
import Household.Proofs.Profile.Treatment
import Household.Proofs.Setting.Known

/-! # Checking and converting agree

A fragment without unset values passes the check exactly if its conversion to a profile rejects
nothing. In any fragment every field is treated by itself, and keys that are not known change
nothing.
-/

set_option autoImplicit false

namespace Household

open Reading

/-! ## What a profile says of a fragment -/

structure Field (α : Type) where
  name : String
  part : Profile → α
  reads : α → Setting → Prop
  restrictive : Setting → α

namespace Field

variable {α : Type}

/-- A field whose value is that of the restrictive profile where it cannot be read. -/
def of (name : String) (part : Profile → α) (reads : α → Setting → Prop) : Field α :=
  ⟨name, part, reads, fun _ => part Profile.restrictive⟩

/-- The field is read from what is given, which is rejected under the name of the field or not at
all. -/
def Settles (field : Field α) (given : Option Setting) (r : Reading Profile) : Prop :=
  Treated field.name (field.part Profile.usual) field.reads field.restrictive given
    (field.part r.value) (naming r.rejected field.name)

def SettlesWithin (field : Field α) (key : String) (given : Option Setting)
    (r : Reading Profile) : Prop :=
  TreatedWithin field.name (field.part Profile.usual) field.reads field.restrictive key given
    (field.part r.value) (naming r.rejected field.name)

variable {field : Field α} {given : Option Setting} {key : String} {value : Setting}
  {r : Reading Profile}

theorem Settles.reads (h : field.Settles given r) (hNone : r.rejected = [])
    (hGiven : given = some value) : field.reads (field.part r.value) value := by
  rw [Settles, hNone, hGiven] at h
  exact h.reads_of_nil

theorem SettlesWithin.reads {entries : Fragment} (h : field.SettlesWithin key given r)
    (hNone : r.rejected = []) (hGiven : given = some (.table entries))
    (hInner : Fragment.get? entries key = some value) :
    field.reads (field.part r.value) value := by
  rw [SettlesWithin, hNone, hGiven] at h
  have hTreated := h.treated
  rw [hInner] at hTreated
  exact hTreated.reads_of_nil

end Field

/-- Every field of the profile is settled by what the fragment holds under its key. -/
structure Fragment.Settled (f : Fragment) (r : Reading Profile) : Prop where
  responseStyle : (Field.of "response_style" Profile.responseStyle Setting.IsChoice).Settles
    (get? f "response_style") r
  vocabularyLevel : (Field.of "vocabulary_level" Profile.vocabularyLevel Setting.IsChoice).Settles
    (get? f "vocabulary_level") r
  maxResponseLength : (Field.mk "max_response_length" Profile.maxResponseLength Setting.IsPositive
    lengthInstead).Settles (get? f "max_response_length") r
  contentRestrictions :
    (Field.of "content_restrictions" Profile.contentRestrictions Setting.IsNameSet).Settles
      (get? f "content_restrictions") r
  blockedTopics : (Field.of "blocked_topics" Profile.blockedTopics Setting.IsNameSet).Settles
    (get? f "blocked_topics") r
  proactiveSuggestions :
    (Field.of "proactive_suggestions" Profile.proactiveSuggestions Setting.IsFlag).Settles
      (get? f "proactive_suggestions") r
  proactiveFrequency :
    (Field.of "proactive_frequency" Profile.proactiveFrequency Setting.IsChoice).Settles
      (get? f "proactive_frequency") r
  interruptionThreshold :
    (Field.of "interruption_threshold" Profile.interruptionThreshold Setting.IsChoice).Settles
      (get? f "interruption_threshold") r
  voiceResponses : (Field.of "voice_responses" Profile.voiceResponses Setting.IsFlag).Settles
    (get? f "voice_responses") r
  voiceVolume : (Field.of "voice_volume" Profile.voiceVolume Setting.IsChoice).Settles
    (get? f "voice_volume") r
  voice : (Field.of "voice" Profile.voice Setting.IsText).Settles (get? f "voice") r
  notifications : (Field.of "notifications" Profile.notifications Setting.IsChoice).Settles
    (get? f "notifications") r
  model : (Field.of "model" Profile.model Setting.IsText).Settles (get? f "model") r
  memory : (Field.of "memory" (fun _ => ()) Setting.IsTable).Settles (get? f "memory") r
  personalMemory :
    (Field.of "memory.include_personal" (·.memory.personal) Setting.IsFlag).SettlesWithin
      "include_personal" (get? f "memory") r
  sharedMemory :
    (Field.of "memory.include_shared" (·.memory.shared) Setting.IsFlag).SettlesWithin
      "include_shared" (get? f "memory") r
  permissions : (Field.of "permissions" (fun _ => ()) Setting.IsTable).Settles
    (get? f "permissions") r
  allowed : (Field.of "permissions.allowed" (·.permissions.allowed) Setting.IsList).SettlesWithin
    "allowed" (get? f "permissions") r
  denied : (Field.of "permissions.denied" (·.permissions.denied) Setting.IsList).SettlesWithin
    "denied" (get? f "permissions") r
  preferredVocabulary :
    (Field.of "preferred_vocabulary" Profile.preferredVocabulary Setting.IsList).Settles
      (get? f "preferred_vocabulary") r
  avoidConcepts : (Field.of "avoid_concepts" Profile.avoidConcepts Setting.IsList).Settles
    (get? f "avoid_concepts") r
  wordReplacements : (Field.of "word_replacements" (fun _ => ()) Setting.IsTable).Settles
    (get? f "word_replacements") r
  words : ∀ word, (Field.of (wordField word) (fun p => Keyed.get? p.wordReplacements word)
    Setting.IsWord).SettlesWithin word (get? f "word_replacements") r
  interests : (Field.of "interests" Profile.interests Setting.IsList).Settles
    (get? f "interests") r

/-! ## The rejections of each field -/

def topKey (name : String) : String := String.ofList (name.toList.takeWhile (· ≠ '.'))

def About (key : String) (rejected : List Rejection) : Prop := ∀ x ∈ rejected, topKey x.field = key

theorem Treated.about {α : Type} {name key : String} {usual a : α} {reads : α → Setting → Prop}
    {restrictive : Setting → α} {given : Option Setting} {named : List Rejection}
    (h : Treated name usual reads restrictive given a named) (hKey : topKey name = key) :
    About key named := by
  intro x hx
  rw [h.field_eq x hx, hKey]

theorem About.append {key : String} {first second : List Rejection} (h : About key first)
    (h' : About key second) : About key (first ++ second) :=
  List.forall_mem_append.mpr ⟨h, h'⟩

theorem About.naming_eq_nil {key name : String} {rejected : List Rejection}
    (h : About key rejected) (hName : topKey name ≠ key) : naming rejected name = [] := by
  refine naming_eq_nil_iff.mpr ?_
  rintro x hx rfl
  exact hName (h x hx)

/-- Of rejections that are sorted by keys, those that name a field are in the part of its key. -/
theorem naming_flatMap {parts : List (String × List Rejection)} {part : String × List Rejection}
    {name : String} (hNodup : (parts.map Prod.fst).Nodup)
    (hAbout : ∀ p ∈ parts, About p.1 p.2) (hPart : part ∈ parts) (hName : topKey name = part.1) :
    naming (parts.flatMap Prod.snd) name = naming part.2 name := by
  induction parts with
  | nil => cases hPart
  | cons first rest ih =>
    rw [List.map_cons, List.nodup_cons] at hNodup
    obtain ⟨hFirst, hRest⟩ := List.forall_mem_cons.mp hAbout
    rw [List.flatMap_cons, naming_append]
    rcases List.mem_cons.mp hPart with rfl | hPart
    · have hLater : ∀ p ∈ rest, topKey name ≠ p.1 := by
        intro p hp hSame
        rw [hName] at hSame
        exact hNodup.1 (hSame ▸ List.mem_map_of_mem hp)
      have hNone : naming (rest.flatMap Prod.snd) name = [] := by
        refine naming_eq_nil_iff.mpr ?_
        rintro x hx rfl
        obtain ⟨p, hp, hxp⟩ := List.mem_flatMap.mp hx
        exact hLater p hp (hRest p hp x hxp)
      rw [hNone, List.append_nil]
    · have hOther : topKey name ≠ first.1 := by
        intro hSame
        rw [hName] at hSame
        exact hNodup.1 (hSame ▸ List.mem_map_of_mem hPart)
      rw [hFirst.naming_eq_nil hOther, List.nil_append]
      exact ih hNodup.2 hRest hPart

namespace Fragment

/-- The rejections of a conversion, under the keys that they are about. -/
def rejections (f : Fragment) : List (String × List Rejection) :=
  [ ("response_style", (readChoice ResponseStyle f).rejected),
    ("vocabulary_level", (readChoice VocabularyLevel f).rejected),
    ("max_response_length", (readLength f).rejected),
    ("content_restrictions", (readRestrictions f).rejected),
    ("blocked_topics", (readList f "blocked_topics").rejected),
    ("proactive_suggestions", (readFlag f "proactive_suggestions").rejected),
    ("proactive_frequency", (readChoice ProactiveFrequency f).rejected),
    ("interruption_threshold", (readChoice InterruptionThreshold f).rejected),
    ("voice_responses", (readFlag f "voice_responses").rejected),
    ("voice_volume", (readChoice VoiceVolume f).rejected),
    ("voice", (readText f "voice").rejected),
    ("notifications", (readChoice NotificationMode f).rejected),
    ("model", (readText f "model").rejected),
    ("memory", (readMemory f).rejected),
    ("permissions", (readPermissions f).rejected),
    ("preferred_vocabulary", (readList f "preferred_vocabulary").rejected),
    ("avoid_concepts", (readList f "avoid_concepts").rejected),
    ("word_replacements", (readReplacements f).rejected),
    ("interests", (readList f "interests").rejected) ]

theorem toProfile_rejected (f : Fragment) :
    f.toProfile.rejected = f.rejections.flatMap Prod.snd := by
  simp [toProfile, rejections]

theorem topKey_wordField (word : String) : topKey (wordField word) = "word_replacements" := by
  have hSplit : "word_replacements.".toList = "word_replacements".toList ++ ['.'] := by decide
  have hPlain := List.all_eq_true.mp
    (by decide : "word_replacements".toList.all (fun c => decide (c ≠ '.')) = true)
  rw [topKey, toList_wordField, hSplit, List.append_assoc, List.takeWhile_append_of_pos hPlain,
    List.singleton_append, List.takeWhile_cons_of_neg (by decide), List.append_nil,
    String.ofList_toList]

section About

variable (f : Fragment)

theorem topKey_eq_self {part : String × List Rejection} (h : part ∈ f.rejections) :
    topKey part.1 = part.1 := by
  have hKeys : f.rejections.map Prod.fst = knownSettings.map Prod.fst := rfl
  have hPlain : ∀ key ∈ knownSettings.map Prod.fst,
      (key.toList.all fun c => decide (c ≠ '.')) = true := by decide
  have hPart := List.all_eq_true.mp (hPlain part.1 (hKeys ▸ List.mem_map_of_mem h))
  rw [topKey, List.takeWhile_eq_self_iff.mpr hPart, String.ofList_toList]

theorem about_wrongKind {α : Type} (a : α) (key expected : String) (given : Setting)
    (hKey : topKey key = key) : About key (wrongKind a key expected given).rejected := by
  intro x hx
  rw [List.mem_singleton.mp hx]
  exact hKey

theorem readMemory_about : About "memory" (readMemory f).rejected := by
  rw [readMemory]
  cases get? f "memory" with
  | none => exact List.forall_mem_nil _
  | some value =>
    cases value with
    | table entries =>
      have hPersonal := readFlagAt_treated entries "include_personal" "memory.include_personal"
      have hShared := readFlagAt_treated entries "include_shared" "memory.include_shared"
      exact (hPersonal.about (by decide)).append (hShared.about (by decide))
    | _ => exact about_wrongKind _ "memory" _ _ (by decide)

theorem readPermissions_about : About "permissions" (readPermissions f).rejected := by
  rw [readPermissions]
  cases get? f "permissions" with
  | none => exact List.forall_mem_nil _
  | some value =>
    cases value with
    | table entries =>
      have hAllowed := readListAt_treated entries "allowed" "permissions.allowed" ["*"] []
      have hDenied := readListAt_treated entries "denied" "permissions.denied" [] []
      exact (hAllowed.about (by decide)).append (hDenied.about (by decide))
    | _ => exact about_wrongKind _ "permissions" _ _ (by decide)

theorem readReplacements_about : About "word_replacements" (readReplacements f).rejected := by
  rw [readReplacements]
  cases get? f "word_replacements" with
  | none => exact List.forall_mem_nil _
  | some value =>
    cases value with
    | table entries =>
      intro x hx
      obtain ⟨word, hField⟩ := exists_word_of_mem_readWords x hx
      rw [hField, topKey_wordField]
    | _ => exact about_wrongKind _ "word_replacements" _ _ (by decide)

theorem rejections_about : ∀ part ∈ f.rejections, About part.1 part.2 := by
  have hKeys : ∀ part ∈ f.rejections, topKey part.1 = part.1 := fun _ => topKey_eq_self f
  simp only [rejections, List.forall_mem_cons] at hKeys ⊢
  obtain ⟨hStyle, hLevel, hLength, hRestrictions, hTopics, hSuggestions, hFrequency, hThreshold,
    hResponses, hVolume, hVoice, hNotifications, hModel, -, -, hVocabulary, hConcepts, -,
    hInterests, -⟩ := hKeys
  exact
    ⟨(readChoice_treated f ResponseStyle).about hStyle,
      (readChoice_treated f VocabularyLevel).about hLevel,
      (readLength_treated f).about hLength,
      (readListAt_treated f "content_restrictions" _ [] contentCategories).about hRestrictions,
      (readListAt_treated f "blocked_topics" _ [] []).about hTopics,
      (readFlagAt_treated f "proactive_suggestions" _).about hSuggestions,
      (readChoice_treated f ProactiveFrequency).about hFrequency,
      (readChoice_treated f InterruptionThreshold).about hThreshold,
      (readFlagAt_treated f "voice_responses" _).about hResponses,
      (readChoice_treated f VoiceVolume).about hVolume,
      (readText_treated f "voice").about hVoice,
      (readChoice_treated f NotificationMode).about hNotifications,
      (readText_treated f "model").about hModel,
      readMemory_about f, readPermissions_about f,
      (readListAt_treated f "preferred_vocabulary" _ [] []).about hVocabulary,
      (readListAt_treated f "avoid_concepts" _ [] []).about hConcepts,
      readReplacements_about f,
      (readListAt_treated f "interests" _ [] []).about hInterests,
      List.forall_mem_nil _⟩

theorem naming_toProfile {part : String × List Rejection} {name : String}
    (hPart : part ∈ f.rejections) (hName : topKey name = part.1) :
    naming f.toProfile.rejected name = naming part.2 name := by
  have hKeys : f.rejections.map Prod.fst = knownSettings.map Prod.fst := rfl
  have hNodup : (knownSettings.map Prod.fst).Nodup := by decide
  rw [toProfile_rejected]
  exact naming_flatMap (hKeys ▸ hNodup) (rejections_about f) hPart hName

end About

variable {f : Fragment}

theorem naming_of_part {key name : String} {part : List Rejection} (i : Nat)
    (hPart : f.rejections[i]? = some (key, part)) (hKey : topKey name = key) :
    naming f.toProfile.rejected name = naming part name :=
  naming_toProfile f (List.mem_of_getElem? hPart) hKey

/-- A field with one value is settled by its reading, which has the place `i` among the rejections. -/
theorem settles_of_treated {α : Type} {field : Field α} {named : List Rejection}
    {given : Option Setting} (i : Nat) (hPart : f.rejections[i]? = some (field.name, named))
    (h : Treated field.name (field.part Profile.usual) field.reads field.restrictive given
      (field.part f.toProfile.value) named) : field.Settles given f.toProfile := by
  have hMem := List.mem_of_getElem? hPart
  rw [Field.Settles, naming_toProfile f hMem (topKey_eq_self f hMem), h.naming_name]
  exact h

theorem settled_toProfile (hOrdered : f.Ordered) : f.Settled f.toProfile := by
  obtain ⟨hMemory, hPersonal, hShared⟩ := readMemory_treated f
  obtain ⟨hPermissions, hAllowed, hDenied⟩ := readPermissions_treated f
  obtain ⟨hReplacements, hWords⟩ := readReplacements_treated f hOrdered
  rw [← naming_of_part 13 rfl (by decide)] at hMemory hPersonal hShared
  rw [← naming_of_part 14 rfl (by decide)] at hPermissions hAllowed hDenied
  rw [← naming_of_part 17 rfl (by decide)] at hReplacements
  have hEach : ∀ word, naming f.toProfile.rejected (wordField word) =
      naming (readReplacements f).rejected (wordField word) := by
    intro word
    exact naming_of_part 17 rfl (topKey_wordField word)
  simp only [← hEach] at hWords
  exact
    { responseStyle := settles_of_treated 0 rfl (readChoice_treated f ResponseStyle)
      vocabularyLevel := settles_of_treated 1 rfl (readChoice_treated f VocabularyLevel)
      maxResponseLength := settles_of_treated 2 rfl (readLength_treated f)
      contentRestrictions := settles_of_treated 3 rfl
        (readListAt_treated_nameSet f "content_restrictions" "content_restrictions" []
          contentCategories)
      blockedTopics := settles_of_treated 4 rfl
        (readListAt_treated_nameSet f "blocked_topics" "blocked_topics" [] [])
      proactiveSuggestions := settles_of_treated 5 rfl
        (readFlagAt_treated f "proactive_suggestions" _)
      proactiveFrequency := settles_of_treated 6 rfl (readChoice_treated f ProactiveFrequency)
      interruptionThreshold := settles_of_treated 7 rfl (readChoice_treated f InterruptionThreshold)
      voiceResponses := settles_of_treated 8 rfl (readFlagAt_treated f "voice_responses" _)
      voiceVolume := settles_of_treated 9 rfl (readChoice_treated f VoiceVolume)
      voice := settles_of_treated 10 rfl (readText_treated f "voice")
      notifications := settles_of_treated 11 rfl (readChoice_treated f NotificationMode)
      model := settles_of_treated 12 rfl (readText_treated f "model")
      memory := hMemory
      personalMemory := hPersonal
      sharedMemory := hShared
      permissions := hPermissions
      allowed := hAllowed
      denied := hDenied
      preferredVocabulary := settles_of_treated 15 rfl
        (readListAt_treated f "preferred_vocabulary" _ [] [])
      avoidConcepts := settles_of_treated 16 rfl (readListAt_treated f "avoid_concepts" _ [] [])
      wordReplacements := hReplacements
      words := hWords
      interests := settles_of_treated 18 rfl (readListAt_treated f "interests" _ [] []) }

/-! ## Nothing rejected, nothing to complain about -/

theorem checkAll_of_get? {fields : List (String × Shape)} (hOrdered : Keyed.Ordered f)
    (h : ∀ field ∈ fields, ∀ value, get? f field.1 = some value → field.2.check value = .ok ()) :
    checkAll (Shape.checkField fields) f = .ok () := by
  refine checkAll_eq_ok_iff.mpr ?_
  intro entry hEntry
  refine Shape.checkField_eq_ok_iff.mpr ?_
  intro shape hShape
  exact h _ (Keyed.mem_of_get? hShape) _ (Keyed.get?_of_mem hOrdered.nodup_keys hEntry)

theorem check_oneOf_of_isChoice {α : Type} [Choice α] [Choice.Complete α] {a : α}
    {value : Setting} (h : Setting.IsChoice a value) :
    Shape.check (.oneOf (Choice.names α)) value = .ok () := by
  rw [h]
  simp [Shape.check, Choice.names, Choice.Complete.mem_all]

theorem check_positive_of_isPositive {n : Nat} {value : Setting}
    (h : Setting.IsPositive n value) : Shape.check .positive value = .ok () := by
  obtain ⟨hLength, hPos⟩ := h
  rw [Setting.IsLength, Setting.isWhole_iff] at hLength
  have hPos : 1 ≤ (n : Int) := by omega
  cases value with
  | int m => simp only [Shape.check, hLength, if_pos hPos]
  | float x => simp only [Shape.check, hLength, if_pos hPos]
  | _ => cases hLength

theorem check_flag_of_isFlag {b : Bool} {value : Setting} (h : Setting.IsFlag b value) :
    Shape.check .flag value = .ok () := by
  rw [h, Shape.check]

theorem check_text_of_isText {s : String} {value : Setting} (h : Setting.IsText s value) :
    Shape.check .text value = .ok () := by
  rw [h, Shape.check]

theorem check_list_of_isList {items : List String} {value : Setting}
    (h : Setting.IsList items value) : Shape.check .list value = .ok () := by
  rw [h, Shape.check]

theorem check_list_of_isNameSet {names : NameSet} {value : Setting}
    (h : Setting.IsNameSet names value) : Shape.check .list value = .ok () := by
  obtain ⟨items, rfl, -⟩ := h
  rw [Shape.check]

theorem check_table {fields : List (String × Shape)} {value : Setting}
    (hTable : Setting.IsTable () value) (hOrdered : value.IsOrdered)
    (h : ∀ entries, value = .table entries → ∀ field ∈ fields, ∀ inner,
      get? entries field.1 = some inner → field.2.check inner = .ok ()) :
    Shape.check (.table fields) value = .ok () := by
  obtain ⟨entries, rfl⟩ := hTable
  exact Shape.check_table_eq_ok_iff.mpr
    (.inr ⟨fields, rfl, checkAll_of_get? hOrdered.1 (h entries rfl)⟩)

section Settled

variable {r : Reading Profile} (hSettled : f.Settled r) (hNone : r.rejected = [])
include hSettled hNone

theorem check_memory {value : Setting} (hKey : get? f "memory" = some value)
    (hOrdered : value.IsOrdered) : Shape.check (.table memoryFields) value = .ok () := by
  refine check_table (hSettled.memory.reads hNone hKey) hOrdered ?_
  rintro entries rfl
  simp only [memoryFields, List.forall_mem_cons]
  refine ⟨?_, ?_, List.forall_mem_nil _⟩
  · intro inner hInner
    exact check_flag_of_isFlag (hSettled.personalMemory.reads hNone hKey hInner)
  · intro inner hInner
    exact check_flag_of_isFlag (hSettled.sharedMemory.reads hNone hKey hInner)

theorem check_permissions {value : Setting} (hKey : get? f "permissions" = some value)
    (hOrdered : value.IsOrdered) : Shape.check (.table permissionFields) value = .ok () := by
  refine check_table (hSettled.permissions.reads hNone hKey) hOrdered ?_
  rintro entries rfl
  simp only [permissionFields, List.forall_mem_cons]
  refine ⟨?_, ?_, List.forall_mem_nil _⟩
  · intro inner hInner
    exact check_list_of_isList (hSettled.allowed.reads hNone hKey hInner)
  · intro inner hInner
    exact check_list_of_isList (hSettled.denied.reads hNone hKey hInner)

theorem check_words {value : Setting} (hKey : get? f "word_replacements" = some value)
    (hOrdered : value.IsOrdered) : Shape.check .words value = .ok () := by
  obtain ⟨entries, rfl⟩ := hSettled.wordReplacements.reads hNone hKey
  refine Shape.check_table_eq_ok_iff.mpr (.inl ⟨rfl, checkAll_eq_ok_iff.mpr ?_⟩)
  intro entry hEntry
  have hInner := Keyed.get?_of_mem hOrdered.1.nodup_keys hEntry
  obtain ⟨s, hStr, -⟩ := (hSettled.words entry.1).reads hNone hKey hInner
  exact checkWord_eq_ok_iff.mpr (.inr ⟨s, hStr⟩)

/-- Where nothing is rejected, every known key holds a value of its shape. -/
theorem check_of_settled (hOrdered : f.Ordered) : f.check = .ok () := by
  refine checkAll_of_get? hOrdered.1 ?_
  simp only [knownSettings, List.forall_mem_cons]
  exact
    ⟨fun _ hKey => check_oneOf_of_isChoice (hSettled.responseStyle.reads hNone hKey),
      fun _ hKey => check_oneOf_of_isChoice (hSettled.vocabularyLevel.reads hNone hKey),
      fun _ hKey => check_positive_of_isPositive (hSettled.maxResponseLength.reads hNone hKey),
      fun _ hKey => check_list_of_isNameSet (hSettled.contentRestrictions.reads hNone hKey),
      fun _ hKey => check_list_of_isNameSet (hSettled.blockedTopics.reads hNone hKey),
      fun _ hKey => check_flag_of_isFlag (hSettled.proactiveSuggestions.reads hNone hKey),
      fun _ hKey => check_oneOf_of_isChoice (hSettled.proactiveFrequency.reads hNone hKey),
      fun _ hKey => check_oneOf_of_isChoice (hSettled.interruptionThreshold.reads hNone hKey),
      fun _ hKey => check_flag_of_isFlag (hSettled.voiceResponses.reads hNone hKey),
      fun _ hKey => check_oneOf_of_isChoice (hSettled.voiceVolume.reads hNone hKey),
      fun _ hKey => check_text_of_isText (hSettled.voice.reads hNone hKey),
      fun _ hKey => check_oneOf_of_isChoice (hSettled.notifications.reads hNone hKey),
      fun _ hKey => check_text_of_isText (hSettled.model.reads hNone hKey),
      fun _ hKey => check_memory hSettled hNone hKey (hOrdered.of_get? hKey),
      fun _ hKey => check_permissions hSettled hNone hKey (hOrdered.of_get? hKey),
      fun _ hKey => check_list_of_isList (hSettled.preferredVocabulary.reads hNone hKey),
      fun _ hKey => check_list_of_isList (hSettled.avoidConcepts.reads hNone hKey),
      fun _ hKey => check_words hSettled hNone hKey (hOrdered.of_get? hKey),
      fun _ hKey => check_list_of_isList (hSettled.interests.reads hNone hKey),
      List.forall_mem_nil _⟩

end Settled

/-! ## Keys that are not known -/

theorem readMemory_known (f : Fragment) : readMemory (known knownSettings f) = readMemory f := by
  rw [readMemory, readMemory, get?_known rfl]
  cases get? f "memory" with
  | none => rfl
  | some value =>
    cases value with
    | table entries =>
      have hPersonal : Keyed.get? memoryFields "include_personal" = some .flag := rfl
      have hShared : Keyed.get? memoryFields "include_shared" = some .flag := rfl
      simp only [Option.map_some, known_table, readFlagAt,
        get?_known_of_whole hPersonal (by simp), get?_known_of_whole hShared (by simp)]
    | _ => simp [Shape.known]

theorem readPermissions_known (f : Fragment) :
    readPermissions (known knownSettings f) = readPermissions f := by
  rw [readPermissions, readPermissions, get?_known rfl]
  cases get? f "permissions" with
  | none => rfl
  | some value =>
    cases value with
    | table entries =>
      have hAllowed : Keyed.get? permissionFields "allowed" = some .list := rfl
      have hDenied : Keyed.get? permissionFields "denied" = some .list := rfl
      simp only [Option.map_some, known_table, readListAt,
        get?_known_of_whole hAllowed (by simp), get?_known_of_whole hDenied (by simp)]
    | _ => simp [Shape.known]

theorem toProfile_congr {f g : Fragment}
    (hWhole : ∀ field ∈ knownSettings, (∀ inner, field.2 ≠ .table inner) →
      get? f field.1 = get? g field.1)
    (hMemory : readMemory f = readMemory g) (hPermissions : readPermissions f = readPermissions g) :
    f.toProfile = g.toProfile := by
  simp only [knownSettings, List.forall_mem_cons, ne_eq, reduceCtorEq, not_false_eq_true,
    implies_true, true_implies] at hWhole
  obtain ⟨hStyle, hLevel, hLength, hRestrictions, hTopics, hSuggestions, hFrequency, hThreshold,
    hResponses, hVolume, hVoice, hNotifications, hModel, -, -, hVocabulary, hConcepts,
    hReplacements, hInterests, -⟩ := hWhole
  simp only [toProfile, readChoice, readLength, readRestrictions, readList, readListAt, readFlag,
    readFlagAt, readText, readReplacements, hMemory, hPermissions, hStyle, hLevel, hLength,
    hRestrictions, hTopics, hSuggestions, hFrequency, hThreshold, hResponses, hVolume, hVoice,
    hNotifications, hModel, hVocabulary, hConcepts, hReplacements, hInterests]

theorem toProfile_known (f : Fragment) : (known knownSettings f).toProfile = f.toProfile := by
  have hNodup : (knownSettings.map Prod.fst).Nodup := by decide
  refine toProfile_congr ?_ (readMemory_known f) (readPermissions_known f)
  intro field hField hShape
  exact get?_known_of_whole (Keyed.get?_of_mem hNodup hField) hShape f

theorem one_le_of_treated {given : Option Setting} {n : Nat} {named : List Rejection}
    (h : Treated "max_response_length" usualLength Setting.IsPositive lengthInstead given n named) :
    1 ≤ n := by
  cases h with
  | absent => decide
  | taken hReads => exact hReads.2
  | @refused value =>
    rw [lengthInstead]
    split <;> decide

theorem checkSettings_eq_ok_iff {field : FieldPath} :
    checkSettings field f = .ok () ↔ f.check = .ok () := by
  rw [checkSettings]
  cases f.check <;> simp [breach]

/-- A fragment without unset values is accepted exactly if nothing in it is rejected, and every
fragment is converted field by field, whatever else it holds. -/
theorem toProfile_agrees_with_check (hOrdered : f.Ordered) :
    (Setting.AllSet f → ∀ field, checkSettings field f = .ok () ↔ f.toProfile.rejected = []) ∧
      1 ≤ f.toProfile.value.maxResponseLength ∧ f.Settled f.toProfile ∧
      (known knownSettings f).toProfile = f.toProfile := by
  have hSettled := settled_toProfile hOrdered
  refine ⟨?_, one_le_of_treated (readLength_treated f), hSettled, toProfile_known f⟩
  intro hSet field
  rw [checkSettings_eq_ok_iff]
  constructor
  · intro hCheck
    have hFits := toProfile_says ⟨hSet, hCheck⟩
    exact hFits.1
  · intro hNone
    exact check_of_settled hSettled hNone hOrdered

/-- A length that is too small, a flag for a table, one word of two, and a key nobody knows. -/
theorem toProfile_agrees_with_check_mixed :
    let f : Fragment := [("max_response_length", .int 0), ("memory", .bool true),
      ("word_replacements", .table [("dog", .str "cat"), ("fish", .int 3)]), ("zone", .int 7)]
    f.Ordered ∧ Setting.AllSet f ∧
      f.toProfile.rejected.map Rejection.field =
        ["max_response_length", "memory", "word_replacements.fish"] ∧
      f.toProfile.value.wordReplacements = [("dog", "cat")] ∧ f.Settled f.toProfile ∧
      ∀ field, checkSettings field f ≠ .ok () := by
  intro f
  have hOrdered : f.Ordered := by
    simp only [f, Ordered, Setting.IsOrdered, Setting.AllOrdered, Keyed.Ordered]
    decide
  have hSet : Setting.AllSet f := by simp [f, Setting.AllSet, Setting.IsSet]
  have hRejected : f.toProfile.rejected.map Rejection.field =
      ["max_response_length", "memory", "word_replacements.fish"] := by decide
  have hAgrees := toProfile_agrees_with_check hOrdered
  refine ⟨hOrdered, hSet, hRejected, by decide, hAgrees.2.2.1, ?_⟩
  intro field hOk
  rw [(hAgrees.1 hSet field).mp hOk] at hRejected
  cases hRejected

end Fragment

end Household
