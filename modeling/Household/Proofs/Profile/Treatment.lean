import Household.Proofs.Profile.Fields
import Household.Proofs.Setting.Ordering

/-! # What becomes of a value

What a field makes of the value under its key: nothing there gives the usual value, a value of its
kind gives that value, and any other value gives the restrictive one and one rejection that names
the field. Each way of reading a field treats values so.
-/

set_option autoImplicit false

namespace Household

/-- The rejections that name a field. -/
def naming (rejected : List Rejection) (name : String) : List Rejection :=
  rejected.filter (·.field = name)

theorem naming_append (first second : List Rejection) (name : String) :
    naming (first ++ second) name = naming first name ++ naming second name :=
  List.filter_append ..

theorem naming_eq_nil_iff {rejected : List Rejection} {name : String} :
    naming rejected name = [] ↔ ∀ x ∈ rejected, x.field ≠ name := by
  simp [naming]

/-- What is read from the value under a key, and the rejections that name the field. -/
inductive Treated {α : Type} (name : String) (usual : α) (reads : α → Setting → Prop)
    (restrictive : Setting → α) : Option Setting → α → List Rejection → Prop where
  | absent : Treated name usual reads restrictive none usual []
  | taken {value : Setting} {a : α} (hReads : reads a value) :
      Treated name usual reads restrictive (some value) a []
  | refused {value : Setting} {reason : String} (hReads : ∀ a, ¬reads a value) :
      Treated name usual reads restrictive (some value) (restrictive value)
        [⟨name, value.shown, reason⟩]

namespace Treated

variable {α : Type} {name : String} {usual a : α} {reads : α → Setting → Prop}
  {restrictive : Setting → α} {given : Option Setting} {named : List Rejection}

theorem field_eq (h : Treated name usual reads restrictive given a named) :
    ∀ x ∈ named, x.field = name := by
  intro x hx
  cases h with
  | absent => cases hx
  | taken => cases hx
  | refused => rw [List.mem_singleton.mp hx]

theorem naming_name (h : Treated name usual reads restrictive given a named) :
    naming named name = named := by
  refine List.filter_eq_self.mpr ?_
  intro x hx
  exact decide_eq_true (h.field_eq x hx)

theorem naming_other (h : Treated name usual reads restrictive given a named) {other : String}
    (hOther : name ≠ other) : naming named other = [] := by
  refine naming_eq_nil_iff.mpr ?_
  intro x hx
  rw [h.field_eq x hx]
  exact hOther

/-- The rejections of two fields, one after the other, tell the fields apart. -/
theorem naming_both {β : Type} {name' : String} {usual' b : β} {reads' : β → Setting → Prop}
    {restrictive' : Setting → β} {given' : Option Setting} {named' : List Rejection}
    (h : Treated name usual reads restrictive given a named)
    (h' : Treated name' usual' reads' restrictive' given' b named') (hNe : name ≠ name') :
    naming (named ++ named') name = named ∧ naming (named ++ named') name' = named' ∧
      ∀ other, name ≠ other → name' ≠ other → naming (named ++ named') other = [] := by
  refine ⟨?_, ?_, ?_⟩
  · rw [naming_append, h.naming_name, h'.naming_other hNe.symm, List.append_nil]
  · rw [naming_append, h'.naming_name, h.naming_other hNe, List.nil_append]
  · intro other hOther hOther'
    rw [naming_append, h.naming_other hOther, h'.naming_other hOther', List.append_nil]

theorem eq_usual (h : Treated name usual reads restrictive none a named) :
    a = usual ∧ named = [] := by
  cases h with
  | absent => exact ⟨rfl, rfl⟩

/-- Where nothing was rejected, what was given is what was read. -/
theorem reads_of_nil {value : Setting}
    (h : Treated name usual reads restrictive (some value) a []) : reads a value := by
  cases h with
  | taken hReads => exact hReads

theorem map {β : Type} {f : α → β} {reads' : β → Setting → Prop} {restrictive' : Setting → β}
    (h : Treated name usual reads restrictive given a named)
    (hReads : ∀ b value, reads' b value ↔ ∃ a, reads a value ∧ b = f a)
    (hRestrictive : ∀ value, restrictive' value = f (restrictive value)) :
    Treated name (f usual) reads' restrictive' given (f a) named := by
  cases h with
  | absent => exact .absent
  | taken hOld => exact .taken ((hReads _ _).mpr ⟨_, hOld, rfl⟩)
  | @refused value reason hOld =>
    rw [← hRestrictive]
    refine .refused ?_
    intro b hNew
    obtain ⟨a, hTaken, -⟩ := (hReads b value).mp hNew
    exact hOld a hTaken

end Treated

/-- What is read from the value under a key inside a table: where the whole is no table, the field
has its restrictive value and only the whole is rejected. -/
inductive TreatedWithin {α : Type} (name : String) (usual : α) (reads : α → Setting → Prop)
    (restrictive : Setting → α) (key : String) : Option Setting → α → List Rejection → Prop where
  | absent : TreatedWithin name usual reads restrictive key none usual []
  | inside {entries : Fragment} {a : α} {named : List Rejection}
      (h : Treated name usual reads restrictive (Fragment.get? entries key) a named) :
      TreatedWithin name usual reads restrictive key (some (.table entries)) a named
  | malformed {value : Setting} (hTable : value.table? = none) :
      TreatedWithin name usual reads restrictive key (some value) (restrictive value) []

theorem TreatedWithin.treated {α : Type} {name key : String} {usual a : α}
    {reads : α → Setting → Prop} {restrictive : Setting → α} {entries : Fragment}
    {named : List Rejection}
    (h : TreatedWithin name usual reads restrictive key (some (.table entries)) a named) :
    Treated name usual reads restrictive (Fragment.get? entries key) a named := by
  cases h with
  | inside h => exact h
  | malformed hTable => cases hTable

namespace Setting

/-- A length is a whole number that is not too small. -/
def IsPositive (n : Nat) (value : Setting) : Prop := IsLength n value ∧ 1 ≤ n

def IsWord (replacement : Option String) (value : Setting) : Prop :=
  ∃ s, value = .str s ∧ replacement = some s

def IsTable (_ : Unit) (value : Setting) : Prop := ∃ entries, value = .table entries

end Setting

/-- Every value of the type is a value of the setting. -/
class Choice.Complete (α : Type) [Choice α] : Prop where
  mem_all : ∀ a : α, a ∈ Choice.all

instance : Choice.Complete ResponseStyle := ⟨by intro a; cases a <;> decide⟩

instance : Choice.Complete VocabularyLevel := ⟨by intro a; cases a <;> decide⟩

instance : Choice.Complete ProactiveFrequency := ⟨by intro a; cases a <;> decide⟩

instance : Choice.Complete InterruptionThreshold := ⟨by intro a; cases a <;> decide⟩

instance : Choice.Complete VoiceVolume := ⟨by intro a; cases a <;> decide⟩

instance : Choice.Complete NotificationMode := ⟨by intro a; cases a <;> decide⟩

namespace Fragment

open Reading

/-! ## Fields with one value -/

section Plain

variable (f : Fragment) (key name : String)

theorem readFlagAt_treated : Treated name true Setting.IsFlag (fun _ => false) (get? f key)
    (readFlagAt f key name).value (readFlagAt f key name).rejected := by
  rw [readFlagAt]
  cases get? f key with
  | none => exact .absent
  | some value =>
    cases value with
    | bool b => exact .taken rfl
    | _ => exact .refused (by simp [Setting.IsFlag])

theorem readText_treated : Treated key "default" Setting.IsText (fun _ => "default") (get? f key)
    (readText f key).value (readText f key).rejected := by
  rw [readText]
  cases get? f key with
  | none => exact .absent
  | some value =>
    cases value with
    | str s => exact .taken rfl
    | _ => exact .refused (by simp [Setting.IsText])

theorem readListAt_treated (missing refused : List String) :
    Treated name missing Setting.IsList (fun _ => refused) (get? f key)
      (readListAt f key name missing refused).value
      (readListAt f key name missing refused).rejected := by
  rw [readListAt]
  cases get? f key with
  | none => exact .absent
  | some value =>
    cases value with
    | list items => exact .taken rfl
    | _ => exact .refused (by simp [Setting.IsList])

theorem readListAt_treated_nameSet (missing refused : List String) :
    Treated name (NameSet.ofList missing) Setting.IsNameSet (fun _ => NameSet.ofList refused)
      (get? f key) (NameSet.ofList (readListAt f key name missing refused).value)
      (readListAt f key name missing refused).rejected :=
  (readListAt_treated f key name missing refused).map (fun _ _ => Iff.rfl) fun _ => rfl

theorem readChoice_treated (α : Type) [Choice α] [Choice.Complete α] :
    Treated (Choice.key α) Choice.usual Setting.IsChoice (fun _ => (Choice.restrictive : α))
      (get? f (Choice.key α)) (readChoice α f).value (readChoice α f).rejected := by
  rw [readChoice]
  cases get? f (Choice.key α) with
  | none => exact .absent
  | some value =>
    cases value with
    | str s =>
      by_cases hName : s ∈ Choice.names α
      · obtain ⟨a, hFound, rfl⟩ := Choice.exists_ofName_of_mem hName
        dsimp only
        rw [hFound]
        exact .taken rfl
      · have hNone : Choice.ofName α s = .error ⟨Choice.key α, s, Choice.names α⟩ := by
          have hFind : Choice.ofName? α s = none := by
            refine List.find?_eq_none.mpr ?_
            intro a hMem hSame
            exact hName (List.mem_map.mpr ⟨a, hMem, eq_of_beq hSame⟩)
          rw [Choice.ofName, hFind]
        dsimp only
        rw [hNone]
        refine .refused ?_
        rintro a hSame
        cases hSame
        exact hName (List.mem_map_of_mem (Choice.Complete.mem_all a))
    | _ => exact .refused (by simp [Setting.IsChoice])

instance (value : Setting) : Decidable (∃ n, Setting.IsWhole n value) :=
  decidable_of_iff (value.int?.isSome = true) <| by
    rw [Option.isSome_iff_exists]
    exact exists_congr fun _ => Setting.isWhole_iff.symm

/-- What stands in place of a length that cannot be used. -/
def lengthInstead (value : Setting) : Nat :=
  if ∃ n, Setting.IsWhole n value then 1 else restrictiveLength

theorem readLength_treated : Treated "max_response_length" usualLength Setting.IsPositive
    lengthInstead (get? f "max_response_length") (readLength f).value (readLength f).rejected := by
  cases hKey : get? f "max_response_length" with
  | none =>
    rw [readLength, hKey]
    exact .absent
  | some value =>
    cases hInt : value.int? with
    | none =>
      have hInstead : lengthInstead value = restrictiveLength := by
        simp [lengthInstead, Setting.isWhole_iff, hInt]
      simp only [readLength, hKey, hInt]
      rw [← hInstead]
      refine .refused ?_
      rintro n ⟨hLength, -⟩
      rw [Setting.IsLength, Setting.isWhole_iff, hInt] at hLength
      cases hLength
    | some n =>
      by_cases hPos : 1 ≤ n
      · simp only [readLength, hKey, hInt, if_pos hPos, accept]
        refine .taken ⟨?_, by omega⟩
        rw [Setting.IsLength, Setting.isWhole_iff, hInt, Int.toNat_of_nonneg (by omega)]
      · have hInstead : lengthInstead value = 1 :=
          if_pos ⟨n, Setting.isWhole_iff.mpr hInt⟩
        simp only [readLength, hKey, hInt, if_neg hPos]
        rw [← hInstead]
        refine .refused ?_
        rintro m ⟨hLength, hLarge⟩
        rw [Setting.IsLength, Setting.isWhole_iff, hInt] at hLength
        cases hLength
        omega

end Plain

/-! ## Fields inside a table -/

section Nested

variable (f : Fragment)

theorem readMemory_treated :
    Treated "memory" () Setting.IsTable (fun _ => ()) (get? f "memory") ()
      (naming (readMemory f).rejected "memory") ∧
    TreatedWithin "memory.include_personal" true Setting.IsFlag (fun _ => false)
      "include_personal" (get? f "memory") (readMemory f).value.personal
      (naming (readMemory f).rejected "memory.include_personal") ∧
    TreatedWithin "memory.include_shared" true Setting.IsFlag (fun _ => false)
      "include_shared" (get? f "memory") (readMemory f).value.shared
      (naming (readMemory f).rejected "memory.include_shared") := by
  rw [readMemory]
  cases get? f "memory" with
  | none => exact ⟨.absent, .absent, .absent⟩
  | some value =>
    cases value with
    | table entries =>
      have hPersonal := readFlagAt_treated entries "include_personal" "memory.include_personal"
      have hShared := readFlagAt_treated entries "include_shared" "memory.include_shared"
      obtain ⟨hFirst, hSecond, hOther⟩ := hPersonal.naming_both hShared (by decide)
      dsimp only
      rw [hFirst, hSecond, hOther "memory" (by decide) (by decide)]
      exact ⟨.taken ⟨entries, rfl⟩, .inside hPersonal, .inside hShared⟩
    | _ => exact ⟨.refused (by simp [Setting.IsTable]), .malformed rfl, .malformed rfl⟩

theorem readPermissions_treated :
    Treated "permissions" () Setting.IsTable (fun _ => ()) (get? f "permissions") ()
      (naming (readPermissions f).rejected "permissions") ∧
    TreatedWithin "permissions.allowed" ["*"] Setting.IsList (fun _ => []) "allowed"
      (get? f "permissions") (readPermissions f).value.allowed
      (naming (readPermissions f).rejected "permissions.allowed") ∧
    TreatedWithin "permissions.denied" [] Setting.IsList (fun _ => []) "denied"
      (get? f "permissions") (readPermissions f).value.denied
      (naming (readPermissions f).rejected "permissions.denied") := by
  rw [readPermissions]
  cases get? f "permissions" with
  | none => exact ⟨.absent, .absent, .absent⟩
  | some value =>
    cases value with
    | table entries =>
      have hAllowed := readListAt_treated entries "allowed" "permissions.allowed" ["*"] []
      have hDenied := readListAt_treated entries "denied" "permissions.denied" [] []
      obtain ⟨hFirst, hSecond, hOther⟩ := hAllowed.naming_both hDenied (by decide)
      dsimp only
      rw [hFirst, hSecond, hOther "permissions" (by decide) (by decide)]
      exact ⟨.taken ⟨entries, rfl⟩, .inside hAllowed, .inside hDenied⟩
    | _ => exact ⟨.refused (by simp [Setting.IsTable]), .malformed rfl, .malformed rfl⟩

/-! ## Words -/

def wordField (word : String) : String := "word_replacements." ++ word

theorem toList_wordField (word : String) :
    (wordField word).toList = "word_replacements.".toList ++ word.toList :=
  String.toList_append

theorem wordField_ne (word : String) : wordField word ≠ "word_replacements" := by
  intro hSame
  have hLength := congrArg (fun s => s.toList.length) hSame
  have hPoint : "word_replacements.".toList.length = 18 := by decide
  have hBare : "word_replacements".toList.length = 17 := by decide
  simp only [toList_wordField, List.length_append] at hLength
  omega

theorem wordField_inj {word word' : String} :
    wordField word = wordField word' ↔ word = word' := by
  rw [← String.toList_inj, toList_wordField, toList_wordField, List.append_cancel_left_eq,
    String.toList_inj]

/-- The first entry is read by itself, before the others. -/
theorem exists_readWords_cons (first : String) (value : Setting) (rest : Fragment) :
    ∃ named, Treated (wordField first) none Setting.IsWord (fun _ => none) (some value) value.str?
        named ∧
      (readWords ((first, value) :: rest)).rejected = named ++ (readWords rest).rejected ∧
      ∀ word, Keyed.get? (readWords ((first, value) :: rest)).value word =
        (if first = word then value.str? else none).or
          (Keyed.get? (readWords rest).value word) := by
  cases value with
  | str s =>
    refine ⟨[], .taken ⟨s, rfl, rfl⟩, rfl, ?_⟩
    intro word
    rw [readWords, Keyed.get?]
    split <;> rfl
  | _ =>
    refine ⟨_, .refused (by simp [Setting.IsWord]), rfl, ?_⟩
    intro word
    simp [readWords, Setting.str?]

theorem readWords_treated {entries : Fragment} (hOrdered : Keyed.Ordered entries) (word : String) :
    Treated (wordField word) none Setting.IsWord (fun _ => none) (get? entries word)
      (Keyed.get? (readWords entries).value word)
      (naming (readWords entries).rejected (wordField word)) := by
  induction entries with
  | nil => exact .absent
  | cons entry rest ih =>
    obtain ⟨first, value⟩ := entry
    have hRest := ih (List.pairwise_cons.mp hOrdered).2
    obtain ⟨named, hHead, hRejected, hValue⟩ := exists_readWords_cons first value rest
    rw [get?, Keyed.get?, hRejected, hValue, naming_append]
    by_cases hFirst : first = word
    · subst hFirst
      -- The name does not come again in the rest, so nothing else is read or rejected under it.
      have hGone : get? rest first = none :=
        Keyed.get?_eq_none_of_notMem (List.nodup_cons.mp hOrdered.nodup_keys).1
      rw [hGone] at hRest
      rw [if_pos rfl, if_pos rfl, hRest.eq_usual.1, hRest.eq_usual.2, hHead.naming_name,
        Option.or_none, List.append_nil]
      exact hHead
    · have hNe : wordField first ≠ wordField word := fun hSame => hFirst (wordField_inj.mp hSame)
      rw [if_neg hFirst, if_neg hFirst, hHead.naming_other hNe, Option.none_or, List.nil_append]
      exact hRest

theorem exists_word_of_mem_readWords {entries : Fragment} :
    ∀ x ∈ (readWords entries).rejected, ∃ word, x.field = wordField word := by
  induction entries with
  | nil =>
    intro x hx
    cases hx
  | cons entry rest ih =>
    obtain ⟨first, value⟩ := entry
    obtain ⟨named, hHead, hRejected, -⟩ := exists_readWords_cons first value rest
    intro x hx
    rw [hRejected] at hx
    rcases List.mem_append.mp hx with hx | hx
    · exact ⟨first, hHead.field_eq x hx⟩
    · exact ih x hx

theorem readReplacements_treated (hOrdered : f.Ordered) :
    Treated "word_replacements" () Setting.IsTable (fun _ => ()) (get? f "word_replacements") ()
      (naming (readReplacements f).rejected "word_replacements") ∧
    ∀ word, TreatedWithin (wordField word) none Setting.IsWord (fun _ => none) word
      (get? f "word_replacements") (Keyed.get? (readReplacements f).value word)
      (naming (readReplacements f).rejected (wordField word)) := by
  cases hKey : get? f "word_replacements" with
  | none =>
    rw [readReplacements, hKey]
    exact ⟨.absent, fun word => .absent⟩
  | some value =>
    cases value with
    | table entries =>
      have hOrderedEntries : Keyed.Ordered entries := (hOrdered.of_get? hKey).1
      have hNone : naming (readWords entries).rejected "word_replacements" = [] := by
        refine naming_eq_nil_iff.mpr ?_
        intro x hx
        obtain ⟨word, hField⟩ := exists_word_of_mem_readWords x hx
        rw [hField]
        exact wordField_ne word
      rw [readReplacements, hKey]
      refine ⟨?_, fun word => .inside (readWords_treated hOrderedEntries word)⟩
      dsimp only
      rw [hNone]
      exact .taken ⟨entries, rfl⟩
    | _ =>
      rw [readReplacements, hKey]
      refine ⟨.refused (by simp [Setting.IsTable]), ?_⟩
      intro word
      have hNone : ∀ x : Rejection, x.field = "word_replacements" →
          naming [x] (wordField word) = [] := by
        intro x hx
        refine naming_eq_nil_iff.mpr ?_
        intro y hy
        rw [List.mem_singleton.mp hy, hx]
        exact (wordField_ne word).symm
      dsimp only [wrongKind, reject]
      rw [hNone _ rfl]
      exact .malformed rfl

end Nested

end Fragment

end Household
