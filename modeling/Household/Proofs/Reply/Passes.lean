import Mathlib.Data.List.TakeWhile
import Household.Proofs.Reply.Tables
import Household.Proofs.Text.AsciiCase
import Household.Reply.Adapt

/-! # What every pass keeps to

A pass that changes a text takes note of it, and it leaves blank texts alone. Both hold of several
passes one after the other, since they hold of each.
-/

set_option autoImplicit false

namespace Household.Reply

open Household.Text

structure Orderly (pass : List Char → Option Edit) : Prop where
  noted : ∀ text e, pass text = some e → e.notes ≠ []
  blank : ∀ text, isBlank text = true → pass text = none

theorem isWordChar_eq_false_of_isBlank {text : List Char} (h : isBlank text = true) :
    ∀ c ∈ text, isWordChar c = false := fun c hc =>
  isWordChar_eq_false_of_isSpace (List.all_eq_true.mp h c hc)

/-! ## Passes one after the other -/

section RunAll

variable {passes : List (List Char → Option Edit)} {text : List Char}

theorem runAll_eq_none_iff : runAll passes text = none ↔ ∀ pass ∈ passes, pass text = none := by
  induction passes with
  | nil => simp [runAll]
  | cons pass passes ih =>
    rw [runAll, List.forall_mem_cons]
    cases hPass : pass text with
    | none => simp [ih]
    | some first =>
      dsimp only
      cases runAll passes first.text <;> simp

theorem orderly_runAll (h : ∀ pass ∈ passes, Orderly pass) : Orderly (runAll passes) where
  noted text e hRun := by
    induction passes generalizing text e with
    | nil => cases hRun
    | cons pass passes ih =>
      have hLater := fun later hMem => h later (List.mem_cons_of_mem _ hMem)
      rw [runAll] at hRun
      cases hPass : pass text with
      | none =>
        rw [hPass] at hRun
        exact ih hLater text e hRun
      | some first =>
        have hFirst := (h pass List.mem_cons_self).noted text first hPass
        rw [hPass] at hRun
        dsimp only at hRun
        split at hRun
        · cases hRun
          exact hFirst
        · cases hRun
          exact fun hNil => hFirst (List.append_eq_nil_iff.mp hNil).1
  blank text hBlank := runAll_eq_none_iff.mpr fun pass hMem => (h pass hMem).blank text hBlank

end RunAll

/-! ## Tables of words -/

namespace WordTable

variable {pairs : List (String × String)}

theorem mem_foldl_distinct {e : WordEntry} (entries seen : List WordEntry) :
    e ∈ entries.foldl (fun seen e => if e ∈ seen then seen else e :: seen) seen ↔
      e ∈ seen ∨ e ∈ entries := by
  induction entries generalizing seen with
  | nil => simp
  | cons first rest ih =>
    rw [List.foldl_cons, ih, List.mem_cons]
    split
    · rename_i hSeen
      constructor
      · rintro (h | h)
        · exact .inl h
        · exact .inr (.inr h)
      · rintro (h | rfl | h)
        · exact .inl h
        · exact .inl hSeen
        · exact .inr h
    · rw [List.mem_cons, or_comm (a := e = first), or_assoc]

theorem changes_ne_nil {entries : List WordEntry} (h : entries ≠ []) : changes entries ≠ [] := by
  obtain ⟨e, rest, rfl⟩ := List.exists_cons_of_ne_nil h
  have hMem := (mem_foldl_distinct (e :: rest) []).mpr (.inr (List.mem_cons_self (a := e)))
  intro hNil
  rw [changes, List.map_eq_nil_iff, List.reverse_eq_nil_iff] at hNil
  rw [hNil] at hMem
  cases hMem

theorem substitute?_eq_some_iff {text out : List Char} {made : List Change} :
    (ofPairs pairs).substitute? text = some (out, made) ↔
      hits (parts (ofPairs pairs).find text) ≠ [] ∧
        out = rebuild (fun e found => matchCase found e.replacement.toList)
          (parts (ofPairs pairs).find text) ∧
          made = changes ((hits (parts (ofPairs pairs).find text)).map (·.1)) := by
  rw [substitute?, rebuild_replace]
  split
  · rename_i hNil
    simp [hNil]
  · rename_i hSome
    rw [filterMap_lookUp?_hits]
    constructor
    · intro h
      cases h
      exact ⟨hSome, rfl, rfl⟩
    · rintro ⟨-, rfl, rfl⟩
      rfl

theorem substitute?_eq_none_iff {table : WordTable} {text : List Char} :
    table.substitute? text = none ↔ hits (parts table.find text) = [] := by
  rw [substitute?]
  split
  · rename_i hNil
    exact ⟨fun _ => hNil, fun _ => rfl⟩
  · rename_i hSome
    exact ⟨fun h => (nomatch h), fun hNil => absurd hNil hSome⟩

/-- The pass that replaces the words of a table, with the verb of its notes. -/
def pass (table : WordTable) (verb : String) (text : List Char) : Option Edit :=
  (table.substitute? text).map fun (out, made) => ⟨out, made.map (·.note verb)⟩

theorem pass_eq_none_iff {table : WordTable} {verb : String} {text : List Char} :
    table.pass verb text = none ↔ hits (parts table.find text) = [] := by
  rw [pass, Option.map_eq_none_iff, substitute?_eq_none_iff]

theorem pass_eq_some {verb : String} {text : List Char} {e : Edit}
    (h : (ofPairs pairs).pass verb text = some e) :
    e.text = rebuild (fun e found => matchCase found e.replacement.toList)
        (parts (ofPairs pairs).find text) ∧
      e.notes ≠ [] := by
  obtain ⟨⟨out, made⟩, hMade, rfl⟩ := Option.map_eq_some_iff.mp h
  obtain ⟨hHits, rfl, rfl⟩ := substitute?_eq_some_iff.mp hMade
  refine ⟨rfl, fun hNil => ?_⟩
  have hEntries : (hits (parts (ofPairs pairs).find text)).map (·.1) ≠ [] :=
    fun h => hHits (List.map_eq_nil_iff.mp h)
  exact changes_ne_nil hEntries (List.map_eq_nil_iff.mp hNil)

theorem orderly_pass (pairs : List (String × String)) (verb : String) :
    Orderly ((ofPairs pairs).pass verb) where
  noted _ _ h := (pass_eq_some h).2
  blank _ hBlank := pass_eq_none_iff.mpr
    (hits_parts_eq_nil (find_needsBoundary _) (isWordChar_eq_false_of_isBlank hBlank))

end WordTable

theorem simplify?_eq_pass (level : VocabularyLevel) :
    simplify? level = (WordTable.ofPairs (levelWords level)).pass "simplified" := rfl

theorem soften?_eq_pass (c : Category) :
    c.soften? = (WordTable.ofPairs c.words).pass "replaced" := rfl

theorem replaceWords?_eq_pass (words : Keyed String) :
    replaceWords? words = (WordTable.ofPairs words).pass "replaced" := rfl

/-! ## The other passes -/

theorem pieces_of_isBlank {text : List Char} (h : isBlank text = true) : pieces text = [] := by
  have hNone : text.dropWhile isSpace = [] := List.dropWhile_eq_nil_iff.mpr (List.all_eq_true.mp h)
  rw [pieces, piecesFrom]
  simp [hNone]

theorem orderly_avoid? (concepts : List String) : Orderly (avoid? concepts) where
  noted _ e h := by
    rw [avoid?] at h
    dsimp only at h
    split at h
    · cases h
    · rename_i found hFound
      split at h
      · cases h
        simp
      · cases h
        exact fun hNil => hFound (List.map_eq_nil_iff.mp hNil)
  blank text hBlank := by
    rw [avoid?, pieces_of_isBlank hBlank]
    rfl

theorem Category.mask?_eq_some {c : Category} {text : List Char} {e : Edit}
    (h : c.mask? text = some e) :
    e.text = rebuild (fun _ _ => redaction.toList) (parts (findWord c.covers) text) ∧
      e.notes ≠ [] := by
  rw [mask?] at h
  dsimp only at h
  split at h
  · cases h
  · cases h
    exact ⟨rfl, by simp⟩

theorem Category.mask?_eq_none_iff {c : Category} {text : List Char} :
    c.mask? text = none ↔ hits (parts (findWord c.covers) text) = [] := by
  rw [mask?, ← List.length_eq_zero_iff]
  dsimp only
  split <;> simp_all

theorem Category.orderly_mask? (c : Category) : Orderly c.mask? where
  noted _ _ h := (mask?_eq_some h).2
  blank _ hBlank := mask?_eq_none_iff.mpr
    (hits_parts_eq_nil (findWord_needsBoundary c.covers) (isWordChar_eq_false_of_isBlank hBlank))

theorem mem_filter_iff {restrictions : NameSet} {words : Keyed String}
    {pass : List Char → Option Edit} :
    pass ∈ categoryPasses restrictions ++ [replaceWords? words] ↔
      (∃ name ∈ restrictions, ∃ c, category? name = some c ∧ (pass = c.mask? ∨ pass = c.soften?)) ∨
        pass = replaceWords? words := by
  rw [List.mem_append, List.mem_singleton, categoryPasses, List.mem_flatMap]
  refine or_congr_left ⟨?_, ?_⟩
  · rintro ⟨c, hc, hPass⟩
    obtain ⟨name, hName, hSome⟩ := List.mem_filterMap.mp hc
    exact ⟨name, hName, c, hSome, by simpa using hPass⟩
  · rintro ⟨name, hName, c, hSome, hPass⟩
    exact ⟨c, List.mem_filterMap.mpr ⟨name, hName, hSome⟩, by simpa using hPass⟩

theorem orderly_filter? (restrictions : NameSet) (words : Keyed String) :
    Orderly (filter? restrictions words) := by
  apply orderly_runAll
  intro pass hMem
  rcases mem_filter_iff.mp hMem with ⟨_, _, c, _, rfl | rfl⟩ | rfl
  · exact c.orderly_mask?
  · rw [soften?_eq_pass]
    exact WordTable.orderly_pass _ _
  · rw [replaceWords?_eq_pass]
    exact WordTable.orderly_pass _ _

theorem stripFillers?_of_isBlank {text : List Char} (h : isBlank text = true) :
    stripFillers? text = none := by
  have hNone := hits_parts_eq_nil findFiller_needsBoundary (isWordChar_eq_false_of_isBlank h)
  rw [stripFillers?, hNone]
  rfl

theorem exclaim?_of_isBlank {text : List Char} (h : isBlank text = true) : exclaim? text = none := by
  rw [exclaim?, pieces_of_isBlank h]

/-- A pass that notes whatever it makes of a text, and makes nothing of a blank one. -/
theorem orderly_map {β : Type} {f : List Char → Option β} {edit : β → Edit}
    (hNotes : ∀ b, (edit b).notes ≠ []) (hBlank : ∀ text, isBlank text = true → f text = none) :
    Orderly fun text => (f text).map edit where
  noted _ _ h := by
    obtain ⟨b, -, rfl⟩ := Option.map_eq_some_iff.mp h
    exact hNotes b
  blank text h := by rw [hBlank text h, Option.map_none]

theorem orderly_style? (style : ResponseStyle) : Orderly (style? style) := by
  have hIdle : Orderly fun _ => none := ⟨fun _ _ h => (nomatch h), fun _ _ => rfl⟩
  cases style with
  | brief => exact orderly_map (fun _ => List.cons_ne_nil _ _) fun _ => stripFillers?_of_isBlank
  | playful => exact orderly_map (fun _ => List.cons_ne_nil _ _) fun _ => exclaim?_of_isBlank
  | formal => exact WordTable.orderly_pass contractions "expanded"
  | conversational => exact hIdle
  | detailed => exact hIdle

theorem orderly_of_mem_passes {p : Profile} : ∀ pass ∈ passes p, Orderly pass := by
  intro pass hMem
  simp only [passes, List.mem_cons, List.not_mem_nil, or_false] at hMem
  rcases hMem with rfl | rfl | rfl | rfl
  · rw [simplify?_eq_pass]
    exact WordTable.orderly_pass _ _
  · exact orderly_avoid? _
  · exact orderly_filter? _ _
  · exact orderly_style? _

end Household.Reply
