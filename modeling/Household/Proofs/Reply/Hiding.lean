import Household.Proofs.Reply.Adapting
import Household.Proofs.Reply.Keeping

/-! # Restricted content stays hidden

Once the words of a category are masked, no later pass brings one of them back: not the words that
are replaced, not the fillers that are dropped, and not the cut at the end. So no mask of a
restricted category stands in a reply.
-/

set_option autoImplicit false

namespace Household.Reply

open Household.Text

variable {c : Category} {p : Profile} {draft text s t : List Char}

/-- The category covers no word of the text. -/
def Clean (c : Category) (text : List Char) : Prop :=
  ∀ w ∈ runs isWordChar text, c.covers w = false

theorem Clean.of_wordsFrom (hc : c ∈ categories) (h : Clean c s) (hWords : WordsFrom s t) :
    Clean c t := by
  intro w hw
  rcases hWords w hw with hHarmless | ⟨v, hv, hSame⟩
  · exact covers_eq_false_of_isHarmless hc hHarmless
  · rw [c.covers_congr hSame]
    exact h v hv

theorem not_standsIn_of_clean {m : Mask} (hc : c ∈ categories) (hm : m ∈ c.masks)
    (h : Clean c text) : ¬m.StandsIn text := by
  intro hStands
  obtain ⟨w, hw, hCovers⟩ := Mask.exists_of_standsIn (Category.isPlain_of_mem_masks c hc m hm) hStands
  have hAny : c.covers w = true := List.any_eq_true.mpr ⟨m, hm, hCovers⟩
  rw [h w hw] at hAny
  cases hAny

/-- What is left of a text when its covered words are masked. -/
theorem clean_mask? (hc : c ∈ categories) (text : List Char) : Clean c (leaves c.mask? text) := by
  rw [Category.leaves_mask?]
  refine forall_mem_runs_rebuild (P := fun w => c.covers w = false) (findWord_whole _)
    (fun _ _ _ hHit => .inr (Category.ends_of_findWord hHit)) ?_ ?_
  · intro _ _ _ _ w hw
    exact covers_eq_false_of_isHarmless hc (Category.isHarmless_redaction w hw)
  · intro earlier later _ hBefore hNone hNe
    rw [← isWordAt_eq_any] at hBefore
    by_contra hCovers
    have hFound : findWord c.covers earlier.getLast? later =
        some ⟨(), later.takeWhile isWordChar, later.dropWhile isWordChar⟩ :=
      findWord_eq_some_iff.mpr ⟨hBefore, rfl, hNe, by simpa using hCovers, rfl⟩
    rw [hNone] at hFound
    cases hFound

theorem clean_filter? {restrictions : NameSet} {name : String} (hName : name ∈ restrictions)
    (hc : category? name = some c) (text : List Char) :
    Clean c (leaves (filter? restrictions []) text) := by
  have hKnown := mem_categories_of_category? hc
  have hMask : c.mask? ∈ categoryPasses restrictions ++ [replaceWords? []] :=
    mem_filter_iff.mpr (.inl ⟨name, hName, c, hc, .inl rfl⟩)
  refine holds_of_mem hMask (clean_mask? hKnown) (fun pass hMem text hClean => ?_) text
  exact hClean.of_wordsFrom hKnown (wordsFrom_of_mem_filter restrictions pass hMem text)

end Household.Reply
