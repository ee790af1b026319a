import Household.Text.Block

/-! # White space

The white-space characters, trimming, and the words between them.
-/

set_option autoImplicit false

namespace Household.Text

def spaceBlocks : List Nat :=
  [0x9, 0xe, 0x20, 0x21, 0x85, 0x86, 0xa0, 0xa1, 0x1680, 0x1681, 0x2000, 0x200b, 0x2028, 0x202a,
   0x202f, 0x2030, 0x205f, 0x2060, 0x3000, 0x3001]

def isSpace (c : Char) : Bool := inBlocks spaceBlocks c.toNat

example : isSpace ' ' ∧ isSpace '\n' ∧ ¬ isSpace 'a' ∧ ¬ isSpace '\u200b' := by decide

def isBlank (s : List Char) : Bool := s.all isSpace

def trimStart (s : List Char) : List Char := s.dropWhile isSpace

def dropEndWhile (p : Char → Bool) : List Char → List Char
  | [] => []
  | c :: rest =>
    match dropEndWhile p rest with
    | [] => if p c then [] else [c]
    | kept => c :: kept

def trimEnd (s : List Char) : List Char := dropEndWhile isSpace s

def trim (s : List Char) : List Char := trimEnd (trimStart s)

/-- The maximal runs of characters that are not white space. -/
def words : List Char → List (List Char)
  | [] => []
  | c :: rest =>
    if isSpace c then words rest
    else if rest.head?.any (!isSpace ·) then
      match words rest with
      | word :: later => (c :: word) :: later
      | [] => [[c]]
    else [c] :: words rest

def wordCount (s : List Char) : Nat := (words s).length

theorem dropEndWhile_nil (p : Char → Bool) : dropEndWhile p [] = [] := rfl

theorem exists_append_dropEndWhile (p : Char → Bool) (s : List Char) :
    ∃ tail, s = dropEndWhile p s ++ tail ∧ tail.all p := by
  induction s with
  | nil => exact ⟨[], rfl, rfl⟩
  | cons c rest ih =>
    obtain ⟨tail, hs, ht⟩ := ih
    simp only [dropEndWhile]
    split
    · rename_i h
      rw [h, List.nil_append] at hs
      by_cases hc : p c = true
      · exact ⟨c :: tail, by simp [hc, hs], by simp [hc, ht]⟩
      · exact ⟨tail, by simp [hc, hs], ht⟩
    · exact ⟨tail, by rw [List.cons_append, ← hs], ht⟩

theorem getLast_dropEndWhile (p : Char → Bool) (s : List Char) {c : Char}
    (h : (dropEndWhile p s).getLast? = some c) : p c = false := by
  induction s with
  | nil => simp [dropEndWhile] at h
  | cons d rest ih =>
    simp only [dropEndWhile] at h
    split at h
    · by_cases hd : p d = true
      · simp [hd] at h
      · simp [hd] at h
        simpa [h] using hd
    · rename_i kept hne
      rw [List.getLast?_cons] at h
      cases hk : (dropEndWhile p rest).getLast? with
      | none => exact absurd (List.getLast?_eq_none_iff.1 hk) hne
      | some e =>
        rw [hk] at h
        exact ih (by simpa [hk] using h)

end Household.Text
