import Household.Text.Letter
import Household.Text.Property.LowerForm
import Household.Text.Property.UpperForm

/-! # Lower and upper case

Case forms over all scripts, and the narrower forms that touch ASCII letters only. A capital sigma
that ends a word takes its final form.
-/

set_option autoImplicit false

namespace Household.Text

def formOf (runs : List (Nat × Nat × Nat × Nat)) (expansions : List (Nat × List Nat)) (c : Char) :
    List Char :=
  match expansions.find? (·.1 == c.toNat) with
  | some (_, form) => form.map Char.ofNat
  | none =>
    match runs.find? fun (first, last, step, _) => inRun first last step c.toNat with
    | some (first, _, _, form) => [Char.ofNat (form + (c.toNat - first))]
    | none => [c]

def asciiLower (c : Char) : Char :=
  if 'A' ≤ c && c ≤ 'Z' then Char.ofNat (c.toNat + 32) else c

def asciiUpper (c : Char) : Char :=
  if 'a' ≤ c && c ≤ 'z' then Char.ofNat (c.toNat - 32) else c

def lowerForm (c : Char) : List Char :=
  if c.toNat < 128 then [asciiLower c] else formOf lowerFormRuns lowerFormExpansions c

def upperForm (c : Char) : List Char :=
  if c.toNat < 128 then [asciiUpper c] else formOf upperFormRuns upperFormExpansions c

def casedNext (s : List Char) : Bool :=
  ((s.dropWhile isCaseIgnorable).head?).any isCased

/-- A sigma is final after a cased character and before none. -/
def lowerSigma (before after : List Char) : Char :=
  if casedNext before && !casedNext after then 'ς' else 'σ'

/-- `before` holds the characters already passed, the nearest first. -/
def lowercaseAfter (before : List Char) : List Char → List Char
  | [] => []
  | c :: rest =>
    (if c = 'Σ' then [lowerSigma before rest] else lowerForm c) ++ lowercaseAfter (c :: before) rest

def lowercase (s : List Char) : List Char := lowercaseAfter [] s

def uppercase (s : List Char) : List Char := s.flatMap upperForm

def capitalize : List Char → List Char
  | [] => []
  | c :: rest => upperForm c ++ rest

def sameLetters (s t : List Char) : Bool := s.map asciiLower == t.map asciiLower

theorem sameLetters_iff {s t : List Char} :
    sameLetters s t = true ↔ s.map asciiLower = t.map asciiLower := by simp [sameLetters]

example : lowercase "ΟΔΟΣ ΣΑΣ".toList = "οδος σας".toList := by decide +kernel

example : uppercase "straße".toList = "STRASSE".toList := by decide +kernel

end Household.Text
