import Household.Condition.Token
import Household.Proofs.Decimal.Plain
import Household.Proofs.Text.Trimming

/-! # Texts of one token

A token can be written in several ways. Whichever is taken, it is read back from the front of a text
into which it does not run.
-/

set_option autoImplicit false

namespace Household.Condition

open Household.Text

/-! ### Ways to write a token -/

def keywords : List (String × Token) :=
  [("and", .and), ("or", .or), ("not", .not), ("in", .within), ("true", .yes), ("false", .no)]

def marks : List (List Char × Token) :=
  [(['&', '&'], .and), (['|', '|'], .or), (['!'], .not), (['='], .eq), (['=', '='], .eq),
   (['!', '='], .notEq), (['<'], .lt), (['<', '='], .lte), (['>'], .gt), (['>', '='], .gte),
   (['('], .openParen), ([')'], .closeParen), ([','], .comma)]

/-- A string with its closing quote. Quotes of that kind and backslashes have to be escaped, and
everything else may be. -/
inductive Escaped (quote : Char) : List Char → List Char → Prop
  | close : Escaped quote [] [quote]
  | plain {c : Char} {s text : List Char} (hQuote : c ≠ quote) (hBackslash : c ≠ '\\')
      (h : Escaped quote s text) : Escaped quote (c :: s) (c :: text)
  | escape {c : Char} {s text : List Char} (h : Escaped quote s text) :
      Escaped quote (c :: s) ('\\' :: c :: text)

inductive Token.Spelled : Token → List Char → Prop
  | keyword {name : String} {t : Token} {text : List Char} (h : (name, t) ∈ keywords)
      (hCase : text.map asciiLower = name.toList) : Spelled t text
  | mark {text : List Char} {t : Token} (h : (text, t) ∈ marks) : Spelled t text
  | ident (name : String) : Spelled (.ident name) name.toList
  | str {quote : Char} {s : String} {text : List Char} (hQuote : quote = '"' ∨ quote = '\'')
      (h : Escaped quote s.toList text) : Spelled (.str s) (quote :: text)
  | num (x : Float) : Spelled (.num x) (Decimal.write .plain x).toList

/-! ### Characters -/

/-- The characters with which words and numbers start. -/
def startsRun (c : Char) : Bool := startsWord c || startsNumber c

def continuesRun (c : Char) : Bool := continuesWord c || continuesNumber c

/-- What a token starts with that is neither a word nor a number. -/
def punctuation : List Char := ['(', ')', ',', '>', '<', '=', '!', '&', '|', '"', '\'']

/-- A letter in lower case or an underscore. -/
def isNameChar (c : Char) : Bool := ('a' ≤ c && c ≤ 'z') || c == '_'

theorem isNameChar_iff {c : Char} :
    isNameChar c = true ↔ 97 ≤ c.toNat ∧ c.toNat ≤ 122 ∨ c.toNat = 95 := by
  have hScore : c = '_' ↔ c.toNat = 95 := ⟨fun h => h ▸ rfl, fun h => Char.toNat_inj.mp h⟩
  simp only [isNameChar, Bool.or_eq_true, Bool.and_eq_true, decide_eq_true_eq, beq_iff_eq,
    Char.le_def, UInt32.le_iff_toNat_le, hScore]
  exact Iff.rfl

theorem isLetter_of_ascii {c : Char}
    (h : 65 ≤ c.toNat ∧ c.toNat ≤ 90 ∨ 97 ≤ c.toNat ∧ c.toNat ≤ 122) : isLetter c = true := by
  have hBlocks : alphabeticBlocks = 65 :: 91 :: 97 :: 123 :: alphabeticBlocks.drop 4 := rfl
  rw [isLetter, hBlocks]
  simp only [inBlocks]
  grind

theorem word_of_asciiLower {c : Char} (h : isNameChar (asciiLower c) = true) :
    startsWord c = true ∧ isWordChar c = true := by
  have hRange : 65 ≤ c.toNat ∧ c.toNat ≤ 90 ∨ 97 ≤ c.toNat ∧ c.toNat ≤ 122 ∨ c.toNat = 95 := by
    rw [isNameChar_iff, toNat_asciiLower] at h
    split at h <;> omega
  refine ⟨?_, isWordChar_iff.mpr (by omega)⟩
  rw [startsWord, Bool.or_eq_true, decide_eq_true_eq]
  rcases hRange with hUpper | hLower | hScore
  · exact .inl (isLetter_of_ascii (.inl hUpper))
  · exact .inl (isLetter_of_ascii (.inr hLower))
  · exact .inr (Char.toNat_inj.mp hScore)

theorem continuesWord_of_startsWord {c : Char} (h : startsWord c = true) :
    continuesWord c = true := by
  rw [startsWord, Bool.or_eq_true] at h
  rw [continuesWord, Bool.or_eq_true, Bool.or_eq_true]
  exact h.imp_left .inl

theorem startsWord_eq_false_of_startsNumber {c : Char} (h : startsNumber c = true) :
    startsWord c = false := by
  have hBlocks : alphabeticBlocks = 65 :: 91 :: alphabeticBlocks.drop 2 := rfl
  rw [startsNumber, Bool.or_eq_true, decide_eq_true_eq] at h
  obtain h | rfl := h
  · have hBounds : 48 ≤ c.toNat ∧ c.toNat ≤ 57 := by
      simp only [isDigit, Bool.and_eq_true, decide_eq_true_eq, Char.le_def,
        UInt32.le_iff_toNat_le] at h
      exact h
    have hScore : c ≠ '_' := by
      rintro rfl
      exact absurd hBounds (by decide)
    rw [startsWord, isLetter, hBlocks, inBlocks_cons_of_lt _ (by omega), Bool.false_or]
    exact decide_eq_false hScore
  · decide

theorem isSpace_eq_false_of_number {c : Char}
    (h : startsNumber c = true ∨ continuesNumber c = true) : isSpace c = false := by
  simp only [startsNumber, continuesNumber, Bool.or_eq_true, decide_eq_true_eq] at h
  obtain (h | rfl) | (h | rfl) := h
  · exact isSpace_eq_false_of_isWordChar (by rw [isWordChar, h, Bool.or_true, Bool.true_or])
  · decide
  · exact isSpace_eq_false_of_isWordChar (by rw [isWordChar, h, Bool.or_true, Bool.true_or])
  · decide

theorem punctuation_apart {c : Char} (h : c ∈ punctuation) :
    startsRun c = false ∧ continuesRun c = false ∧ isSpace c = false := by
  simp only [punctuation, List.mem_cons, List.not_mem_nil, or_false] at h
  rcases h with rfl | rfl | rfl | rfl | rfl | rfl | rfl | rfl | rfl | rfl | rfl <;> decide

theorem any_head?_of_continuesRun {rest : List Char} (h : rest.head?.any continuesRun = false) :
    rest.head?.any continuesWord = false ∧ rest.head?.any continuesNumber = false := by
  cases rest with
  | nil => exact ⟨rfl, rfl⟩
  | cons c rest => exact Bool.or_eq_false_iff.mp h

theorem span_append {p : Char → Bool} {s rest : List Char} (hs : s.all p = true)
    (hRest : rest.head?.any p = false) :
    (s ++ rest).takeWhile p = s ∧ (s ++ rest).dropWhile p = rest := by
  rw [List.takeWhile_append_of_pos (List.all_eq_true.mp hs),
    List.dropWhile_append_of_pos (List.all_eq_true.mp hs), dropWhile_eq_self hRest]
  refine ⟨?_, rfl⟩
  cases rest with
  | nil => exact List.append_nil s
  | cons c rest =>
    have hc : ¬ p c = true := Bool.eq_false_iff.mp hRest
    rw [List.takeWhile_cons_of_neg hc, List.append_nil]

/-! ### Words and numbers -/

/-- Letters and underscores of ASCII. -/
def IsWord (text : List Char) : Prop :=
  text ≠ [] ∧ ∀ c ∈ text, startsWord c = true ∧ isWordChar c = true

/-- A word that is no keyword, in any case. -/
def IsName (text : List Char) : Prop :=
  text ≠ [] ∧ (text.map asciiLower).all isNameChar = true ∧
    ∀ t, (String.ofList (text.map asciiLower), t) ∉ keywords

theorem isWord_of_map {text : List Char} (hText : text ≠ [])
    (h : (text.map asciiLower).all isNameChar = true) : IsWord text := by
  refine ⟨hText, fun c hc => word_of_asciiLower ?_⟩
  exact List.all_eq_true.mp h _ (List.mem_map_of_mem hc)

theorem IsName.isWord {text : List Char} (h : IsName text) : IsWord text :=
  isWord_of_map h.1 h.2.1

theorem isWord_of_keyword {name : String} {t : Token} {text : List Char}
    (h : (name, t) ∈ keywords) (hCase : text.map asciiLower = name.toList) : IsWord text := by
  have hAll : ∀ k ∈ keywords, k.1.toList ≠ [] ∧ k.1.toList.all isNameChar = true := by decide
  have hName := hAll _ h
  refine isWord_of_map ?_ (hCase ▸ hName.2)
  rintro rfl
  exact hName.1 hCase.symm

theorem ofWord_of_keyword {name : String} {t : Token} {text : List Char}
    (h : (name, t) ∈ keywords) (hCase : text.map asciiLower = name.toList) :
    Token.ofWord text = t := by
  rw [Token.ofWord, hCase, String.ofList_toList]
  simp only [keywords, List.mem_cons, Prod.mk.injEq, List.not_mem_nil, or_false] at h
  rcases h with h | h | h | h | h | h <;>
    obtain ⟨rfl, rfl⟩ := h <;>
    rfl

theorem ofWord_of_isName {name : String} (h : IsName name.toList) :
    Token.ofWord name.toList = .ident name := by
  obtain ⟨-, -, h⟩ := h
  rw [Token.ofWord, String.ofList_toList]
  generalize String.ofList (name.toList.map asciiLower) = folded at h
  simp only [keywords, List.mem_cons, Prod.mk.injEq, List.not_mem_nil, or_false, not_or] at h
  grind

/-- What is asked of names and numbers, so that their texts are read back. -/
def Token.IsLexeme : Token → Prop
  | ident name => IsName name.toList
  | num x => Decimal.isFinite x = true ∧
      Decimal.read? (Decimal.write .plain x).toList = some x
  | _ => True

theorem exists_number {x : Float} (h : Decimal.isFinite x = true) :
    ∃ c rest, (Decimal.write .plain x).toList = c :: rest ∧ startsNumber c = true ∧
      rest.all continuesNumber = true := by
  obtain ⟨s, ⟨hHead, hAll⟩, hText⟩ := Decimal.exists_write_plain h
  have hContinues : ∀ c ∈ s, continuesNumber c = true := fun c hc => by
    rw [continuesNumber, Bool.or_eq_true, decide_eq_true_eq]
    exact hAll c hc
  obtain hText | hText := hText
  · cases s with
    | nil => cases hHead
    | cons c rest =>
      have hDigit : isDigit c = true := hHead
      refine ⟨c, rest, hText, by rw [startsNumber, hDigit, Bool.true_or], ?_⟩
      exact List.all_eq_true.mpr fun d hd => hContinues d (List.mem_cons_of_mem _ hd)
  · exact ⟨'-', s, hText, rfl, List.all_eq_true.mpr hContinues⟩

/-! ### The ends of a text -/

/-- What the first character of a token can be. Only an equality starts with an equals sign. -/
def Token.StartsWith (t : Token) (c : Char) : Prop :=
  (startsRun c = true ∨ c ∈ punctuation) ∧ isSpace c = false ∧ (c = '=' → t = .eq)

theorem Token.startsWith_of_startsRun {t : Token} {c : Char} (hRun : startsRun c = true)
    (hSpace : isSpace c = false) : t.StartsWith c := by
  refine ⟨.inl hRun, hSpace, ?_⟩
  rintro rfl
  exact absurd hRun (by decide)

theorem IsWord.isSpace_eq_false {text : List Char} (h : IsWord text) :
    ∀ c ∈ text, isSpace c = false := fun c hc => isSpace_eq_false_of_isWordChar (h.2 c hc).2

theorem IsWord.startsRun {c : Char} {text : List Char} (h : IsWord (c :: text)) :
    startsRun c = true := by
  rw [Condition.startsRun, (h.2 c List.mem_cons_self).1, Bool.true_or]

theorem IsWord.exists_head {text : List Char} (h : IsWord text) (t : Token) :
    ∃ c rest, text = c :: rest ∧ t.StartsWith c := by
  obtain ⟨c, rest, rfl⟩ := List.exists_cons_of_ne_nil h.1
  exact ⟨c, rest, rfl,
    Token.startsWith_of_startsRun h.startsRun (h.isSpace_eq_false c List.mem_cons_self)⟩

theorem Token.Spelled.exists_head {t : Token} {text : List Char} (h : t.Spelled text)
    (hLex : t.IsLexeme) : ∃ c rest, text = c :: rest ∧ t.StartsWith c := by
  cases h with
  | keyword h hCase => exact (isWord_of_keyword h hCase).exists_head t
  | mark h =>
    have hAll : ∀ m ∈ marks, m.1 ≠ [] ∧ m.1.head?.all (· ∈ punctuation) = true ∧
        (m.1.head? = some '=' → m.2 = .eq) := by decide
    obtain ⟨hText, hMark, hEq⟩ := hAll _ h
    obtain ⟨c, rest, rfl⟩ := List.exists_cons_of_ne_nil hText
    have hMark : c ∈ punctuation := of_decide_eq_true hMark
    exact ⟨c, rest, rfl, .inr hMark, (punctuation_apart hMark).2.2,
      fun hSame => hEq (congrArg some hSame)⟩
  | ident name => exact (IsName.isWord hLex).exists_head _
  | str hQuote h =>
    refine ⟨_, _, rfl, .inr ?_, ?_, ?_⟩
    · rcases hQuote with rfl | rfl <;> decide
    · rcases hQuote with rfl | rfl <;> decide
    · rcases hQuote with rfl | rfl <;> exact fun h => absurd h (by decide)
  | num x =>
    obtain ⟨c, rest, hText, hStart, -⟩ := exists_number hLex.1
    refine ⟨c, rest, hText, startsWith_of_startsRun ?_ (isSpace_eq_false_of_number (.inl hStart))⟩
    rw [startsRun, hStart, Bool.or_true]

theorem Escaped.getLast?_eq {quote : Char} {s text : List Char} (h : Escaped quote s text) :
    text.getLast? = some quote := by
  induction h with
  | close => rfl
  | plain _ _ _ ih => rw [List.getLast?_cons, ih, Option.getD_some]
  | escape _ ih =>
    rw [List.getLast?_cons, List.getLast?_cons, ih, Option.getD_some, Option.getD_some]

theorem Token.Spelled.any_getLast? {t : Token} {text : List Char} (h : t.Spelled text)
    (hLex : t.IsLexeme) : text.getLast?.any isSpace = false := by
  cases h with
  | keyword h hCase => exact any_getLast?_of_forall (isWord_of_keyword h hCase).isSpace_eq_false
  | mark h =>
    have hAll : ∀ m ∈ marks, m.1.getLast?.any isSpace = false := by decide
    exact hAll _ h
  | ident name => exact any_getLast?_of_forall (IsName.isWord hLex).isSpace_eq_false
  | str hQuote h =>
    rw [List.getLast?_cons, h.getLast?_eq, Option.getD_some]
    rcases hQuote with rfl | rfl <;> decide
  | num x =>
    obtain ⟨c, rest, hText, hStart, hRest⟩ := exists_number hLex.1
    rw [hText]
    refine any_getLast?_of_forall fun d hd => isSpace_eq_false_of_number ?_
    obtain rfl | hd := List.mem_cons.mp hd
    · exact .inl hStart
    · exact .inr (List.all_eq_true.mp hRest d hd)

/-! ### Reading a token back -/

theorem readToken_of_startsNumber {c : Char} {rest : List Char} {x : Float}
    (hc : startsNumber c = true)
    (hRead : Decimal.read? (c :: rest.takeWhile continuesNumber) = some x) :
    readToken c rest = .ok (.num x, rest.dropWhile continuesNumber) := by
  unfold readToken
  split <;> first | exact absurd hc (by decide) | skip
  rw [if_neg ?_, if_pos hc]
  · simp only [hRead]
  · rintro (rfl | rfl) <;> exact absurd hc (by decide)

theorem readToken_of_startsWord {c : Char} {rest : List Char} (hc : startsWord c = true) :
    readToken c rest =
      .ok (Token.ofWord (c :: rest.takeWhile continuesWord), rest.dropWhile continuesWord) := by
  have hNumber : ¬ startsNumber c = true := fun hNumber =>
    Bool.false_ne_true ((startsWord_eq_false_of_startsNumber hNumber).symm.trans hc)
  unfold readToken
  split <;> first | exact absurd hc (by decide) | skip
  rw [if_neg ?_, if_neg hNumber, if_pos hc]
  rintro (rfl | rfl) <;> exact absurd hc (by decide)

theorem IsWord.readToken {c : Char} {tail rest : List Char} (h : IsWord (c :: tail))
    (hRest : rest.head?.any continuesRun = false) :
    Condition.readToken c (tail ++ rest) = .ok (Token.ofWord (c :: tail), rest) := by
  have hTail : tail.all continuesWord = true := List.all_eq_true.mpr fun d hd =>
    continuesWord_of_startsWord (h.2 d (List.mem_cons_of_mem _ hd)).1
  obtain ⟨hTake, hDrop⟩ := span_append hTail (any_head?_of_continuesRun hRest).1
  rw [readToken_of_startsWord (h.2 c List.mem_cons_self).1, hTake, hDrop]

theorem readQuoted_of_escaped {quote : Char} (hQuote : quote ≠ '\\') {s text : List Char}
    (h : Escaped quote s text) (rest : List Char) :
    readQuoted quote (text ++ rest) = some (s, rest) := by
  induction h with
  | close => simp [readQuoted, hQuote]
  | plain hq hb h ih => simp [readQuoted, hq, hb, ih]
  | escape h ih => simp [readQuoted, ih]

/-- A token that may be written as a mark which an equals sign behind it would change. -/
def Token.takesEquals : Token → Bool
  | not | eq | lt | gt => true
  | _ => false

theorem readToken_of_mem_marks {t : Token} {c : Char} {tail rest : List Char}
    (h : (c :: tail, t) ∈ marks) (hEquals : t.takesEquals = true → rest.head? ≠ some '=') :
    readToken c (tail ++ rest) = .ok (t, rest) := by
  have hShort (long short : Token) (hHead : rest.head? ≠ some '=') :
      withEquals long short rest = (short, rest) := by
    unfold withEquals
    split
    · exact absurd rfl hHead
    · rfl
  simp only [marks, List.mem_cons, Prod.mk.injEq, List.cons.injEq, List.not_mem_nil,
    or_false] at h
  rcases h with h | h | h | h | h | h | h | h | h | h | h | h | h <;>
    obtain ⟨⟨rfl, rfl⟩, rfl⟩ := h <;>
    first
    | rfl
    | exact congrArg Except.ok (hShort _ _ (hEquals rfl))

/-- A written token is read back from the front of a text that it does not run into. -/
theorem Token.Spelled.readToken {t : Token} {c : Char} {text tail rest : List Char}
    (h : t.Spelled text) (hLex : t.IsLexeme) (hText : text = c :: tail)
    (hRun : startsRun c = true → rest.head?.any continuesRun = false)
    (hEquals : t.takesEquals = true → rest.head? ≠ some '=') :
    Condition.readToken c (tail ++ rest) = .ok (t, rest) := by
  cases h with
  | keyword h hCase =>
    have hWord := isWord_of_keyword h hCase
    subst hText
    rw [hWord.readToken (hRun hWord.startsRun), ofWord_of_keyword h hCase]
  | mark h => exact readToken_of_mem_marks (hText ▸ h) hEquals
  | ident name =>
    have hWord := IsName.isWord hLex
    rw [hText] at hWord
    rw [hWord.readToken (hRun hWord.startsRun), ← hText, ofWord_of_isName hLex]
  | @str quote s text hQuote h =>
    obtain ⟨rfl, rfl⟩ := List.cons.inj hText
    have hRead : readQuoted quote (text ++ rest) = some (s.toList, rest) := by
      refine readQuoted_of_escaped ?_ h rest
      rcases hQuote with rfl | rfl <;> decide
    rcases hQuote with rfl | rfl <;> simp [Condition.readToken, hRead]
  | num x =>
    obtain ⟨c', tail', hNumber, hStart, hTail⟩ := exists_number hLex.1
    obtain ⟨rfl, rfl⟩ := List.cons.inj (hNumber.symm.trans hText)
    have hRest := hRun (by rw [startsRun, hStart, Bool.or_true])
    obtain ⟨hTake, hDrop⟩ := span_append hTail (any_head?_of_continuesRun hRest).2
    have hRead := hLex.2
    rw [hNumber, ← hTake] at hRead
    rw [readToken_of_startsNumber hStart hRead, hDrop]

end Household.Condition
