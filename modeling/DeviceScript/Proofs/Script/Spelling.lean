import DeviceScript.Proofs.Text.Classes
import DeviceScript.Script.Lexeme

/-!
# Writing tokens and reading them back

A token is written as its text, a string in quotes. Not every pair of a kind and a text is
written so that it can be read: `Token.Lexical` lists those that are, which are the keywords,
the names, the numerals, the strings without a quote, and the signs.

One step of reading takes a lexical token off the front of a text, provided that what follows does
not belong to it (`readStart_spelling`). Tokens written with a blank between them are then read
back one after another, and reading ends at the end of the text (`ofText_spaced`).
-/

namespace DeviceScript.Script

open List DeviceScript.Text

variable {c first second : Char} {k : TokenKind} {token tok : Token}

variable {p : Char → Bool} {word s : String}

/-- The text is a word: it begins like one and goes on like one. -/
def isWord (s : String) : Bool :=
  match s.toList with
  | [] => false
  | c :: rest => isWordStart c && rest.all isWordPart

/-- The text is the name of something: a word that is no keyword. -/
def isName (s : String) : Bool := isWord s && (keywords.lookup s).isNone

/-- The text is a numeral: a digit followed by digits and points. -/
def isNumeral (s : String) : Bool :=
  match s.toList with
  | [] => false
  | c :: rest => isDigit c && rest.all isNumberPart

/-- The tokens that a text can hold. -/
inductive Token.Lexical : Token → Prop
  | keyword {word : String} {k : TokenKind} (listed : (word, k) ∈ keywords) :
      Token.Lexical ⟨k, word⟩
  | name {s : String} (named : isName s = true) : Token.Lexical ⟨.identifier, s⟩
  | numeral {s : String} (numeral : isNumeral s = true) : Token.Lexical ⟨.number, s⟩
  | string {s : String} (unquoted : '"' ∉ s.toList) : Token.Lexical ⟨.string, s⟩
  | sign {c : Char} {k : TokenKind} (sign : signKind? c = some k) :
      Token.Lexical ⟨k, String.singleton c⟩
  | pair {first second : Char} {k : TokenKind} (pair : pairKind? first second = some k) :
      Token.Lexical ⟨k, String.ofList [first, second]⟩

/-- How a token is written in a script. -/
def Token.spelling (tok : Token) : List Char :=
  if tok.kind = .string then '"' :: (tok.text.toList ++ ['"']) else tok.text.toList

/-- Tokens written one after another, each with a blank in front. -/
def indented (ts : List Token) : List Char :=
  ts.flatMap fun tok => ' ' :: tok.spelling

/-- Tokens written one after another with a blank between them. -/
def spaced : List Token → List Char
  | [] => []
  | tok :: ts => tok.spelling ++ indented ts

/-- What follows a token directly does not belong to it: a word is not followed by a character of a
word, nor a number by one of a number, and no sign of one character is the first one of a pair. -/
structure Token.EndsBefore (token : Token) (rest : List Char) : Prop where
  word : token.kind ≠ .string → isWord token.text = true → ∀ c ∈ rest.head?, isWordPart c = false
  number : token.kind = .number → ∀ c ∈ rest.head?, isNumberPart c = false
  sign : token.kind ≠ .string → ∀ c, token.text = String.singleton c →
    ∀ second ∈ rest.head?, pairKind? c second = none

/-- Nothing follows, or a blank does. -/
def AtGap (rest : List Char) : Prop := ∀ c ∈ rest.head?, c = ' '

theorem atGap_indented (ts : List Token) : AtGap (indented ts) := by
  cases ts <;> simp [AtGap, indented]

/-- A blank belongs to no token. -/
theorem endsBefore_of_atGap (tok : Token) {rest : List Char} (gap : AtGap rest) :
    tok.EndsBefore rest where
  word _ _ c mem := by
    rw [gap c mem]
    decide +kernel
  number _ c mem := by
    rw [gap c mem]
    decide
  sign _ c _ second mem := by
    rw [gap second mem]
    simp [pairKind?]

/-! ## One step of reading -/

section Boundary

variable {rest : List Char}

/-- A class that the next character is outside of ends there. -/
theorem takeWhile_eq_nil_of_head? (outside : ∀ c ∈ rest.head?, p c = false) :
    rest.takeWhile p = [] := by
  cases rest with
  | nil => rfl
  | cons c =>
    rw [takeWhile_cons, outside c rfl]
    rfl

theorem dropWhile_eq_self_of_head? (outside : ∀ c ∈ rest.head?, p c = false) :
    rest.dropWhile p = rest := by
  cases rest with
  | nil => rfl
  | cons c =>
    rw [dropWhile_cons, outside c rfl]
    rfl

theorem readSign?_of_head? (single : ∀ second ∈ rest.head?, pairKind? c second = none) :
    readSign? c rest = (signKind? c).map fun k => (⟨k, String.singleton c⟩, rest) := by
  cases rest with
  | nil => rfl
  | cons second =>
    have noPair : pairKind? c second = none := single second rfl
    simp only [readSign?, noPair]

end Boundary

/-- The characters that begin a sign. -/
def signStarts : List Char :=
  ['+', '-', '*', '/', '(', ')', '[', ']', '{', '}', ',', '<', '>', '=', '!']

/-- The characters that begin a sign begin nothing else. -/
theorem signStart_excludes (start : c ∈ signStarts) :
    c ≠ '\n' ∧ isBlank c = false ∧ c ≠ '#' ∧ c ≠ '"' ∧ isDigit c = false ∧
      isWordStart c = false := by
  simp only [signStarts, mem_cons, not_mem_nil, or_false] at start
  rcases start with rfl | rfl | rfl | rfl | rfl | rfl | rfl | rfl | rfl | rfl | rfl | rfl | rfl |
    rfl | rfl <;>
    exact ⟨by decide, isBlank_eq_false_of_visible (by decide) (by decide), by decide, by decide,
      by decide, by decide⟩

theorem mem_signStart_of_signKind? (sign : signKind? c = some k) : c ∈ signStarts := by
  unfold signKind? at sign
  split at sign <;> first | decide | simp at sign

/-- The signs of two characters, by their first one. -/
theorem mem_of_pairKind? (pair : pairKind? first second = some k) :
    (first, k) ∈ [('=', TokenKind.equal), ('!', .notEqual), ('<', .atMost), ('>', .atLeast)] := by
  by_cases second = '='
  · by_cases first = '='
    · simp_all [pairKind?]
    · by_cases first = '!'
      · simp_all [pairKind?]
      · by_cases first = '<'
        · simp_all [pairKind?]
        · by_cases first = '>'
          · simp_all [pairKind?]
          · simp_all [pairKind?]
  · simp_all [pairKind?]

theorem mem_signStart_of_pairKind? (pair : pairKind? first second = some k) :
    first ∈ signStarts := by
  have listed := mem_of_pairKind? pair
  simp only [mem_cons, Prod.mk.injEq, not_mem_nil, or_false] at listed
  rcases listed with ⟨rfl, -⟩ | ⟨rfl, -⟩ | ⟨rfl, -⟩ | ⟨rfl, -⟩ <;> decide

/-- What begins a word begins neither a gap, a string, a number nor a sign. -/
theorem wordStart_excludes (start : isWordStart c = true) :
    c ≠ '\n' ∧ isBlank c = false ∧ c ≠ '#' ∧ c ≠ '"' ∧ isDigit c = false := by
  refine ⟨?_, ?_, ?_, ?_, ?_⟩
  · rintro rfl
    exact absurd start (by decide)
  · rcases Bool.or_eq_true _ _ ▸ start with letter | underscore
    · exact isBlank_eq_false_of_isLetter letter
    · rw [beq_iff_eq.mp underscore]
      exact isBlank_eq_false_of_visible (by decide) (by decide)
  · rintro rfl
    exact absurd start (by decide)
  · rintro rfl
    exact absurd start (by decide)
  · rcases Bool.or_eq_true _ _ ▸ start with letter | underscore
    · exact isDigit_eq_false_of_isLetter letter
    · rw [beq_iff_eq.mp underscore]
      decide

/-- What begins a number begins neither a gap nor a string. -/
theorem digit_excludes (digit : isDigit c = true) :
    c ≠ '\n' ∧ isBlank c = false ∧ c ≠ '#' ∧ c ≠ '"' := by
  refine ⟨?_, isBlank_eq_false_of_isDigit digit, ?_, ?_⟩ <;>
    · rintro rfl
      exact absurd digit (by decide)

theorem readSign?_eq_none_of_wordStart {rest : List Char} (start : isWordStart c = true) :
    readSign? c rest = none := by
  have noSign : signKind? c = none := by
    rw [Option.eq_none_iff_forall_ne_some]
    intro k sign
    have := (signStart_excludes (mem_signStart_of_signKind? sign)).2.2.2.2.2
    rw [start] at this
    exact Bool.noConfusion this
  have noPair : ∀ second, pairKind? c second = none := by
    intro second
    rw [Option.eq_none_iff_forall_ne_some]
    intro k pair
    have := (signStart_excludes (mem_signStart_of_pairKind? pair)).2.2.2.2.2
    rw [start] at this
    exact Bool.noConfusion this
  cases rest with
  | nil => simp [readSign?, noSign]
  | cons => simp [readSign?, noSign, noPair]

theorem readStart_word {rest : List Char} (worded : isWord word = true)
    (ends : ∀ c ∈ rest.head?, isWordPart c = false) :
    readStart (word.toList ++ rest) = .token ⟨wordKind word, word⟩ rest := by
  unfold isWord at worded
  split at worded
  · simp at worded
  · rename_i c others spelled
    rw [Bool.and_eq_true, all_eq_true] at worded
    obtain ⟨start, parts⟩ := worded
    obtain ⟨line, blank, comment, quote, digit⟩ := wordStart_excludes start
    have taken : (others ++ rest).takeWhile isWordPart = others := by
      rw [takeWhile_append_of_pos parts, takeWhile_eq_nil_of_head? ends, append_nil]
    have left : (others ++ rest).dropWhile isWordPart = rest := by
      rw [dropWhile_append_of_pos parts, dropWhile_eq_self_of_head? ends]
    have whole : String.ofList (c :: others) = word := by
      rw [← spelled, String.ofList_toList]
    rw [spelled, cons_append]
    simp only [readStart, line, blank, comment, quote, digit, readSign?_eq_none_of_wordStart start,
      start, taken, left, whole, if_false, if_true, Bool.false_eq_true]

theorem readStart_numeral {rest : List Char} (numeral : isNumeral s = true)
    (ends : ∀ c ∈ rest.head?, isNumberPart c = false) :
    readStart (s.toList ++ rest) = .token ⟨.number, s⟩ rest := by
  unfold isNumeral at numeral
  split at numeral
  · simp at numeral
  · rename_i c others spelled
    rw [Bool.and_eq_true, all_eq_true] at numeral
    obtain ⟨digit, parts⟩ := numeral
    obtain ⟨line, blank, comment, quote⟩ := digit_excludes digit
    have taken : (others ++ rest).takeWhile isNumberPart = others := by
      rw [takeWhile_append_of_pos parts, takeWhile_eq_nil_of_head? ends, append_nil]
    have left : (others ++ rest).dropWhile isNumberPart = rest := by
      rw [dropWhile_append_of_pos parts, dropWhile_eq_self_of_head? ends]
    have whole : String.ofList (c :: others) = s := by
      rw [← spelled, String.ofList_toList]
    rw [spelled, cons_append]
    simp only [readStart, line, blank, comment, quote, digit, taken, left, whole, if_false,
      if_true, Bool.false_eq_true]

/-- A string is read up to its closing quote, whatever follows. -/
theorem readStart_string {rest : List Char} (unquoted : '"' ∉ s.toList) :
    readStart ('"' :: (s.toList ++ '"' :: rest)) = .token ⟨.string, s⟩ rest := by
  have inside : ∀ c ∈ s.toList, (decide (c ≠ '"')) = true := by
    intro c mem
    exact decide_eq_true fun same => unquoted (same ▸ mem)
  have taken : (s.toList ++ '"' :: rest).takeWhile (· ≠ '"') = s.toList := by
    rw [takeWhile_append_of_pos inside]
    simp
  have left : (s.toList ++ '"' :: rest).dropWhile (· ≠ '"') = '"' :: rest := by
    rw [dropWhile_append_of_pos inside]
    simp
  have closed : closeString? (s.toList ++ '"' :: rest) = some (s.toList, rest) := by
    simp only [closeString?, left, taken]
  have blank : isBlank '"' = false := isBlank_eq_false_of_visible (by decide) (by decide)
  simp [readStart, closed, blank]

theorem readStart_sign {rest : List Char} (sign : signKind? c = some k)
    (single : ∀ second ∈ rest.head?, pairKind? c second = none) :
    readStart (c :: rest) = .token ⟨k, String.singleton c⟩ rest := by
  obtain ⟨line, blank, comment, quote, digit, -⟩ :=
    signStart_excludes (mem_signStart_of_signKind? sign)
  simp only [readStart, line, blank, comment, quote, digit, readSign?_of_head? single, sign,
    if_false, Bool.false_eq_true, Option.map_some]

theorem readStart_pair {rest : List Char} (pair : pairKind? first second = some k) :
    readStart (first :: second :: rest) = .token ⟨k, String.ofList [first, second]⟩ rest := by
  obtain ⟨line, blank, comment, quote, digit, -⟩ :=
    signStart_excludes (mem_signStart_of_pairKind? pair)
  simp only [readStart, line, blank, comment, quote, digit, readSign?, pair, if_false,
    Bool.false_eq_true]

/-- The keywords are words, and each is read as its own kind, which is never a string. -/
theorem keyword_word (listed : (word, k) ∈ keywords) :
    isWord word = true ∧ wordKind word = k ∧ k ≠ .string := by
  have every : ∀ e ∈ keywords, isWord e.1 = true ∧ wordKind e.1 = e.2 ∧ e.2 ≠ .string := by
    decide
  exact every _ listed

theorem signKind?_ne_string (sign : signKind? c = some k) : k ≠ .string := by
  rintro rfl
  unfold signKind? at sign
  split at sign <;> simp at sign

theorem pairKind?_ne_string (pair : pairKind? first second = some k) : k ≠ .string := by
  rintro rfl
  have listed := mem_of_pairKind? pair
  simp at listed

/-- **One step of reading takes a lexical token** off the front of a text, if what follows does not
belong to it. -/
theorem readStart_spelling {rest : List Char} (lexical : tok.Lexical)
    (ends : tok.EndsBefore rest) : readStart (tok.spelling ++ rest) = .token tok rest := by
  cases lexical with
  | keyword listed =>
    obtain ⟨worded, same, noString⟩ := keyword_word listed
    rw [Token.spelling, if_neg noString, readStart_word worded (ends.word noString worded), same]
  | name named =>
    rw [isName, Bool.and_eq_true, Option.isNone_iff_eq_none] at named
    have after := ends.word TokenKind.noConfusion named.1
    rw [Token.spelling, if_neg TokenKind.noConfusion, readStart_word named.1 after, wordKind,
      named.2, Option.getD_none]
  | numeral numeral =>
    rw [Token.spelling, if_neg TokenKind.noConfusion, readStart_numeral numeral (ends.number rfl)]
  | string unquoted =>
    rw [Token.spelling, if_pos rfl, cons_append, append_assoc]
    exact readStart_string unquoted
  | sign sign =>
    have noString := signKind?_ne_string sign
    rw [Token.spelling, if_neg noString, String.toList_singleton]
    exact readStart_sign sign (ends.sign noString _ rfl)
  | pair pair =>
    rw [Token.spelling, if_neg (pairKind?_ne_string pair), String.toList_ofList]
    exact readStart_pair pair

/-! ## Reading all tokens -/

theorem spelling_ne_nil (lexical : tok.Lexical) : tok.spelling ≠ [] := by
  intro empty
  have bare : AtGap [] := by simp [AtGap]
  have read := readStart_spelling lexical (endsBefore_of_atGap tok bare)
  rw [empty] at read
  simp [readStart] at read

theorem readStart_blank (rest : List Char) : readStart (' ' :: rest) = .pass 0 rest := by
  have blank : isBlank ' ' = true := by decide +kernel
  simp [readStart, blank]

/-- A text of which one step reads a token is that token and what the rest is read as. -/
theorem scan_token (fuel line stop : Nat) {s rest : List Char}
    (read : readStart s = .token tok rest) :
    ∃ reached, scan (fuel + 1) line stop s =
      Source.cons ⟨tok, line, reached⟩ (scan fuel line reached rest) := by
  refine ⟨stop + (s.length - rest.length), ?_⟩
  rw [scan, read]

/-- Tokens with a blank in front of each are read back, and then the text ends. The induction is
on the tokens; each takes two steps, one for its blank and one for itself. -/
theorem scan_indented : ∀ (ts : List Token), (∀ tok ∈ ts, tok.Lexical) →
    ∀ (fuel line stop : Nat), (indented ts).length < fuel →
      ∃ ls reached, scan fuel line stop (indented ts) = ⟨ls, .finished line reached⟩ ∧
        ls.map (·.token) = ts
  | [], _, 0, _, _, enough => absurd enough (Nat.not_lt_zero _)
  | [], _, fuel + 1, line, stop, _ => ⟨[], stop, rfl, rfl⟩
  | tok :: ts, lexical, fuel, line, stop, enough => by
    have nonempty : 0 < tok.spelling.length :=
      length_pos_iff.mpr (spelling_ne_nil (lexical tok (by simp)))
    have written : indented (tok :: ts) = ' ' :: (tok.spelling ++ indented ts) := by
      simp [indented]
    rw [written] at enough ⊢
    simp only [length_cons, length_append] at enough
    obtain ⟨fuel, rfl⟩ : ∃ less, fuel = less + 1 + 1 := ⟨fuel - 2, by omega⟩
    have read := readStart_spelling (lexical tok (by simp))
        (endsBefore_of_atGap tok (atGap_indented ts))
    obtain ⟨start, first⟩ := scan_token fuel line
      (stop + (((tok.spelling ++ indented ts).length + 1) -
        (tok.spelling ++ indented ts).length)) read
    obtain ⟨ls, reached, others, spelled⟩ :=
      scan_indented ts (fun next mem => lexical next (by simp [mem])) fuel line start
        (by omega)
    refine ⟨⟨tok, line, start⟩ :: ls, reached, ?_, by simp [spelled]⟩
    rw [scan, readStart_blank]
    simp only [Nat.add_zero, length_cons]
    rw [first, others]
    rfl

/-- **Reading undoes writing with blanks.** Lexical tokens that are written with a blank between
them are read back, and reading ends with the text. -/
theorem ofText_spaced (ts : List Token) (lexical : ∀ tok ∈ ts, tok.Lexical) :
    ∃ ls line stop,
      Source.ofText (String.ofList (spaced ts)) = ⟨ls, .finished line stop⟩ ∧
        ls.map (·.token) = ts := by
  rw [Source.ofText, String.length_ofList, String.toList_ofList]
  cases ts with
  | nil => exact ⟨[], 1, 0, rfl, rfl⟩
  | cons tok ts =>
    have nonempty : 0 < tok.spelling.length :=
      length_pos_iff.mpr (spelling_ne_nil (lexical tok (by simp)))
    have read := readStart_spelling (lexical tok (by simp))
        (endsBefore_of_atGap tok (atGap_indented ts))
    obtain ⟨start, first⟩ := scan_token (spaced (tok :: ts)).length 1 0 read
    obtain ⟨ls, reached, others, spelled⟩ :=
      scan_indented ts (fun next mem => lexical next (by simp [mem]))
        (spaced (tok :: ts)).length 1 start
        (by simp only [spaced, length_append]; omega)
    refine ⟨⟨tok, 1, start⟩ :: ls, 1, reached, ?_, by simp [spelled]⟩
    rw [spaced] at first others ⊢
    rw [first, others]
    rfl

end DeviceScript.Script
