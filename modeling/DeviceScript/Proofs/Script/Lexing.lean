import DeviceScript.Proofs.Script.Spelling
import Mathlib.Data.List.TakeWhile

/-!
# What a text consists of

A text is read as tokens just if it consists of them: of the spellings of the tokens one after
another, with gaps in front of them and at the end. A gap is made of blanks and comments, and no
token is followed directly by a character that belongs to it. Reading breaks just if such a
beginning is followed by a string that is not closed, or by something that no token begins with
(`ofText_consists_iff`).

`Begins text start` says what may stand at the start of a text and what is left after it; one step
of reading does just that (`readStart_eq_iff`). The statement about whole texts follows by induction
on the number of steps. Since every token that is read is lexical, the tokens that can be written
with blanks between them and read back are just those that are read from some text
(`ofText_spaced_iff`).
-/

namespace DeviceScript.Script

open List DeviceScript.Text

variable {k : TokenKind} {token tok : Token}

variable {content others : List Char} {word : String} {first second : Char} {lines : Nat}

/-! ## Gaps, tokens and faults in a text -/

/-- Blanks and comments in front of the rest of a text. A comment runs up to the next line break or
to the end of the text. -/
inductive Gap : List Char → List Char → Prop
  | none (rest : List Char) : Gap [] rest
  | blank {c : Char} {gap rest : List Char} (blank : isBlank c = true) (more : Gap gap rest) :
      Gap (c :: gap) rest
  | comment {words gap rest : List Char} (inLine : '\n' ∉ words)
      (ends : ∀ c ∈ (gap ++ rest).head?, c = '\n') (more : Gap gap rest) :
      Gap ('#' :: (words ++ gap)) rest

/-- The text consists of the given tokens, with a gap in front of each and after the last one, up to
the rest. -/
def Consists : List Token → List Char → List Char → Prop
  | [], text, rest => ∃ gap, text = gap ++ rest ∧ Gap gap rest
  | tok :: ts, text, rest => ∃ gap after,
      text = gap ++ (tok.spelling ++ after) ∧ Gap gap (tok.spelling ++ after) ∧
        tok.Lexical ∧ tok.EndsBefore after ∧ Consists ts after rest

/-- Nothing can be read at the start of the text: it begins with a string that is not closed, or,
though no gap begins there, with no token. -/
inductive Unreadable : LexicalFault → List Char → Prop
  | unclosed {rest : List Char} (unclosed : '"' ∉ rest) : Unreadable .unclosedString ('"' :: rest)
  | illegal {c : Char} {rest : List Char} (noBlank : isBlank c = false) (noComment : c ≠ '#')
      (noString : c ≠ '"')
      (noToken : ∀ tok : Token, tok.Lexical → ¬ tok.spelling <+: c :: rest) :
      Unreadable (.illegalCharacter c) (c :: rest)

/-- What may stand at the start of a text: a blank, a comment, a token that what follows does not
belong to, a fault, or nothing. -/
inductive Begins : List Char → Start → Prop
  | finish : Begins [] .finish
  | blank {c : Char} (rest : List Char) (blank : isBlank c = true) :
      Begins (c :: rest) (.pass (if c = '\n' then 1 else 0) rest)
  | comment {words rest : List Char} (inLine : '\n' ∉ words) (ends : ∀ c ∈ rest.head?, c = '\n') :
      Begins ('#' :: (words ++ rest)) (.pass 0 rest)
  | token {text : List Char} {token : Token} {rest : List Char}
      (spelled : text = token.spelling ++ rest) (lexical : token.Lexical)
      (ends : token.EndsBefore rest) : Begins text (.token token rest)
  | fault {fault : LexicalFault} {text : List Char} (unreadable : Unreadable fault text) :
      Begins text (.fault fault)

/-! ## Strings, comments and classes of characters -/

/-- What is left after a class of characters begins with a character outside of it. -/
theorem head?_dropWhile_eq_false (p : Char → Bool) (s : List Char) :
    ∀ c ∈ (s.dropWhile p).head?, p c = false := by
  intro c mem
  have outside := head?_dropWhile_not p s
  rw [Option.mem_def.mp mem] at outside
  simpa using outside

theorem closeString?_eq_some {s rest : List Char} (closed : closeString? s = some (content, rest)) :
    s = content ++ '"' :: rest ∧ '"' ∉ content := by
  unfold closeString? at closed
  split at closed
  · cases closed
  · rename_i quote others left
    cases closed
    have same : quote = '"' := by
      have outside := head?_dropWhile_eq_false (· ≠ '"') s quote (by rw [left]; rfl)
      simpa using outside
    rw [same] at left
    constructor
    · rw [← left, takeWhile_append_dropWhile]
    · intro mem
      simpa using mem_takeWhile_imp mem

theorem closeString?_eq_none {s : List Char} : closeString? s = none ↔ '"' ∉ s := by
  have dropped : s.dropWhile (· ≠ '"') = [] ↔ '"' ∉ s := by
    rw [dropWhile_eq_nil_iff]
    constructor
    · intro outside mem
      simpa using outside '"' mem
    · intro missing c mem
      exact decide_eq_true fun same => missing (same ▸ mem)
  rw [← dropped, closeString?]
  split
  · rename_i left
    exact iff_of_true rfl left
  · rename_i left
    exact iff_of_false (Option.some_ne_none _) (by rw [left]; exact cons_ne_nil _ _)

/-- A comment with what follows it, cut at the next line break. -/
theorem dropWhile_comment {words rest : List Char} (inLine : '\n' ∉ words)
    (ends : ∀ c ∈ rest.head?, c = '\n') : (words ++ rest).dropWhile (· ≠ '\n') = rest := by
  have inside : ∀ c ∈ words, decide (c ≠ '\n') = true := by
    intro c mem
    exact decide_eq_true fun same => inLine (same ▸ mem)
  rw [dropWhile_append_of_pos inside]
  refine dropWhile_eq_self_of_head? fun c mem => ?_
  simp [ends c mem]

/-! ## Kinds of tokens -/

theorem keyword_ne_number (listed : (word, k) ∈ keywords) : k ≠ .number := by
  have every : ∀ e ∈ keywords, e.2 ≠ .number := by decide
  exact every _ listed

theorem signKind?_ne_number {c : Char} (sign : signKind? c = some k) : k ≠ .number := by
  rintro rfl
  unfold signKind? at sign
  split at sign <;> simp at sign

theorem pairKind?_ne_number (pair : pairKind? first second = some k) : k ≠ .number := by
  rintro rfl
  have listed := mem_of_pairKind? pair
  simp at listed

theorem isWord_ofList_cons (c : Char) (rest : List Char) :
    isWord (String.ofList (c :: rest)) = (isWordStart c && rest.all isWordPart) := by
  rw [isWord, String.toList_ofList]

/-- What begins no sign begins no pair. -/
theorem pairKind?_eq_none {c : Char} (start : c ∉ signStarts) (second : Char) :
    pairKind? c second = none := by
  rw [Option.eq_none_iff_forall_ne_some]
  intro _ pair
  exact start (mem_signStart_of_pairKind? pair)

theorem not_mem_signStarts_of_isDigit {c : Char} (digit : isDigit c = true) : c ∉ signStarts := by
  intro start
  rw [(signStart_excludes start).2.2.2.2.1] at digit
  cases digit

theorem not_mem_signStarts_of_isWordStart {c : Char} (start : isWordStart c = true) :
    c ∉ signStarts := by
  intro sign
  rw [(signStart_excludes sign).2.2.2.2.2] at start
  cases start

theorem isWordStart_eq_false_of_isDigit {c : Char} (digit : isDigit c = true) :
    isWordStart c = false := by
  rw [Bool.eq_false_iff]
  intro start
  rw [(wordStart_excludes start).2.2.2.2] at digit
  cases digit

/-- The only text of one character that begins with a character is that character. -/
theorem eq_of_ofList_cons_eq_singleton {c : Char} {rest : List Char}
    (same : String.ofList (c :: rest) = String.singleton first) : c = first ∧ rest = [] := by
  have letters := congrArg String.toList same
  rw [String.toList_ofList] at letters
  simpa using letters

/-! ## What one step finds -/

section Found

variable {c : Char} {rest : List Char}

/-- A number is read up to the first character that does not belong to it. -/
theorem begins_number (digit : isDigit c = true) :
    Begins (c :: rest) (.token ⟨.number, String.ofList (c :: rest.takeWhile isNumberPart)⟩
      (rest.dropWhile isNumberPart)) := by
  refine .token ?_ (.numeral ?_)
    ⟨fun _ worded => ?_, fun _ => ?_, fun _ first single second _ => ?_⟩
  · rw [Token.spelling, if_neg TokenKind.noConfusion, String.toList_ofList, cons_append,
      takeWhile_append_dropWhile]
  · simp only [isNumeral, String.toList_ofList, digit, Bool.true_and, all_eq_true]
    exact fun part mem => mem_takeWhile_imp mem
  · rw [isWord_ofList_cons, isWordStart_eq_false_of_isDigit digit] at worded
    cases worded
  · exact head?_dropWhile_eq_false isNumberPart rest
  · obtain ⟨rfl, _⟩ := eq_of_ofList_cons_eq_singleton single
    exact pairKind?_eq_none (not_mem_signStarts_of_isDigit digit) second

/-- A word is a keyword or a name. -/
theorem lexical_word (worded : isWord word = true) :
    Token.Lexical ⟨wordKind word, word⟩ ∧ wordKind word ≠ .string ∧ wordKind word ≠ .number := by
  rw [wordKind]
  cases found : keywords.lookup word with
  | none =>
    have named : isName word = true := by simp [isName, worded, found]
    exact ⟨.name named, by decide, by decide⟩
  | some k =>
    obtain ⟨_, _, split, _⟩ := lookup_eq_some_iff.mp found
    have listed : (word, k) ∈ keywords := split ▸ mem_append_right _ mem_cons_self
    exact ⟨.keyword listed, (keyword_word listed).2.2, keyword_ne_number listed⟩

/-- A word is read up to the first character that does not belong to it. -/
theorem begins_word (start : isWordStart c = true) :
    Begins (c :: rest) (.token ⟨wordKind (String.ofList (c :: rest.takeWhile isWordPart)),
      String.ofList (c :: rest.takeWhile isWordPart)⟩ (rest.dropWhile isWordPart)) := by
  have worded : isWord (String.ofList (c :: rest.takeWhile isWordPart)) = true := by
    simp only [isWord_ofList_cons, start, Bool.true_and, all_eq_true]
    exact fun part mem => mem_takeWhile_imp mem
  obtain ⟨lexical, noString, noNumber⟩ := lexical_word worded
  refine .token ?_ lexical ⟨fun _ _ => ?_, fun number => absurd number noNumber,
    fun _ first single second _ => ?_⟩
  · rw [Token.spelling, if_neg noString, String.toList_ofList, cons_append,
      takeWhile_append_dropWhile]
  · exact head?_dropWhile_eq_false isWordPart rest
  · obtain ⟨rfl, _⟩ := eq_of_ofList_cons_eq_singleton single
    exact pairKind?_eq_none (not_mem_signStarts_of_isWordStart start) second

/-- A string is read up to its closing quote. -/
theorem begins_string (closed : closeString? rest = some (content, others)) :
    Begins ('"' :: rest) (.token ⟨.string, String.ofList content⟩ others) := by
  obtain ⟨rfl, _⟩ := closeString?_eq_some closed
  refine .token ?_ (.string ?_) ⟨fun noString => absurd rfl noString, nofun,
    fun noString => absurd rfl noString⟩
  · rw [Token.spelling, if_pos rfl, String.toList_ofList, cons_append, append_assoc]
    rfl
  · rwa [String.toList_ofList]

/-- A sign of two characters is read where it stands. -/
theorem begins_pair (pair : pairKind? c second = some k) :
    Begins (c :: second :: rest) (.token ⟨k, String.ofList [c, second]⟩ rest) := by
  have start := (signStart_excludes (mem_signStart_of_pairKind? pair)).2.2.2.2.2
  refine .token ?_ (.pair pair) ⟨fun _ worded => ?_, fun number => ?_, fun _ first single => ?_⟩
  · rw [Token.spelling, if_neg (pairKind?_ne_string pair), String.toList_ofList]
    rfl
  · rw [isWord_ofList_cons, start] at worded
    cases worded
  · exact absurd number (pairKind?_ne_number pair)
  · cases (eq_of_ofList_cons_eq_singleton single).2

/-- A sign of one character is read where no sign of two characters stands. -/
theorem begins_sign (sign : signKind? c = some k)
    (single : ∀ second ∈ rest.head?, pairKind? c second = none) :
    Begins (c :: rest) (.token ⟨k, String.singleton c⟩ rest) := by
  have start := (signStart_excludes (mem_signStart_of_signKind? sign)).2.2.2.2.2
  refine .token ?_ (.sign sign) ⟨fun _ worded => ?_, fun number => ?_, fun _ first same => ?_⟩
  · rw [Token.spelling, if_neg (signKind?_ne_string sign), String.toList_singleton]
    rfl
  · rw [String.singleton_eq_ofList, isWord_ofList_cons, start] at worded
    cases worded
  · exact absurd number (signKind?_ne_number sign)
  · obtain rfl : c = first := by simpa using congrArg String.toList same
    exact single

theorem begins_readSign? (read : readSign? c rest = some (tok, others)) :
    Begins (c :: rest) (.token tok others) := by
  cases rest with
  | nil =>
    obtain ⟨k, sign, same⟩ := Option.map_eq_some_iff.mp read
    cases same
    exact begins_sign sign (by simp)
  | cons =>
    simp only [readSign?] at read
    split at read
    · rename_i k pair
      cases read
      exact begins_pair pair
    · rename_i noPair
      obtain ⟨k, sign, same⟩ := Option.map_eq_some_iff.mp read
      cases same
      exact begins_sign sign (by simpa using noPair)

/-- A character that begins no class of tokens begins no token. -/
theorem not_prefix_of_excluded (noString : c ≠ '"') (noDigit : isDigit c = false)
    (noSign : readSign? c rest = none) (noWord : isWordStart c = false) (tok : Token)
    (lexical : tok.Lexical) : ¬ tok.spelling <+: c :: rest := by
  rintro ⟨after, spelled⟩
  have word : ∀ {s : String} {k : TokenKind}, isWord s = true → k ≠ .string →
      (Token.mk k s).spelling ++ after ≠ c :: rest := by
    intro s k worded noString same
    rw [Token.spelling, if_neg noString] at same
    unfold isWord at worded
    split at worded
    · cases worded
    · rename_i first others letters
      rw [letters] at same
      cases same
      simp [noWord] at worded
  cases lexical with
  | keyword listed =>
    obtain ⟨worded, _, plain⟩ := keyword_word listed
    exact word worded plain spelled
  | name named =>
    rw [isName, Bool.and_eq_true] at named
    exact word named.1 TokenKind.noConfusion spelled
  | numeral numeral =>
    rw [Token.spelling] at spelled
    unfold isNumeral at numeral
    split at numeral
    · cases numeral
    · rename_i first others letters
      rw [letters] at spelled
      cases spelled
      simp [noDigit] at numeral
  | string =>
    rw [Token.spelling] at spelled
    cases spelled
    exact noString rfl
  | sign sign =>
    rw [Token.spelling, if_neg (signKind?_ne_string sign), String.toList_singleton] at spelled
    cases spelled
    unfold readSign? at noSign
    simp only [sign, Option.map_some] at noSign
    split at noSign
    · cases noSign
    · split at noSign <;> cases noSign
  | pair pair =>
    rw [Token.spelling, if_neg (pairKind?_ne_string pair), String.toList_ofList] at spelled
    cases spelled
    simp [readSign?, pair] at noSign

/-- A comment is passed over up to the next line break. -/
theorem begins_comment : Begins ('#' :: rest) (.pass 0 (rest.dropWhile (· ≠ '\n'))) := by
  have cut : Begins ('#' :: (rest.takeWhile (· ≠ '\n') ++ rest.dropWhile (· ≠ '\n')))
      (.pass 0 (rest.dropWhile (· ≠ '\n'))) := by
    refine .comment (fun mem => ?_) fun first mem => ?_
    · simpa using mem_takeWhile_imp mem
    · simpa using head?_dropWhile_eq_false (· ≠ '\n') rest first mem
  rwa [takeWhile_append_dropWhile] at cut

/-- One step finds what stands at the start of a text. -/
theorem begins_readStart (s : List Char) : Begins s (readStart s) := by
  cases s with
  | nil => exact .finish
  | cons c rest =>
    rw [readStart]
    by_cases newline : c = '\n'
    · have blank : isBlank c = true := by
        rw [newline]
        decide +kernel
      simpa [newline] using Begins.blank rest blank
    rw [if_neg newline]
    by_cases blank : isBlank c = true
    · simpa [newline, blank] using Begins.blank rest blank
    rw [if_neg blank]
    by_cases comment : c = '#'
    · rw [comment]
      exact begins_comment
    rw [if_neg comment]
    by_cases quote : c = '"'
    · rw [quote]
      cases closed : closeString? rest with
      | none => exact .fault (.unclosed (closeString?_eq_none.1 closed))
      | some => exact begins_string closed
    rw [if_neg quote]
    by_cases digit : isDigit c = true
    · rw [if_pos digit]
      exact begins_number digit
    rw [if_neg digit]
    cases sign : readSign? c rest with
    | some => exact begins_readSign? sign
    | none =>
      by_cases start : isWordStart c = true
      · simpa only [start, if_true] using begins_word start
      · simp only [start]
        rw [Bool.not_eq_true] at blank digit start
        exact .fault (.illegal blank comment quote
          (not_prefix_of_excluded quote digit sign start))

end Found

/-- **One step of reading** does what stands at the start of the text, and nothing else. -/
theorem readStart_eq_iff {s : List Char} {start : Start} :
    readStart s = start ↔ Begins s start := by
  constructor
  · rintro rfl
    exact begins_readStart s
  · intro begins
    cases begins with
    | finish => rfl
    | @blank c rest blank =>
      by_cases newline : c = '\n'
      · simp [readStart, newline]
      · simp [readStart, newline, blank]
    | @comment words rest inLine ends =>
      have blank : isBlank '#' = false := isBlank_eq_false_of_visible (by decide) (by decide)
      have left := dropWhile_comment inLine ends
      simp [readStart, blank] at left ⊢
      exact left
    | token spelled lexical ends =>
      rw [spelled]
      exact readStart_spelling lexical ends
    | fault unreadable =>
      cases unreadable with
      | unclosed unclosed =>
        have blank : isBlank '"' = false := isBlank_eq_false_of_visible (by decide) (by decide)
        simp [readStart, blank, closeString?_eq_none.2 unclosed]
      | @illegal c rest noBlank noComment noString noToken =>
        -- Whatever else the step could find is excluded by one of the four conditions.
        have found := begins_readStart (c :: rest)
        generalize readStart (c :: rest) = start at found
        cases found with
        | blank _ blank => exact absurd blank (by simp [noBlank])
        | comment => exact absurd rfl noComment
        | token spelled lexical => exact absurd ⟨_, spelled.symm⟩ (noToken _ lexical)
        | fault other =>
          cases other with
          | unclosed => exact absurd rfl noString
          | illegal => rfl

/-! ## Whole texts -/

/-- The fault that reading ended with, if there was one. -/
def Ending.fault? : Ending → Option LexicalFault
  | .finished _ _ => none
  | .broken fault _ _ => some fault

/-- Reading stops in front of the rest: at the end of the text, or because of a fault. -/
def StopsAt : Option LexicalFault → List Char → Prop
  | none, rest => rest = []
  | some fault, rest => Unreadable fault rest

/-- The text consists of the tokens up to a place at which reading stops. -/
def Reads (ts : List Token) (outcome : Option LexicalFault) (text : List Char) : Prop :=
  ∃ rest, Consists ts text rest ∧ StopsAt outcome rest

section Reads

variable {ts : List Token} {o : Option LexicalFault} {s after : List Char}

/-- A gap that is not empty is passed over step by step. -/
theorem Gap.eq_nil_or_pass {gap rest : List Char} (isGap : Gap gap rest) :
    gap = [] ∨ ∃ lines later, readStart (gap ++ rest) = .pass lines (later ++ rest) ∧
      Gap later rest := by
  cases isGap with
  | none => exact .inl rfl
  | blank blank more => exact .inr ⟨_, _, readStart_eq_iff.2 (.blank _ blank), more⟩
  | @comment words gap _ inLine ends more =>
    refine .inr ⟨0, gap, ?_, more⟩
    rw [cons_append, append_assoc]
    exact readStart_eq_iff.2 (.comment inLine ends)

/-- What a step passes over belongs to the gap at the start of the text. -/
theorem Gap.of_pass (read : readStart s = .pass lines after) :
    ∃ passed, s = passed ++ after ∧ passed ≠ [] ∧
      ∀ gap rest, after = gap ++ rest → Gap gap rest → Gap (passed ++ gap) rest := by
  cases readStart_eq_iff.1 read with
  | @blank c _ blank => exact ⟨[c], rfl, by simp, fun gap rest _ more => .blank blank more⟩
  | @comment words _ inLine ends =>
    refine ⟨'#' :: words, rfl, by simp, fun gap rest same more => ?_⟩
    exact .comment inLine (same ▸ ends) more

theorem Reads.of_pass (read : readStart s = .pass lines after)
    (reads : Reads ts o after) : Reads ts o s := by
  obtain ⟨passed, rfl, _, extend⟩ := Gap.of_pass read
  obtain ⟨rest, consists, stops⟩ := reads
  refine ⟨rest, ?_, stops⟩
  cases ts with
  | nil =>
    obtain ⟨gap, same, isGap⟩ := consists
    exact ⟨passed ++ gap, by rw [same, append_assoc], extend gap rest same isGap⟩
  | cons =>
    obtain ⟨gap, later, same, isGap, others⟩ := consists
    exact ⟨passed ++ gap, later, by rw [same, append_assoc], extend _ _ same isGap, others⟩

theorem Reads.of_token (read : readStart s = .token tok after)
    (reads : Reads ts o after) : Reads (tok :: ts) o s := by
  cases readStart_eq_iff.1 read with
  | token spelled lexical ends =>
    obtain ⟨rest, consists, stops⟩ := reads
    exact ⟨rest, ⟨[], after, spelled, .none _, lexical, ends, consists⟩, stops⟩

theorem Reads.of_stopsAt (stops : StopsAt o s) : Reads [] o s :=
  ⟨s, ⟨[], rfl, .none s⟩, stops⟩

/-- How a text that consists of the tokens goes on after one step: a part of the gap in front of
them is passed over, or the first of them is read, or reading stops. -/
def Start.GoesOn (ts : List Token) (outcome : Option LexicalFault) : Start → Prop
  | .pass _ after => Reads ts outcome after
  | .token first after => ∃ others, ts = first :: others ∧ Reads others outcome after
  | .fault cause => ts = [] ∧ outcome = some cause
  | .finish => ts = [] ∧ outcome = none

theorem Reads.goesOn (reads : Reads ts o s) : (readStart s).GoesOn ts o := by
  obtain ⟨rest, consists, stops⟩ := reads
  cases ts with
  | nil =>
    obtain ⟨gap, rfl, isGap⟩ := consists
    rcases isGap.eq_nil_or_pass with rfl | ⟨lines, later, read, more⟩
    · cases o with
      | none =>
        obtain rfl : rest = [] := stops
        exact ⟨rfl, rfl⟩
      | some fault =>
        rw [nil_append, readStart_eq_iff.2 (.fault stops)]
        exact ⟨rfl, rfl⟩
    · rw [read]
      exact ⟨rest, ⟨later, rfl, more⟩, stops⟩
  | cons _ ts =>
    obtain ⟨gap, after, rfl, isGap, lexical, ends, others⟩ := consists
    rcases isGap.eq_nil_or_pass with rfl | ⟨lines, later, read, more⟩
    · rw [nil_append, readStart_spelling lexical ends]
      exact ⟨ts, rfl, rest, others, stops⟩
    · rw [read]
      exact ⟨rest, ⟨later, after, rfl, more, lexical, ends, others⟩, stops⟩

theorem reads_iff_goesOn : Reads ts o s ↔ (readStart s).GoesOn ts o := by
  refine ⟨Reads.goesOn, fun goesOn => ?_⟩
  cases read : readStart s with
  | pass =>
    rw [read] at goesOn
    exact .of_pass read goesOn
  | token =>
    rw [read] at goesOn
    obtain ⟨_, rfl, reads⟩ := goesOn
    exact .of_token read reads
  | fault fault =>
    rw [read] at goesOn
    obtain ⟨rfl, rfl⟩ := goesOn
    cases readStart_eq_iff.1 read with
    | fault unreadable => exact .of_stopsAt unreadable
  | finish =>
    rw [read] at goesOn
    obtain ⟨rfl, rfl⟩ := goesOn
    cases readStart_eq_iff.1 read
    exact .of_stopsAt rfl

end Reads

/-- Every step that does not stop shortens the text. -/
theorem length_lt_of_readStart {s after : List Char}
    (read : (∃ lines, readStart s = .pass lines after) ∨
      ∃ tok, readStart s = .token tok after) : after.length < s.length := by
  rcases read with ⟨lines, read⟩ | ⟨tok, read⟩
  · obtain ⟨_, rfl, nonempty, _⟩ := Gap.of_pass read
    have := length_pos_iff.mpr nonempty
    rw [length_append]
    omega
  · cases readStart_eq_iff.1 read with
    | token spelled lexical =>
      have := length_pos_iff.mpr (spelling_ne_nil lexical)
      rw [spelled, length_append]
      omega

/-- **Reading a text** gives the tokens that it consists of, and stops where they end. The induction
is on the number of steps, of which there are enough because each one shortens the text. -/
theorem scan_reads_iff : ∀ (fuel line stop : Nat) (s : List Char) (ts : List Token)
    (o : Option LexicalFault), s.length < fuel →
      ((scan fuel line stop s).tokens = ts ∧
        (scan fuel line stop s).ending.fault? = o ↔ Reads ts o s)
  | 0, _, _, _, _, _, enough => absurd enough (Nat.not_lt_zero _)
  | fuel + 1, line, stop, s, ts, o, enough => by
    rw [reads_iff_goesOn, scan]
    cases read : readStart s with
    | finish => exact and_congr eq_comm eq_comm
    | fault fault => cases fault <;> exact and_congr eq_comm eq_comm
    | pass lines after =>
      have shorter := length_lt_of_readStart (.inl ⟨lines, read⟩)
      exact scan_reads_iff fuel _ _ after ts o (by omega)
    | token tok after =>
      have shorter := length_lt_of_readStart (.inr ⟨tok, read⟩)
      have following := fun others =>
        scan_reads_iff fuel line (stop + (s.length - after.length)) after others o
          (by omega)
      constructor
      · rintro ⟨rfl, rfl⟩
        exact ⟨_, rfl, (following _).mp ⟨rfl, rfl⟩⟩
      · rintro ⟨others, rfl, reads⟩
        obtain ⟨rfl, rfl⟩ := (following others).mpr reads
        exact ⟨rfl, rfl⟩

theorem ofText_reads_iff (s : String) (ts : List Token) (o : Option LexicalFault) :
    (Source.ofText s).tokens = ts ∧ (Source.ofText s).ending.fault? = o ↔ Reads ts o s.toList := by
  refine scan_reads_iff _ 1 0 s.toList ts o ?_
  exact Nat.lt_succ_self _

theorem fault?_eq_none_iff (e : Ending) :
    e.fault? = none ↔ ∃ line stop, e = .finished line stop := by
  cases e <;> simp [Ending.fault?]

theorem fault?_eq_some_iff (e : Ending) (fault : LexicalFault) :
    e.fault? = some fault ↔ ∃ line stop, e = .broken fault line stop := by
  cases e <;> simp [Ending.fault?]

/-- **What a text is read as.** Reading comes to the end of a text with some tokens just if the text
consists of them: nothing is lost but gaps, and no token is followed by a character that belongs to
it. Reading breaks after some tokens just if the text consists of them up to a place where a string
is not closed or no token begins. -/
theorem ofText_consists_iff (text : String) (tokens : List Token) :
    let source := Source.ofText text
    (source.tokens = tokens ∧ (∃ line stop, source.ending = .finished line stop) ↔
      Consists tokens text.toList []) ∧
    ∀ fault, source.tokens = tokens ∧ (∃ line stop, source.ending = .broken fault line stop) ↔
      ∃ rest, Consists tokens text.toList rest ∧ Unreadable fault rest := by
  intro source
  constructor
  · rw [← fault?_eq_none_iff, ofText_reads_iff]
    constructor
    · rintro ⟨rest, consists, rfl⟩
      exact consists
    · intro consists
      exact ⟨[], consists, rfl⟩
  · intro fault
    rw [← fault?_eq_some_iff]
    exact ofText_reads_iff text tokens (some fault)

/-! ## Tokens that can be read -/

theorem Consists.lexical : ∀ {ts : List Token} {s rest : List Char},
    Consists ts s rest → ∀ tok ∈ ts, tok.Lexical
  | [], _, _, _ => by simp
  | first :: ts, _, _, ⟨_, _, _, _, lexical, _, others⟩ => by
    rw [forall_mem_cons]
    exact ⟨lexical, others.lexical⟩

/-- Whatever is read from a text is lexical. -/
theorem lexical_of_mem_tokens {s : String}
    (mem : tok ∈ (Source.ofText s).tokens) : tok.Lexical := by
  obtain ⟨_, consists, _⟩ := (ofText_reads_iff s _ _).mp ⟨rfl, rfl⟩
  exact consists.lexical tok mem

/-- **Which tokens are read back.** Tokens that are written with a blank between them are read back,
up to the end of the text, just if all of them are lexical, and these are just the tokens that are
read from some text. -/
theorem ofText_spaced_iff (tokens : List Token) :
    let source := Source.ofText (String.ofList (spaced tokens))
    ((∀ token ∈ tokens, token.Lexical) ↔
      source.tokens = tokens ∧ ∃ line stop, source.ending = .finished line stop) ∧
    ((∀ token ∈ tokens, token.Lexical) ↔ ∃ text, (Source.ofText text).tokens = tokens) := by
  intro source
  have readBack : (∀ token ∈ tokens, token.Lexical) →
      source.tokens = tokens ∧ ∃ line stop, source.ending = .finished line stop := by
    intro lexical
    obtain ⟨lexemes, line, stop, read, spelled⟩ := ofText_spaced tokens lexical
    have same : source = ⟨lexemes, .finished line stop⟩ := read
    rw [same]
    exact ⟨spelled, line, stop, rfl⟩
  have lexical : ∀ text, (Source.ofText text).tokens = tokens →
      ∀ token ∈ tokens, token.Lexical := by
    rintro text rfl token member
    exact lexical_of_mem_tokens member
  exact ⟨⟨readBack, fun read => lexical _ read.1⟩,
    fun all => ⟨_, (readBack all).1⟩, fun ⟨text, read⟩ => lexical text read⟩

end DeviceScript.Script
