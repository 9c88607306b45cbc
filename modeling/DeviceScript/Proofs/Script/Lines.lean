import DeviceScript.Proofs.Script.Lexing

/-!
# The lines of a text

Reading counts the line breaks that it passes over, but not those inside of strings. So the line on
which reading stands is behind by the line breaks in the strings that were read before
(`readFrom_consists`). Where a text breaks off, that decides about the line that is told
(`exists_breaksBehind`).

Texts are put together line by line: two texts with a line break between them are read as the first
one and then the second one, if the first one is read to its end. What is told about the second one
is moved by the lines and characters of the first (`ofText_joined`). A token, a comment or a gap
that ends with the text ends in front of a line break in the same way, which is seen for one step of
reading (`readStart_append_pass`, `readStart_append_token`) and goes on step by step.
-/

namespace DeviceScript.Script

open List DeviceScript.Text

variable {token tok : Token} {fault : LexicalFault} {gap front : List Char}

/-! ## Reading without a bound -/

/-- Reads a text, of which `line` and `stop` tell what was read before it. -/
def readFrom (line stop : Nat) (text : List Char) : Source := scan (text.length + 1) line stop text

/-- Puts lexemes in front. -/
def Source.after (source : Source) (ls : List Lexeme) : Source :=
  { source with lexemes := ls ++ source.lexemes }

/-- Steps that are left over change nothing. -/
theorem scan_congr : ∀ (fuel other line stop : Nat) (s : List Char), s.length < fuel →
    s.length < other → scan fuel line stop s = scan other line stop s
  | 0, _, _, _, _, enough, _ => absurd enough (Nat.not_lt_zero _)
  | _, 0, _, _, _, _, enough => absurd enough (Nat.not_lt_zero _)
  | fuel + 1, other + 1, line, stop, s, enough, enough' => by
    rw [scan, scan]
    cases read : readStart s with
    | finish => rfl
    | fault fault => cases fault <;> rfl
    | pass lines rest =>
      have shorter := length_lt_of_readStart (.inl ⟨lines, read⟩)
      exact scan_congr fuel other _ _ rest (by omega) (by omega)
    | token tok rest =>
      have shorter := length_lt_of_readStart (.inr ⟨tok, read⟩)
      dsimp only
      rw [scan_congr fuel other _ _ rest (by omega) (by omega)]

theorem ofText_eq_readFrom (s : String) : Source.ofText s = readFrom 1 0 s.toList := by
  rw [Source.ofText, readFrom, String.length_toList]

section Steps

variable {line stop : Nat} {s rest : List Char}

theorem readFrom_pass {lines : Nat} (read : readStart s = .pass lines rest) :
    readFrom line stop s = readFrom (line + lines) (stop + (s.length - rest.length)) rest := by
  have shorter := length_lt_of_readStart (.inl ⟨lines, read⟩)
  rw [readFrom, scan, read]
  exact scan_congr _ _ _ _ rest (by omega) (by omega)

theorem readFrom_token (read : readStart s = .token tok rest) : readFrom line stop s =
      (readFrom line (stop + (s.length - rest.length)) rest).after
        [⟨tok, line, stop + (s.length - rest.length)⟩] := by
  have shorter := length_lt_of_readStart (.inr ⟨tok, read⟩)
  rw [readFrom, scan, read]
  dsimp only
  rw [scan_congr s.length (rest.length + 1) _ _ rest (by omega) (by omega)]
  rfl

/-- The place that is told of a fault: an unclosed string has none. -/
def LexicalFault.place (stop : Nat) : LexicalFault → Option Nat
  | .unclosedString => none
  | .illegalCharacter _ => some stop

theorem readFrom_unreadable (unreadable : Unreadable fault s) :
    readFrom line stop s = ⟨[], .broken fault line (fault.place stop)⟩ := by
  rw [readFrom, scan, readStart_eq_iff.mpr (.fault unreadable)]
  cases fault <;> rfl

end Steps

/-! ## Counting line breaks -/

/-- The line breaks inside of the strings among some tokens. -/
def breaksInStrings : List Token → Nat
  | [] => 0
  | tok :: ts =>
    (if tok.kind = .string then tok.text.toList.count '\n' else 0) + breaksInStrings ts

theorem isWordPart_of_isWord {s : String} (worded : isWord s = true) :
    ∀ c ∈ s.toList, isWordStart c = true ∨ isWordPart c = true := by
  unfold isWord at worded
  split at worded
  · cases worded
  · rename_i first others letters
    rw [Bool.and_eq_true, all_eq_true] at worded
    rw [letters, forall_mem_cons]
    exact ⟨.inl worded.1, fun c mem => .inr (worded.2 c mem)⟩

theorem isNumberPart_of_isNumeral {s : String} (numeral : isNumeral s = true) :
    ∀ c ∈ s.toList, isDigit c = true ∨ isNumberPart c = true := by
  unfold isNumeral at numeral
  split at numeral
  · cases numeral
  · rename_i first others letters
    rw [Bool.and_eq_true, all_eq_true] at numeral
    rw [letters, forall_mem_cons]
    exact ⟨.inl numeral.1, fun c mem => .inr (numeral.2 c mem)⟩

/-- Only a string can have line breaks in it. -/
theorem not_mem_of_lexical (lexical : tok.Lexical)
    (plain : tok.kind ≠ .string) : '\n' ∉ tok.text.toList := by
  have word : ∀ {s : String}, isWord s = true → '\n' ∉ s.toList := by
    intro s worded mem
    exact absurd (isWordPart_of_isWord worded _ mem) (by decide +kernel)
  cases lexical with
  | keyword listed => exact word (keyword_word listed).1
  | name named =>
    rw [isName, Bool.and_eq_true] at named
    exact word named.1
  | numeral numeral =>
    intro mem
    exact absurd (isNumberPart_of_isNumeral numeral _ mem) (by decide)
  | string => exact absurd rfl plain
  | sign sign =>
    have visible := (signStart_excludes (mem_signStart_of_signKind? sign)).1
    rw [String.toList_singleton, mem_singleton]
    exact visible.symm
  | @pair first second k pair =>
    have visible := (signStart_excludes (mem_signStart_of_pairKind? pair)).1
    have equals : second = '=' := by
      by_contra other
      simp [pairKind?, other] at pair
    rw [String.toList_ofList, equals, mem_cons, not_or]
    exact ⟨visible.symm, by decide⟩

theorem count_spelling (lexical : tok.Lexical) : tok.spelling.count '\n' =
      if tok.kind = .string then tok.text.toList.count '\n' else 0 := by
  rw [Token.spelling]
  split
  · simp
  · rename_i plain
    exact count_eq_zero.mpr (not_mem_of_lexical lexical plain)

/-- A gap is passed over, and its line breaks are counted. -/
theorem readFrom_gap {rest : List Char} (isGap : Gap gap rest) : ∀ line stop,
    readFrom line stop (gap ++ rest) =
      readFrom (line + gap.count '\n') (stop + gap.length) rest := by
  induction isGap with
  | none => exact fun _ _ => rfl
  | @blank c gap rest blank more ih =>
    intro line stop
    rw [cons_append, readFrom_pass (readStart_eq_iff.mpr (.blank _ blank)), ih]
    congr 1
    · by_cases newline : c = '\n'
      · simp [newline]
        omega
      · simp [newline]
    · simp only [length_cons, length_append]
      omega
  | @comment words gap rest inLine ends more ih =>
    intro line stop
    have read : readStart ('#' :: (words ++ (gap ++ rest))) = .pass 0 (gap ++ rest) :=
      readStart_eq_iff.mpr (.comment inLine ends)
    rw [cons_append, append_assoc, readFrom_pass read, ih, count_cons,
      count_append, count_eq_zero.mpr inLine]
    congr 1
    · simp
    · simp only [length_cons, length_append]
      omega

/-- **The line of a place.** A text that consists of some tokens up to a place is read as them, and
reading then stands on the line that the line breaks before that place make, but for those inside of
strings. -/
theorem readFrom_consists : ∀ (ts : List Token) {s rest : List Char},
    Consists ts s rest → ∀ line stop, ∃ ls line' stop',
      ls.map (·.token) = ts ∧
      readFrom line stop s = (readFrom line' stop' rest).after ls ∧
      line' + breaksInStrings ts + rest.count '\n' = line + s.count '\n' ∧
      stop' + rest.length = stop + s.length
  | [], _, rest, ⟨gap, same, isGap⟩, line, stop => by
    refine ⟨[], line + gap.count '\n', stop + gap.length, rfl, ?_, ?_, ?_⟩
    · rw [same]
      exact readFrom_gap isGap line stop
    · rw [same, count_append, breaksInStrings]
      omega
    · rw [same, length_append]
      omega
  | tok :: ts, _, rest, ⟨gap, after, same, isGap, lexical, ends, others⟩, line, stop => by
    obtain ⟨ls, line', stop', spelled, read, lines, length⟩ :=
      readFrom_consists ts others (line + gap.count '\n')
        (stop + gap.length + ((tok.spelling ++ after).length - after.length))
    refine ⟨⟨tok, line + gap.count '\n',
      stop + gap.length + ((tok.spelling ++ after).length - after.length)⟩ :: ls,
      line', stop', ?_, ?_, ?_, ?_⟩
    · rw [map_cons, spelled]
    · rw [same, readFrom_gap isGap, readFrom_token (readStart_spelling lexical ends), read]
      rfl
    · rw [same, count_append, count_append, count_spelling lexical, breaksInStrings]
      omega
    · rw [length_append] at length
      rw [same, length_append, length_append]
      omega

/-! ## Where a text breaks off -/

/-- What is left of a text is its end. -/
theorem Consists.suffix : ∀ {ts : List Token} {s rest : List Char},
    Consists ts s rest → ∃ front, s = front ++ rest
  | [], _, _, ⟨gap, same, _⟩ => ⟨gap, same⟩
  | tok :: ts, _, _, ⟨gap, after, same, _, _, _, others⟩ => by
    obtain ⟨front, rfl⟩ := others.suffix
    refine ⟨gap ++ (tok.spelling ++ front), ?_⟩
    rw [same, append_assoc, append_assoc]

/-- Reading breaks behind the front part of a text: it consists of tokens up to the rest, which
begins with the character that no token can be read at. -/
def BreaksBehind (fault : LexicalFault) (front rest : List Char) : Prop :=
  Unreadable fault rest ∧ ∃ ts, Consists ts (front ++ rest) rest

/-- What is told of a text that breaks off. -/
theorem BreaksBehind.readFrom_eq {rest : List Char}
    (breaks : BreaksBehind fault front rest) (line stop : Nat) : ∃ ls line',
      readFrom line stop (front ++ rest) =
        ⟨ls, .broken fault line' (fault.place (stop + front.length))⟩ ∧
      line' + breaksInStrings (ls.map (·.token)) = line + front.count '\n' := by
  obtain ⟨unreadable, ts, consists⟩ := breaks
  obtain ⟨ls, line', stop', rfl, read, lines, length⟩ :=
    readFrom_consists ts consists line stop
  rw [count_append] at lines
  rw [length_append] at length
  have reached : stop' = stop + front.length := by omega
  refine ⟨ls, line', ?_, by omega⟩
  rw [read, readFrom_unreadable unreadable, Source.after, append_nil, reached]

/-- What no token can be read at stands at the end of a text in one place only. -/
theorem Unreadable.append_inj {front' rest rest' : List Char} (unreadable : Unreadable fault rest)
    (unreadable' : Unreadable fault rest') (same : front ++ rest = front' ++ rest')
    (place : fault.place front.length = fault.place front'.length) :
    front = front' ∧ rest = rest' := by
  cases unreadable with
  | illegal => exact append_inj same (Option.some.inj place)
  | unclosed unclosed =>
    cases unreadable' with
    | unclosed =>
      -- Behind the quote that is not closed there is no other quote.
      simp only [append_eq_append_iff, cons_eq_append_iff, List.cons.injEq] at same
      rcases same with ⟨_, rfl, ⟨rfl, -, rfl⟩ | ⟨_, rfl, rfl⟩⟩ |
        ⟨_, rfl, ⟨rfl, -, rfl⟩ | ⟨_, rfl, rfl⟩⟩ <;> simp_all

/-- A text breaks off in one way and at one place. -/
theorem BreaksBehind.unique {fault' : LexicalFault} {front' rest rest' : List Char}
    (breaks : BreaksBehind fault front rest) (breaks' : BreaksBehind fault' front' rest')
    (same : front ++ rest = front' ++ rest') : fault = fault' ∧ front = front' ∧ rest = rest' := by
  obtain ⟨_, _, read, -⟩ := breaks.readFrom_eq 1 0
  obtain ⟨_, _, read', -⟩ := breaks'.readFrom_eq 1 0
  rw [same, read'] at read
  obtain ⟨rfl, -, place⟩ := Ending.broken.inj (congrArg Source.ending read)
  rw [Nat.zero_add, Nat.zero_add] at place
  exact ⟨rfl, breaks.1.append_inj breaks'.1 same place.symm⟩

/-- **The line of a fault** is behind by the line breaks in the strings before it. -/
theorem exists_breaksBehind {s : String} {line : Nat}
    {stop : Option Nat} (broken : (Source.ofText s).ending = .broken fault line stop) :
    ∃ front rest, s.toList = front ++ rest ∧ BreaksBehind fault front rest ∧
      line + breaksInStrings (Source.ofText s).tokens = 1 + front.count '\n' ∧
      stop = fault.place front.length := by
  obtain ⟨rest, consists, unreadable⟩ := (ofText_reads_iff s _ (some fault)).mp
    ⟨rfl, (fault?_eq_some_iff _ fault).mpr ⟨line, stop, broken⟩⟩
  obtain ⟨front, letters⟩ := consists.suffix
  have breaks : BreaksBehind fault front rest := ⟨unreadable, _, letters ▸ consists⟩
  obtain ⟨ls, line', read, lines⟩ := breaks.readFrom_eq 1 0
  have whole : Source.ofText s = ⟨ls, .broken fault line' (fault.place front.length)⟩ := by
    rw [ofText_eq_readFrom, letters, read, Nat.zero_add]
  rw [whole] at broken
  cases broken
  exact ⟨front, rest, letters, breaks, by rw [whole]; exact lines, rfl⟩

/-- A text breaks off at a character just if that is what is told of it. -/
theorem breaksBehind_iff {s : String} {rest : List Char} (letters : s.toList = front ++ rest)
    (unreadable : Unreadable fault rest) : BreaksBehind fault front rest ↔
      ∃ line, (Source.ofText s).ending = .broken fault line (fault.place front.length) := by
  constructor
  · intro breaks
    obtain ⟨_, line, read, -⟩ := breaks.readFrom_eq 1 0
    refine ⟨line, ?_⟩
    rw [ofText_eq_readFrom, letters, read, Nat.zero_add]
  · rintro ⟨line, broken⟩
    obtain ⟨_, _, letters', breaks, -, place⟩ := exists_breaksBehind broken
    obtain ⟨rfl, rfl⟩ := unreadable.append_inj breaks.1 (letters.symm.trans letters') place
    exact breaks

/-! ## Texts with a line break between them -/

/-- A line break belongs to no token. -/
theorem Token.EndsBefore.append_line {rest : List Char} (ends : tok.EndsBefore rest)
    (more : List Char) : tok.EndsBefore (rest ++ '\n' :: more) := by
  cases rest with
  | cons => exact ⟨ends.word, ends.number, ends.sign⟩
  | nil =>
    refine ⟨fun _ _ => ?_, fun _ => ?_, fun _ c _ => ?_⟩ <;> rintro _ ⟨⟩
    · decide +kernel
    · decide
    · simp [pairKind?]

theorem readStart_append_pass {s rest : List Char} {lines : Nat}
    (read : readStart s = .pass lines rest) (more : List Char) :
    readStart (s ++ '\n' :: more) = .pass lines (rest ++ '\n' :: more) := by
  rw [readStart_eq_iff] at read ⊢
  cases read with
  | blank _ blank => exact .blank _ blank
  | @comment words rest inLine ends =>
    rw [cons_append, append_assoc]
    refine .comment inLine ?_
    cases rest with
    | nil => simp
    | cons => exact ends

theorem readStart_append_token {s rest : List Char} (read : readStart s = .token tok rest)
    (more : List Char) : readStart (s ++ '\n' :: more) = .token tok (rest ++ '\n' :: more) := by
  rw [readStart_eq_iff] at read ⊢
  cases read with
  | token spelled lexical ends =>
    refine .token ?_ lexical (ends.append_line more)
    rw [spelled, append_assoc]

/-- A text that is read to its end is read in the same way in front of a line break, and what
follows is read from the next line on. The induction is on the length of the text, which each step
shortens. -/
theorem readFrom_append_line (more : List Char) (length : Nat) : ∀ (s : List Char),
    s.length < length → ∀ (line stop line' stop' : Nat) (ls : List Lexeme),
      readFrom line stop s = ⟨ls, .finished line' stop'⟩ →
        readFrom line stop (s ++ '\n' :: more) =
          (readFrom (line' + 1) (stop' + 1) more).after ls := by
  induction length with
  | zero => exact fun _ enough => absurd enough (Nat.not_lt_zero _)
  | succ length ih =>
    intro s enough line stop line' stop' ls finished
    cases read : readStart s with
    | finish =>
      cases readStart_eq_iff.mp read
      cases finished
      have lineEnd : readStart ('\n' :: more) = .pass 1 more := by simp [readStart]
      rw [nil_append, readFrom_pass lineEnd, length_cons, Nat.add_sub_cancel_left]
      rfl
    | fault fault =>
      cases readStart_eq_iff.mp read with
      | fault unreadable =>
        rw [readFrom_unreadable unreadable] at finished
        cases finished
    | pass lines rest =>
      have shorter := length_lt_of_readStart (.inl ⟨lines, read⟩)
      rw [readFrom_pass read] at finished
      rw [readFrom_pass (readStart_append_pass read more), length_append,
        length_append, Nat.add_sub_add_right]
      exact ih rest (by omega) _ _ _ _ _ finished
    | token tok rest =>
      have shorter := length_lt_of_readStart (.inr ⟨tok, read⟩)
      rw [readFrom_token read] at finished
      rw [readFrom_token (readStart_append_token read more), length_append,
        length_append, Nat.add_sub_add_right]
      generalize following : readFrom line (stop + (s.length - rest.length)) rest = source
        at finished
      obtain ⟨_, _⟩ := source
      cases finished
      rw [ih rest (by omega) _ _ _ _ _ following]
      rfl

/-- Reading a text to its end, as what the text consists of. -/
theorem consists_of_finished {s : String} {line stop : Nat}
    (finished : (Source.ofText s).ending = .finished line stop) :
    Consists (Source.ofText s).tokens s.toList [] := by
  obtain ⟨_, consists, rfl⟩ := (ofText_reads_iff s _ none).mp
    ⟨rfl, (fault?_eq_none_iff _).mpr ⟨line, stop, finished⟩⟩
  exact consists

/-! ## Moving a text -/

def Lexeme.shift (lines characters : Nat) (lexeme : Lexeme) : Lexeme :=
  { lexeme with line := lexeme.line + lines, stop := lexeme.stop + characters }

def Ending.shift (lines characters : Nat) : Ending → Ending
  | .finished line stop => .finished (line + lines) (stop + characters)
  | .broken fault line stop => .broken fault (line + lines) (stop.map (· + characters))

/-- What a text is read as behind further lines and characters. -/
def Source.shift (lines characters : Nat) (source : Source) : Source :=
  ⟨source.lexemes.map (·.shift lines characters), source.ending.shift lines characters⟩

theorem scan_shift (lines characters fuel : Nat) : ∀ (line stop : Nat) (s : List Char),
    scan fuel (line + lines) (stop + characters) s =
      (scan fuel line stop s).shift lines characters := by
  induction fuel with
  | zero => exact fun _ _ _ => rfl
  | succ _ ih =>
    intro line stop s
    rw [scan, scan]
    cases readStart s with
    | finish => rfl
    | fault fault => cases fault <;> rfl
    | pass => rw [← ih, Nat.add_right_comm line, Nat.add_right_comm stop]
    | token =>
      dsimp only
      rw [Nat.add_right_comm stop, ih]
      rfl

theorem readFrom_shift (lines characters line stop : Nat) (s : List Char) :
    readFrom (line + lines) (stop + characters) s = (readFrom line stop s).shift lines characters :=
  scan_shift lines characters _ line stop s

theorem tokens_shift (lines characters : Nat) (source : Source) :
    (source.shift lines characters).tokens = source.tokens := by
  rw [Source.tokens, Source.shift, map_map]
  rfl

/-! ## Main statement -/

/-- Reading a text to its end reads all of its characters. -/
theorem stop_of_finished {s : String} {line stop : Nat}
    (finished : (Source.ofText s).ending = .finished line stop) : stop = s.length := by
  obtain ⟨ls, line', stop', -, read, -, length⟩ :=
    readFrom_consists _ (consists_of_finished finished) 1 0
  rw [ofText_eq_readFrom, read] at finished
  cases finished
  rw [length_nil, String.length_toList] at length
  omega

/-- A text in front of a line break is read as alone, and what follows is moved behind it. -/
theorem ofText_append_line {s : String} {line stop : Nat}
    (finished : (Source.ofText s).ending = .finished line stop) (more : String) :
    Source.ofText (s ++ "\n" ++ more) =
      ((Source.ofText more).shift line (s.length + 1)).after (Source.ofText s).lexemes := by
  have letters : (s ++ "\n" ++ more).toList = s.toList ++ '\n' :: more.toList := by
    simp [String.toList_append]
  have read : readFrom 1 0 s.toList = ⟨(Source.ofText s).lexemes, .finished line stop⟩ := by
    rw [← ofText_eq_readFrom, ← finished]
  rw [ofText_eq_readFrom, letters,
    readFrom_append_line more.toList _ s.toList (Nat.lt_succ_self _) _ _ _ _ _ read,
    ofText_eq_readFrom more, ← readFrom_shift, Nat.add_comm line, ← stop_of_finished finished,
    Nat.zero_add]

/-- The second of two texts breaks off just where it does alone. -/
theorem breaksBehind_append_line_iff {s : String} {line stop : Nat}
    (finished : (Source.ofText s).ending = .finished line stop) (fault : LexicalFault)
    (front rest : List Char) :
    BreaksBehind fault (s.toList ++ '\n' :: front) rest ↔ BreaksBehind fault front rest := by
  by_cases unreadable : Unreadable fault rest
  · have letters := String.toList_ofList (l := front ++ rest)
    have whole := ofText_append_line finished (String.ofList (front ++ rest))
    have letters' : (s ++ "\n" ++ String.ofList (front ++ rest)).toList =
        (s.toList ++ '\n' :: front) ++ rest := by simp [String.toList_append]
    rw [breaksBehind_iff letters' unreadable, breaksBehind_iff letters unreadable, whole]
    simp only [Source.after, Source.shift]
    cases (Source.ofText (String.ofList (front ++ rest))).ending with
    | finished => simp [Ending.shift]
    | broken _ _ stop' =>
      cases fault <;> cases stop' <;>
        simp [Ending.shift, LexicalFault.place, ← String.length_toList]
      omega
  · exact iff_of_false (fun breaks => unreadable breaks.1) fun breaks => unreadable breaks.1

/-- **Reading goes line by line.** If a text is read to its end, then it is read in the same way in
front of a line break and a second text, and the second text is read as it is read alone, with the
same tokens and the same end. All that is told of lines is larger by the line on which the first
text ended, and all that is told of places by the characters of the first text and the line break.
Reading breaks off at a character of the second text just if it does so alone. -/
theorem ofText_joined (first second : String) {line stop : Nat}
    (finished : (Source.ofText first).ending = .finished line stop) :
    let joined := Source.ofText (first ++ "\n" ++ second)
    joined.lexemes = (Source.ofText first).lexemes ++
      (Source.ofText second).lexemes.map (·.shift line (first.length + 1)) ∧
    joined.ending = (Source.ofText second).ending.shift line (first.length + 1) ∧
    joined.tokens = (Source.ofText first).tokens ++ (Source.ofText second).tokens ∧
    ∀ fault front rest, second.toList = front ++ rest →
      (BreaksBehind fault (first.toList ++ '\n' :: front) rest ↔
        BreaksBehind fault front rest) := by
  intro joined
  have read : joined =
      ((Source.ofText second).shift line (first.length + 1)).after (Source.ofText first).lexemes :=
    ofText_append_line finished second
  refine ⟨?_, ?_, ?_, ?_⟩
  · rw [read]
    rfl
  · rw [read]
    rfl
  · rw [read, ← tokens_shift line (first.length + 1) (Source.ofText second)]
    exact map_append
  · exact fun fault front rest _ => breaksBehind_append_line_iff finished fault front rest

/-- The first text ends in a comment, and has a string with a line break that is not counted; the
second one breaks off on its second line. -/
theorem ofText_joined_brokenSecond :
    let first := "print(\"a\nb\") # end"
    let second := "x\n\"y"
    (Source.ofText first).ending = .finished 1 18 ∧
    (Source.ofText second).ending = .broken .unclosedString 2 none ∧
    (Source.ofText (first ++ "\n" ++ second)).ending = .broken .unclosedString 3 none ∧
    BreaksBehind .unclosedString (first.toList ++ '\n' :: ['x', '\n']) ['"', 'y'] := by
  intro first second
  have finished : (Source.ofText first).ending = .finished 1 18 := by decide +kernel
  have broken : (Source.ofText second).ending = .broken .unclosedString 2 none := by decide +kernel
  obtain ⟨-, ending, -, place⟩ := ofText_joined first second finished
  have alone : BreaksBehind .unclosedString ['x', '\n'] ['"', 'y'] := by
    have bare : Token.EndsBefore ⟨.identifier, "x"⟩ [] := endsBefore_of_atGap _ (by simp [AtGap])
    refine ⟨.unclosed (by decide), [⟨.identifier, "x"⟩], [], ['\n', '"', 'y'], ?_, .none _, ?_,
      bare.append_line _, ['\n'], rfl, .blank (by decide +kernel) (.none _)⟩
    · decide
    · exact .name (by decide)
  refine ⟨finished, broken, ?_, (place _ _ _ (by decide)).mpr alone⟩
  rw [ending, broken]
  rfl

end DeviceScript.Script
