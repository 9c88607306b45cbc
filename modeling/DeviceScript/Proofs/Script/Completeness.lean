import DeviceScript.Proofs.Script.Lexing
import DeviceScript.Proofs.Script.Refusing
import DeviceScript.Proofs.Script.Taken

/-!
# Which texts are read as complete programs

Reading is meant to refuse every text that is not a program, with a failure of the script. It does
not. An operand that is left out is read as a tree with nothing in its place, a `dyn` with any other
right side is no statement at all, and a title without a text is refused with another failure.

Main statement: a text is read as a complete program exactly if its tokens are a phrase of the
grammar; and it is refused or complete, as it should be, exactly if no title without a text is met
and it is not read in spite of being no phrase (`ofText_refused_or_complete_iff`).
-/

namespace DeviceScript.Script

open List Reading Script.Tree Program

variable {α : Type}

namespace Program

/-- The whole text is read, and every statement is one of the language: nothing is missing in it. -/
def Complete (program : Program α) : Prop :=
  program.fault = none ∧ ∀ t ∈ program.statements, IsStatement t

/-- Reading ends with a failure of the script. -/
def Refused (program : Program α) : Prop :=
  ∃ e, program.fault = some (.failure e) ∧ e.kind = .script

theorem complete_cons_iff (t : Tree α) (program : Program α) :
    (cons t program).Complete ↔ IsStatement t ∧ program.Complete := by
  simp only [Complete, cons, forall_mem_cons]
  exact and_left_comm

end Program

/-- Reading is at the end of lexical tokens only where none is left. -/
theorem lexemes_eq_nil_of_atEnd {r : Reader}
    (lexical : ∀ lexeme ∈ r.source.lexemes, lexeme.token.Lexical)
    (atEnd : r.atEnd = true) : r.source.lexemes = [] := by
  obtain ⟨⟨ls, _⟩, _⟩ := r
  cases ls with
  | nil => rfl
  | cons lexeme =>
    have ends : lexeme.token.kind = .endOfText := of_decide_eq_true atEnd
    have keyword : ∀ e ∈ keywords, e.2 ≠ .endOfText := by decide
    have sign : ∀ other ∈ signTokens, other.kind ≠ .endOfText := by decide
    rcases lexical_cases (lexical lexeme (mem_cons_self ..)) with
      ⟨leaf, -⟩ | ⟨leaf, -⟩ | ⟨leaf, -⟩ | listed | listed
    · cases ends.symm.trans leaf
    · cases ends.symm.trans leaf
    · cases ends.symm.trans leaf
    · exact absurd ends (keyword _ listed)
    · exact absurd ends (sign _ listed)

def Reader.kinds (r : Reader) : List TokenKind :=
  r.source.lexemes.map (·.token.kind)

/-- What is read to its end comes to the end of the text, and it was a phrase if the statements it
is read as are all of the language. -/
theorem phrase_of_accepted (n : Nat) : ∀ r, r.source.fault? = none →
    (∀ lexeme ∈ r.source.lexemes, lexeme.token.Lexical) →
      (ofReader (α := α) n r).fault = none →
        r.source.ending.fault? = none ∧
          ((∀ statement ∈ (ofReader (α := α) n r).statements,
            IsStatement statement) → Phrase .statements r.kinds) := by
  induction n with
  | zero =>
    intro r sound lexical accepted
    cases accepted
  | succ _ ih =>
    intro r sound lexical accepted
    rw [ofReader] at accepted ⊢
    cases atEnd : r.atEnd with
    | true =>
      have none := lexemes_eq_nil_of_atEnd lexical atEnd
      rw [Reader.kinds, none]
      refine ⟨?_, fun _ => .noStatement⟩
      obtain ⟨⟨ls, e⟩, _⟩ := r
      cases none
      cases e with
      | finished => rfl
      | broken => cases sound
    | false =>
      rw [atEnd] at accepted
      rw [if_neg Bool.false_ne_true]
      rcases read : (statement).run.run r with ⟨_ | v, r'⟩
      · rw [read] at accepted
        cases accepted
      · rw [read] at accepted
        obtain ⟨goes, _, source, spells, -⟩ := took_statement r v r' read
        rw [source] at lexical
        obtain ⟨ends, more⟩ := ih r' (goes sound)
          (fun lexeme mem => lexical lexeme (mem_append_right _ mem)) accepted
        rw [Reader.kinds, source, map_append]
        refine ⟨ends, fun inStatements => ?_⟩
        dsimp only [Program.cons] at inStatements
        rw [forall_mem_cons] at inStatements
        exact .following (spells inStatements.1) (more inStatements.2)

/-- A phrase up to the end of the text is read as a complete program. The induction is on the number
of tokens, of which every statement takes some. -/
theorem complete_of_phrase (n : Nat) : ∀ (ls : List Lexeme) (e : Ending)
    (title : String), ls.length < n → e.fault? = none →
      (∀ lexeme ∈ ls, lexeme.token.Lexical) →
        Phrase .statements (ls.map (·.token.kind)) →
          (ofReader (α := α) n ⟨⟨ls, e⟩, title⟩).Complete := by
  induction n with
  | zero => exact fun _ _ _ enough => absurd enough (Nat.not_lt_zero _)
  | succ _ ih =>
    intro ls e title enough ends lexical phrase
    rw [ofReader]
    generalize spelled : ls.map (·.token.kind) = ks at phrase
    cases phrase with
    | noStatement =>
      rw [map_eq_nil_iff] at spelled
      subst spelled
      exact ⟨rfl, forall_mem_nil _⟩
    | following isFirst more =>
      obtain ⟨front, back, rfl, inFront, inBack⟩ := map_eq_append_iff.mp spelled
      obtain ⟨k, _, same, _, inside⟩ := statement_eq_cons isFirst
      rw [forall_mem_append] at lexical
      have begins : Reader.kind ⟨⟨front ++ back, e⟩, title⟩ = k := by
        rw [same] at inFront
        obtain ⟨lexeme, _, rfl, first, -⟩ := map_eq_cons_iff.mp inFront
        exact first
      have atEnd : Reader.atEnd ⟨⟨front ++ back, e⟩, title⟩ = false := by
        refine decide_eq_false fun ended => inside (.inr ?_)
        rw [← begins]
        exact ended
      have positive : 0 < front.length := by
        rw [← length_map (·.token.kind), inFront, same]
        exact Nat.succ_pos _
      have sound : Source.fault? ⟨back, e⟩ = none := by
        cases e with
        | finished => cases back <;> rfl
        | broken => cases ends
      have follows : afterStatement (Source.current ⟨back, e⟩).kind := by
        have spelled := spelled_tokens lexical.2
        rw [inBack] at spelled
        rw [← append_nil back, kind_current_append rfl]
        exact afterStatement_statements more spelled (.inr rfl)
      have spelled := spelled_tokens lexical.1
      rw [inFront] at spelled
      obtain ⟨_, isValue, reads⟩ := accepted_of_phrase isFirst spelled
      obtain ⟨later, read⟩ := reads.statement front back e title rfl sound follows
      rw [atEnd, read]
      rw [length_append] at enough
      refine (complete_cons_iff _ _).mpr ⟨isValue, ?_⟩
      exact ih back e later (by omega) ends lexical.2 (by rw [inBack]; exact more)

def Source.kinds (source : Source) : List TokenKind := source.tokens.map (·.kind)

theorem kinds_eq (source : Source) : source.kinds = source.lexemes.map (·.token.kind) :=
  map_map ..

theorem lexical_ofText (s : String) : ∀ lexeme ∈ (Source.ofText s).lexemes, lexeme.token.Lexical :=
  fun _ mem => lexical_of_mem_tokens (mem_map_of_mem mem)

/-- A text that is read to its end has no lexical fault, and it is a phrase if it is complete. -/
theorem phrase_of_accepted_ofText {s : String} (accepted : (ofText (α := α) s).fault = none) :
    (Source.ofText s).ending.fault? = none ∧
      ((∀ t ∈ (ofText (α := α) s).statements, IsStatement t) →
        Phrase .statements (Source.ofText s).kinds) := by
  have lexical := lexical_ofText s
  rw [kinds_eq]
  rw [ofText, Reader.ofText] at accepted ⊢
  generalize Source.ofText s = source at accepted lexical ⊢
  rcases sound : source.fault? with _ | _
  · rw [sound] at accepted
    exact phrase_of_accepted _ ⟨source, ""⟩ sound lexical accepted
  · rw [sound] at accepted
    cases accepted

/-- A phrase up to the end of the text is read as a complete program. -/
theorem complete_ofText_of_phrase {s : String} (ends : (Source.ofText s).ending.fault? = none)
    (phrase : Phrase .statements (Source.ofText s).kinds) : (ofText (α := α) s).Complete := by
  have lexical := lexical_ofText s
  rw [kinds_eq] at phrase
  have sound : (Source.ofText s).fault? = none := by
    obtain ⟨_, _, same⟩ := (fault?_eq_none_iff _).mp ends
    rw [Source.fault?, same]
    split
    · rename_i other
      cases other
    · rfl
  rw [ofText, Reader.ofText]
  generalize Source.ofText s = source at ends phrase lexical sound ⊢
  rw [sound]
  exact complete_of_phrase _ source.lexemes source.ending "" (Nat.lt_succ_self _) ends lexical
    phrase

/-- Reading the text comes to a title that has no text. -/
def MeetsUntitled (α : Type) (s : String) : Prop :=
  ∃ r r', Reader.ofText s = .ok r ∧ Arrives α r r' ∧ PartUntitled α .statement r'

theorem meetsUntitled_iff (s : String) :
    MeetsUntitled α s ↔ ∃ e, (ofText (α := α) s).fault = some (.failure e) ∧ e.kind ≠ .script := by
  rw [ofText, MeetsUntitled]
  rcases begun : Reader.ofText s with e | r
  · constructor
    · rintro ⟨_, _, same, _⟩
      cases same
    · rintro ⟨_, same, other⟩
      cases same
      rw [Reader.ofText] at begun
      split at begun
      · cases begun
      · cases begun
        exact absurd rfl other
  · refine Iff.trans ?_ (fault_ofReader_kind_iff r).symm
    constructor
    · rintro ⟨_, r', same, way⟩
      cases same
      exact ⟨r', way⟩
    · rintro ⟨r', way⟩
      exact ⟨r, r', rfl, way⟩

/-- **Which texts are refused or read as complete programs.** Where reading ends, a text is refused
with a failure of the script, or is read with nothing missing in any statement, exactly if no title
without a text is met in it and it is not read to its end without being a phrase of the grammar. A
text is read as a complete program exactly if it is such a phrase. -/
theorem ofText_refused_or_complete_iff (text : String)
    (ends : (ofText (α := α) text).fault ≠ some .endless) :
    let program : Program α := ofText text
    let source := Source.ofText text
    (program.Refused ∨ program.Complete ↔
      ¬ MeetsUntitled α text ∧ (program.fault = none → Phrase .statements source.kinds)) ∧
    (program.Complete ↔ source.ending.fault? = none ∧ Phrase .statements source.kinds) := by
  intro program source
  have complete : program.Complete ↔
      source.ending.fault? = none ∧ Phrase .statements source.kinds := by
    constructor
    · rintro ⟨accepted, inStatements⟩
      obtain ⟨ends, phrase⟩ := phrase_of_accepted_ofText accepted
      exact ⟨ends, phrase inStatements⟩
    · rintro ⟨ends, phrase⟩
      exact complete_ofText_of_phrase ends phrase
  refine ⟨⟨?_, ?_⟩, complete⟩
  · rintro (⟨failure, refused, script⟩ | whole)
    · refine ⟨fun meets => ?_, fun accepted => ?_⟩
      · obtain ⟨other, same, notScript⟩ := (meetsUntitled_iff text).mp meets
        rw [refused] at same
        cases same
        exact notScript script
      · rw [refused] at accepted
        cases accepted
    · refine ⟨fun meets => ?_, fun _ => (complete.mp whole).2⟩
      obtain ⟨other, same, -⟩ := (meetsUntitled_iff text).mp meets
      rw [whole.1] at same
      cases same
  · rintro ⟨titled, phrase⟩
    rcases fault : program.fault with _ | (failure | _)
    · exact .inr (complete.mpr ⟨(phrase_of_accepted_ofText fault).1, phrase fault⟩)
    · refine .inl ⟨failure, fault, Classical.byContradiction fun other => titled ?_⟩
      exact (meetsUntitled_iff text).mpr ⟨failure, fault, other⟩
    · exact absurd fault ends

/-- Commas may stand anywhere between items, and one behind the last argument. -/
theorem ofText_refused_or_complete_iff_looseCommas :
    let text := "dyn a = (1,, (b))\ncall f(a,)"
    (ofText (α := Unit) text).fault ≠ some .endless ∧
      (Source.ofText text).ending.fault? = none ∧
      Phrase .statements (Source.ofText text).kinds ∧
      (ofText (α := Unit) text).Complete := by
  intro text
  have ends : (ofText (α := Unit) text).fault ≠ some .endless := by decide +kernel
  have finished : (Source.ofText text).ending.fault? = none := by decide +kernel
  have phrase : Phrase .statements (Source.ofText text).kinds := by
    have kinds : (Source.ofText text).kinds =
        [.gather, .identifier, .equals, .openBracket, .number, .comma, .comma, .openBracket,
          .identifier, .closeBracket, .closeBracket, .call, .identifier, .openBracket,
          .identifier, .comma, .closeBracket] := by decide +kernel
    have name : Phrase .expression [.identifier] := .expression (.operand rfl) .noOperator
    have number : Phrase .expression [.number] := .expression (.operand rfl) .noOperator
    have inner : Phrase .items [.identifier] := .item rfl name .noItem
    have items : Phrase .items [.number, .comma, .comma, .openBracket, .identifier,
        .closeBracket] := .item rfl number (.comma (.comma (.list inner .noItem)))
    have arguments : Phrase .arguments [.identifier, .comma] := .argument name .noArgument
    rw [kinds]
    exact .following (.gatherList items) (.following (.call (.callee arguments)) .noStatement)
  have complete := (ofText_refused_or_complete_iff text ends).2.mpr ⟨finished, phrase⟩
  exact ⟨ends, finished, phrase, complete⟩

def assignsNothing : Tree α → Bool
  | .assign _ .missing => true
  | _ => false

theorem not_isStatement_of_assignsNothing {t : Tree α}
    (nothing : assignsNothing t = true) : ¬ IsStatement t := by
  intro isStatement
  cases isStatement with
  | assign _ isValue => cases isValue <;> cases nothing
  | _ => cases nothing

/-- An assignment whose right side is left out is read to its end, with nothing in its place. -/
theorem assignment_without_value_is_read :
    let program : Program Unit := ofText "var a ="
    program.fault = none ∧ program.statements.any assignsNothing = true ∧
      ¬ program.Refused ∧ ¬ program.Complete := by
  intro program
  have accepted : program.fault = none := by decide +kernel
  have nothing : program.statements.any assignsNothing = true := by decide +kernel
  refine ⟨accepted, nothing, ?_, ?_⟩
  · rintro ⟨failure, refused, -⟩
    rw [accepted] at refused
    cases refused
  · rintro ⟨-, inStatements⟩
    obtain ⟨statement, member, assigns⟩ := any_eq_true.mp nothing
    exact not_isStatement_of_assignsNothing assigns (inStatements statement member)

end DeviceScript.Script
