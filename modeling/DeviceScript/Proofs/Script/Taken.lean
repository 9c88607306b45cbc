import DeviceScript.Proofs.Script.Phrases
import DeviceScript.Proofs.Script.Settling

/-!
# What a reading has taken

`Took reading reader told` looks back on a reading that has given something. It has taken lexemes
off the front of the text, and what it gave depends on nothing else: wherever the same tokens stand
in front of a token of the same kind as the one that it stopped at, it takes them again and gives
the same, with the same title. What is told of the kinds of these tokens and of the value goes along
with it, and is used for one statement: what is read as a tree of the language was a phrase
(`took_statement`).

The bounds of the grammar depend on the length of the whole text. They do not matter here, because a
reading that gives something within some bound gives the same within its own (`Took.within`).
-/

namespace DeviceScript.Script.Reading

open List Script.Tree

variable {α β γ : Type}

variable {k : TokenKind} {r' : Reader} {n : Nat}

/-- Whatever the reading gives from the reader, it stops where reading can go on; it has taken
lexemes off the front for it, whose kinds are as told; and it takes their tokens in the same way
wherever they stand in front of a token of the same kind as here. -/
def Took (reading : Reading β) (r : Reader) (told : List TokenKind → β → Prop) : Prop :=
  ∀ v r', reading.run.run r = (.ok v, r') →
    (r.source.fault? = none → r'.source.fault? = none) ∧
    ∃ taken, r.source = ⟨taken ++ r'.source.lexemes, r'.source.ending⟩ ∧
      told (taken.map (·.token.kind)) v ∧
      ∀ (read rest : List Lexeme) (e : Ending), read.map (·.token) = taken.map (·.token) →
        Source.fault? ⟨rest, e⟩ = none → (Source.current ⟨rest, e⟩).kind = r'.kind →
          reading.run.run ⟨⟨read ++ rest, e⟩, r.title⟩ = (.ok v, ⟨⟨rest, e⟩, r'.title⟩)

/-- The same tokens in front of tokens of the same kind begin with the same kind. -/
theorem kind_retaken {r : Reader} {taken read rest : List Lexeme} {e : Ending}
    (source : r.source = ⟨taken ++ r'.source.lexemes, r'.source.ending⟩)
    (same : read.map (·.token) = taken.map (·.token))
    (k : (Source.current ⟨rest, e⟩).kind = r'.kind) (title : String) :
    Reader.kind ⟨⟨read ++ rest, e⟩, title⟩ = r.kind := by
  rw [Reader.kind, Reader.kind, source, kind_current_append same, kind_current_append rfl, k]
  rfl

namespace Took

variable {reading reading' : Reading β} {next : β → Reading γ} {r : Reader}
  {told : List TokenKind → β → Prop} {wanted : List TokenKind → γ → Prop}

theorem mono {weaker : List TokenKind → β → Prop} (took : Took reading r told)
    (implies : ∀ ks v, told ks v → weaker ks v) : Took reading r weaker := by
  intro v r' run
  obtain ⟨sound, taken, source, holds, again⟩ := took v r' run
  exact ⟨sound, taken, source, implies _ _ holds, again⟩

theorem pure {v : β} (holds : told [] v) : Took (Pure.pure v) r told := by
  rintro v _ ⟨⟩
  refine ⟨id, [], rfl, holds, fun read rest e same _ _ => ?_⟩
  rw [map_nil, map_eq_nil_iff] at same
  subst same
  rfl

theorem throw (fault : ReadFault) : Took (MonadExcept.throw fault : Reading β) r told := by
  rintro _ _ ⟨⟩

theorem fault (cause : GrammarFault) : Took (Reading.fault cause : Reading β) r told := by
  rintro _ _ ⟨⟩

/-- What follows goes on from the reader that the first reading stopped at. -/
theorem bind (first : Took reading r told)
    (second : ∀ v r' ks, reading.run.run r = (.ok v, r') →
      told ks v → Took (next v) r' fun others => wanted (ks ++ others)) :
    Took (reading >>= next) r wanted := by
  intro res r'' run
  rw [run_bind] at run
  rcases read : reading.run.run r with ⟨_ | v, r'⟩
  · rw [read] at run
    cases run
  · rw [read] at run
    obtain ⟨goes, front, source, holds, again⟩ := first v r' read
    obtain ⟨goes', back, source', holds', again'⟩ := second v r' _ read holds res r'' run
    refine ⟨fun sound => goes' (goes sound), front ++ back, ?_, ?_,
      fun others rest e same sound k => ?_⟩
    · rw [source, source', append_assoc]
    · rw [map_append]
      exact holds'
    · rw [map_append] at same
      obtain ⟨inFront, inBack, rfl, sameFront, sameBack⟩ := map_eq_append_iff.mp same
      rw [run_bind, append_assoc, again inFront (inBack ++ rest) e sameFront
        (Source.fault?_append sound) (kind_retaken source' sameBack k "")]
      exact again' inBack rest e sameBack sound k

theorem map {f : β → γ} (took : Took reading r told) (holds : ∀ v ks, told ks v → wanted ks (f v)) :
    Took (reading >>= fun v => Pure.pure (f v)) r wanted := by
  refine took.bind fun v r' ks _ told => .pure ?_
  rw [append_nil]
  exact holds v ks told

/-- Readings that are the same for the kind that the reader stands at. -/
theorem ofKind (took : Took reading' r told)
    (same : ∀ r', r'.kind = r.kind →
      reading.run.run r' = reading'.run.run r') : Took reading r told := by
  intro v r'' run
  rw [same r rfl] at run
  obtain ⟨goes, taken, source, holds, again⟩ := took v r'' run
  refine ⟨goes, taken, source, holds, fun read rest e spelled sound k => ?_⟩
  rw [same _ (kind_retaken source spelled k r.title)]
  exact again read rest e spelled sound k

theorem look {f : TokenKind → Reading γ} (took : Took (f r.kind) r wanted) :
    Took (currentKind >>= f) r wanted :=
  took.ofKind fun r' same => by rw [run_look, same]

/-- What looks at a token and takes it depends on it. -/
theorem lookToken (f : Token → Reading γ)
    (took : Took (f r.source.current) r fun ks v => ks ≠ [] ∧ wanted ks v) :
    Took (get >>= fun r => f r.source.current) r wanted := by
  intro v r' run
  obtain ⟨goes, taken, source, ⟨some, holds⟩, again⟩ := took v r' run
  refine ⟨goes, taken, source, holds, fun read rest e same sound k => ?_⟩
  rw [← again read rest e same sound k]
  cases taken with
  | nil => exact absurd rfl some
  | cons =>
    cases read with
    | nil => cases same
    | cons other =>
      rw [map_cons, map_cons, List.cons.injEq] at same
      have token : r.source.current = other.token := by
        rw [source, same.1]
        rfl
      rw [token]
      rfl

/-- What is taken begins with the kind that the reader stands at. -/
theorem begins (took : Took reading r told) : Took reading r fun ks v =>
      told ks v ∧ ∀ k ∈ ks.head?, k = r.kind := by
  intro v r' run
  obtain ⟨goes, taken, source, holds, again⟩ := took v r' run
  refine ⟨goes, taken, source, ⟨holds, ?_⟩, again⟩
  rw [Reader.kind, source]
  cases taken with
  | nil => simp
  | cons =>
    rintro _ ⟨⟩
    rfl

/-- The bound of a reading does not matter, if it is enough wherever some bound is. -/
theorem within {within : Nat → Reading β} {bound : Reader → Nat} (longer : Lengthens within)
    (enough : ∀ r r', PassesWithin within r r' → ¬ Endless (within (bound r)) r)
    (took : Took (within (bound r)) r told) : Took (get >>= fun r => within (bound r)) r told := by
  intro v r' run
  obtain ⟨goes, taken, source, holds, again⟩ := took v r' run
  refine ⟨goes, taken, source, holds, fun read rest e same sound k => ?_⟩
  have passed := again read rest e same sound k
  exact run_of_not_endless longer passed (enough _ _ ⟨_, v, passed⟩)

end Took

/-! ## Single tokens -/

theorem took_advance {r : Reader} (inside : r.kind ≠ .endOfText) :
    Took advance r fun ks _ => ks = [r.kind] := by
  intro _ r' run
  obtain ⟨⟨ls, e⟩, title⟩ := r
  cases ls with
  | nil => exact absurd rfl inside
  | cons lexeme ls =>
    rw [advance, run_inspect] at run
    have stops : Source.fault? ⟨ls, e⟩ = none ∧ r' = ⟨⟨ls, e⟩, title⟩ := by
      dsimp only [Source.advance, tail_cons] at run
      split at run
      · rename_i goes
        cases run
        exact ⟨goes, rfl⟩
      · cases run
    obtain ⟨goes, rfl⟩ := stops
    refine ⟨fun _ => goes, [lexeme], rfl, rfl, fun read rest e' same sound k => ?_⟩
    obtain ⟨other, rfl, -⟩ := map_eq_singleton_iff.mp same
    have sound' : Source.fault? (Source.advance ⟨[other] ++ rest, e'⟩) = none := sound
    rw [advance, run_inspect]
    simp only [sound']
    rfl

theorem took_expect (k : TokenKind) (inside : k ≠ .endOfText) (r : Reader) :
    Took (expect k) r fun ks _ => ks = [k] := by
  refine .look ?_
  split
  · rename_i same
    rw [← same]
    exact took_advance (by rw [same]; exact inside)
  · exact .fault _

theorem took_take {r : Reader} (inside : r.kind ≠ .endOfText) :
    Took take r fun ks _ => ks = [r.kind] := by
  refine .lookToken (fun tok => do advance; return tok.text) ?_
  exact .map (took_advance inside) fun _ _ same => ⟨same ▸ cons_ne_nil _ _, same⟩

theorem took_identifier (r : Reader) : Took identifier r fun ks _ => ks = [.identifier] := by
  refine .lookToken (fun tok => do expect .identifier; return tok.text) ?_
  exact .map (took_expect .identifier (by decide) r) fun _ _ same =>
    ⟨same ▸ cons_ne_nil _ _, same⟩

/-- What follows a keyword. -/
theorem Took.keyword (inside : k ≠ .endOfText) {f : Unit → Reading γ} {r : Reader}
    {wanted : List TokenKind → γ → Prop}
    (second : ∀ r', Took (f ()) r' fun others => wanted (k :: others)) :
    Took (expect k >>= f) r wanted := by
  refine .bind (took_expect k inside r) fun _ r' ks _ same => ?_
  rw [same]
  exact second r'

/-- What follows a name. -/
theorem Took.name {f : String → Reading γ} {r : Reader} {wanted : List TokenKind → γ → Prop}
    (second : ∀ name r', Took (f name) r' fun others => wanted (.identifier :: others)) :
    Took (identifier >>= f) r wanted := by
  refine .bind (took_identifier r) fun name r' ks _ same => ?_
  rw [same]
  exact second name r'

/-! ## Expressions -/

/-- What the kinds were if they are read as an expression, as a leaf, or as nothing. -/
structure Spells (form : Form) (kinds : List TokenKind) (v : Tree α) : Prop where
  expression : IsExpression v → Phrase form kinds
  leaf : v.leafText?.isSome = true → Phrase .leaf kinds
  nothing : v = .missing → Phrase .nothing kinds

theorem took_leaf {r : Reader} {make : String → Tree α}
    (single : isLeafKind r.kind = true) (makes : ∀ s, make s ≠ .missing) :
    Took (take >>= fun s => pure (make s)) r (Spells .operand) := by
  have inside : r.kind ≠ .endOfText := by
    intro ends
    rw [ends] at single
    cases single
  refine .map (took_take inside) fun s ks same => ?_
  subst same
  exact ⟨fun _ => .operand single, fun _ => .leaf single, fun none => absurd none (makes s)⟩

theorem took_inBrackets {reading : Reading β} {told : List TokenKind → β → Prop} {r : Reader}
    (inner : ∀ r, Took reading r told) :
    Took (do
      expect .openBracket
      let v ← reading
      expect .closeBracket
      return v) r fun ks v =>
        ∃ inner, ks = .openBracket :: (inner ++ [.closeBracket]) ∧ told inner v := by
  refine .keyword (by decide) fun r' => ?_
  refine .bind (inner r') fun v third ks _ holds => ?_
  exact .keyword (by decide) fun _ => .pure ⟨ks, rfl, holds⟩

theorem spells_missing : Spells .operand [] (.missing : Tree α) := by
  refine ⟨fun isValue => ?_, fun leaf => ?_, fun _ => .nothing⟩
  · cases isValue
  · cases leaf

theorem spells_group {inner : List TokenKind} {v : Tree α} (spells : Spells .expression inner v) :
    Spells .operand (.openBracket :: (inner ++ [.closeBracket])) v :=
  ⟨fun isValue => .group (spells.expression isValue), fun leaf => .leafGroup (spells.leaf leaf),
    fun none => .emptyGroup (spells.nothing none)⟩

/-- Operators were read to the right of a tree, or there were none. -/
structure SpellsAfter (left : Tree α) (kinds : List TokenKind) (v : Tree α) : Prop where
  expression : IsExpression v → IsExpression left ∧ Phrase .operators kinds
  single : (∀ first operator second, v ≠ .binary first operator second) → kinds = [] ∧ v = left

/-- An operand and the operators to the right of it. -/
theorem SpellsAfter.spells {left v : Tree α} {ks others : List TokenKind}
    (after : SpellsAfter left others v) (spells : Spells .operand ks left) :
    Spells .expression (ks ++ others) v := by
  refine ⟨fun isValue => ?_, fun leaf => ?_, fun none => ?_⟩
  · obtain ⟨isLeft, more⟩ := after.expression isValue
    exact .expression (spells.expression isLeft) more
  · obtain ⟨rfl, rfl⟩ := after.single (by rintro _ _ _ rfl; cases leaf)
    rw [append_nil]
    exact spells.leaf leaf
  · obtain ⟨rfl, rfl⟩ := after.single (by rintro _ _ _ rfl; cases none)
    rw [append_nil]
    exact spells.nothing none

/-- At an operator, it is taken with its right operand. -/
theorem took_operator (left : Tree α) {r : Reader} (operates : isOperator r.kind = true)
    (operand : ∀ r, Took (operandWithin (α := α) n) r (Spells .operand))
    (operators : ∀ (left : Tree α) r, Took (operatorsWithin n left) r
      (SpellsAfter left)) :
    Took (do
      let op := (← get).source.current
      advance
      let right ← operandWithin n
      operatorsWithin n (.binary left op right)) r (SpellsAfter left) := by
  refine .lookToken (fun op => do
    advance
    let right ← operandWithin n
    operatorsWithin n (.binary left op right)) ?_
  refine .bind (took_advance (ne_endOfText_of_isOperator operates)) fun _ r' _ _ sign => ?_
  refine .bind (operand r') fun right third ks _ spells => ?_
  refine (operators _ third).mono fun others v after => ?_
  rw [sign, singleton_append]
  refine ⟨cons_ne_nil _ _, fun isValue => ?_, fun single => ?_⟩
  · obtain ⟨isLeft, more⟩ := after.expression isValue
    cases isLeft with
    | binary isLeft _ isRight =>
      exact ⟨isLeft, .operator operates (spells.expression isRight) more⟩
  · obtain ⟨-, same⟩ := after.single single
    exact absurd same (single _ _ _)

theorem took_expressions (n : Nat) :
    (∀ r, Took (operandWithin (α := α) n) r (Spells .operand)) ∧
    (∀ (left : Tree α) r, Took (operatorsWithin n left) r (SpellsAfter left)) ∧
    (∀ r, Took (expressionWithin (α := α) n) r (Spells .expression)) := by
  induction n with
  | zero =>
    rw [operandWithin]
    refine ⟨fun _ => .throw _, fun left r => ?_, fun _ => .throw _⟩
    exact .throw _
  | succ n ih =>
    obtain ⟨operand, operators, expression⟩ := ih
    refine ⟨fun r => ?_, fun left r => ?_, fun r => ?_⟩
    · refine .look ?_
      split
      case h_4 =>
        refine (took_inBrackets expression).mono ?_
        rintro _ v ⟨_, rfl, spells⟩
        exact spells_group spells
      case h_5 => exact .pure spells_missing
      all_goals
        rename_i same
        exact took_leaf (by rw [same]; rfl) (by simp)
    · cases operates : isOperator r.kind with
      | false =>
        have stays : Took (pure left) r (SpellsAfter left) :=
          .pure ⟨fun isLeft => ⟨isLeft, .noOperator⟩, fun _ => ⟨rfl, rfl⟩⟩
        refine stays.ofKind fun r' same => ?_
        exact run_operatorsWithin_none (by rw [same]; exact operates) n left
      | true =>
        have goesOn := took_operator left operates operand operators
        refine goesOn.ofKind fun r' same => ?_
        have operates' : isOperator r'.source.current.kind = true :=
          (congrArg isOperator same).trans operates
        rw [operatorsWithin, run_inspect, run_inspect]
        simp only [operates', if_true]
    · refine .bind (operand r) fun first r'' ks _ spells => ?_
      exact (operators first r'').mono fun others v after => after.spells spells

theorem took_operand (r : Reader) : Took (operand (α := α)) r (Spells .operand) :=
  .within (fun _ _ le => (Composed.expressions le).1.extends)
    (fun r _ _ => (settles_operandWithin r).1) ((took_expressions _).1 r)

theorem took_expression (r : Reader) :
    Took (expression (α := α)) r (Spells .expression) :=
  .within (fun _ _ le => (Composed.expressions le).2.2.extends)
    (fun r _ _ => (settles_expressionWithin r).1) ((took_expressions _).2.2 r)

/-- At a comparison, it is taken with its right side. -/
theorem took_comparison {left : Tree α} {ks : List TokenKind} {r : Reader}
    (spells : Spells .expression ks left) (compares : isComparison r.kind = true) :
    Took (do
      let op := (← get).source.current
      advance
      let right ← expression
      return Tree.binary left op right) r fun others v =>
        IsCondition v → Phrase .condition (ks ++ others) := by
  refine .lookToken (fun op => do
    advance
    let right ← expression
    return Tree.binary left op right) ?_
  refine .bind (took_advance (ne_endOfText_of_isComparison compares)) fun _ r' _ _ sign => ?_
  refine .map (took_expression r') fun right others right' => ?_
  rw [sign]
  refine ⟨cons_ne_nil _ _, fun isCondition => ?_⟩
  generalize same : r.source.current = op at isCondition
  cases isCondition with
  | comparison isLeft _ isRight =>
    exact .comparison (spells.expression isLeft) compares (right'.expression isRight)
  | single isLeft =>
    have equal : r.kind = .equal := by rw [Reader.kind, same]
    rw [equal]
    exact .equality (spells.expression isLeft) (right'.nothing rfl)

theorem took_condition (r : Reader) : Took (condition (α := α)) r fun kinds v =>
      IsCondition v → Phrase .condition kinds := by
  refine .bind (took_expression r) fun left r' kinds _ spells => ?_
  cases compares : isComparison r'.kind with
  | true =>
    refine (took_comparison spells compares).ofKind fun r'' same => ?_
    have compares' : isComparison r''.source.current.kind = true :=
      (congrArg isComparison same).trans compares
    rw [run_inspect, run_inspect]
    simp only [compares', if_true]
  | false =>
    have stops : Took (if r'.kind = .closeBracket
        then pure (.binary left ⟨.equal, "=="⟩ .missing)
        else Reading.fault (.comparison r'.kind))
        r' fun others v => IsCondition v → Phrase .condition (kinds ++ others) := by
      split
      · refine .pure fun isCondition => ?_
        rw [append_nil]
        cases isCondition with
        | comparison _ _ isRight => cases isRight
        | single isLeft => exact .single (spells.expression isLeft)
      · exact .fault _
    refine stops.ofKind fun r'' same => ?_
    have kinds : r''.source.current.kind = r'.kind := same
    rw [run_inspect]
    simp only [kinds, compares, Bool.false_eq_true, if_false]

/-! ## Lists and arguments -/

theorem inItems_of_isItem {xs : List (Tree α)} (isItem : IsItem (.list xs)) : All IsItem xs := by
  cases isItem with
  | expression isValue => cases isValue
  | list inItems => exact inItems

/-- An item that was read as an expression is one. -/
theorem isExpression_of_isItem {v : Tree α} (isItem : IsItem v)
    (isFormula : IsFormula v) : IsExpression v := by
  cases isItem with
  | expression isValue => exact isValue
  | list => cases isFormula

theorem isLeafKind_of_beginsOperand (begins : beginsOperand k = true)
    (separate : k ≠ .openBracket) : isLeafKind k = true := by
  simp only [beginsOperand, Bool.or_eq_true, decide_eq_true_eq] at begins
  rw [isLeafKind_iff]
  rcases begins with ((begins | begins) | begins) | begins
  · exact .inl begins
  · exact .inr (.inr begins)
  · exact .inr (.inl begins)
  · exact absurd begins separate

theorem took_lists (n : Nat) :
    (∀ r, Took (itemsWithin (α := α) n) r fun ks xs =>
      All IsItem xs → Phrase .items ks) ∧
    (∀ r, Took (listWithin (α := α) n) r fun ks xs =>
      ∃ inner, ks = .openBracket :: (inner ++ [.closeBracket]) ∧
        (All IsItem xs → Phrase .items inner)) := by
  induction n with
  | zero =>
    rw [itemsWithin]
    exact ⟨fun _ => .throw _, fun _ => .throw _⟩
  | succ _ ih =>
    obtain ⟨xs, list⟩ := ih
    constructor
    · intro r
      refine .look ?_
      split
      · exact .pure fun _ => .noItem
      · refine .bind (list r) fun inner r' ks _ holds => ?_
        obtain ⟨inner, rfl, isInner⟩ := holds
        refine .map (xs r') fun vs others isItems inItems => ?_
        rw [All, forall_mem_cons] at inItems
        rw [cons_append, append_assoc]
        exact .list (isInner (inItems_of_isItem inItems.1)) (isItems inItems.2)
      · refine .keyword (by decide) fun r' => ?_
        exact (xs r').mono fun _ _ isItems inItems => .comma (isItems inItems)
      · rename_i separate _
        refine .bind (took_expression r).begins fun item r' ks run holds => ?_
        refine .map (xs r') fun vs others isItems inItems => ?_
        rw [All, forall_mem_cons] at inItems
        have isValue := isExpression_of_isItem inItems.1 (isArithmetic_of_read run).isFormula
        have phrase := holds.1.expression isValue
        obtain ⟨k, _, rfl, begins⟩ := expression_eq_cons phrase
        have same : k = r.kind := holds.2 k rfl
        refine .item (isLeafKind_of_beginsOperand begins ?_) phrase (isItems inItems.2)
        rw [same]
        exact separate
    · intro r
      exact took_inBrackets xs

theorem took_list (r : Reader) : Took (list (α := α)) r fun ks xs =>
      ∃ inner, ks = .openBracket :: (inner ++ [.closeBracket]) ∧
        (All IsItem xs → Phrase .items inner) := by
  refine .within (fun _ _ le => (Composed.lists le).2.extends)
    (fun r r' passes endless => ?_)
    ((took_lists _).2 r)
  have stalls := (comes_list r).of_endless endless
  obtain ⟨n, _, read⟩ := passes
  have unending := endless_listWithin stalls n
  rw [Endless, read] at unending
  cases unending

theorem took_argumentsWithin (n : Nat) : ∀ r,
    Took (argumentsWithin (α := α) n) r fun ks args =>
      All IsExpression args → Phrase .arguments ks := by
  induction n with
  | zero =>
    intro r
    exact .throw _
  | succ _ ih =>
    intro r
    refine .look ?_
    split
    · exact .pure fun _ => .noArgument
    · refine .bind (took_expression r) fun argument r' ks _ spells => .look ?_
      split
      · refine .pure fun inArguments => ?_
        rw [All, forall_mem_cons] at inArguments
        rw [append_nil]
        exact .lastArgument (spells.expression inArguments.1)
      · refine .keyword (by decide) fun r'' => ?_
        refine .map (ih r'') fun args others more inArguments => ?_
        rw [All, forall_mem_cons] at inArguments
        exact .argument (spells.expression inArguments.1) (more inArguments.2)

/-- The arguments of a call and their closing bracket. -/
def SpellsArguments (ks : List TokenKind) (args : List (Tree α)) : Prop :=
  ∃ inner, ks = inner ++ [.closeBracket] ∧ (All IsExpression args → Phrase .arguments inner)

theorem took_arguments (r : Reader) : Took (arguments (α := α)) r SpellsArguments := by
  have bounded : Took (do argumentsWithin (α := α) (stepBound (← get).source)) r
      fun ks arguments => All IsExpression arguments → Phrase .arguments ks :=
    .within (fun _ _ le => (Composed.argumentsWithin le).extends)
      (fun r _ _ => (settles_argumentsWithin r).1)
      (took_argumentsWithin _ r)
  have whole : Took ((do argumentsWithin (α := α) (stepBound (← get).source)) >>= fun xs => do
      expect .closeBracket
      return xs) r SpellsArguments := by
    refine .bind bounded fun xs r' ks _ holds => ?_
    exact .keyword (by decide) fun _ => .pure ⟨ks, rfl, holds⟩
  exact whole

theorem took_callee (r : Reader) :
    Took (callee (α := α)) r fun ks v => ∃ name args,
      v = .call name args ∧ (All IsExpression args → Phrase .callee ks) := by
  refine .name fun name first => .keyword (by decide) fun r' => ?_
  refine .map (took_arguments r') fun args _ spells => ?_
  obtain ⟨_, rfl, holds⟩ := spells
  exact ⟨name, args, rfl, fun inArguments => .callee (holds inArguments)⟩

/-! ## Statements without a body -/

/-- What is read as a statement was one. -/
def SpellsStatement (ks : List TokenKind) (t : Tree α) : Prop :=
  IsStatement t → Phrase .statement ks

/-- A new title takes no token. -/
theorem took_retitle {r : Reader} (s : String) :
    Took (modify fun r => { r with title := s }) r fun ks _ => ks = [] := by
  rintro _ _ ⟨⟩
  refine ⟨id, [], rfl, rfl, fun read rest e same _ _ => ?_⟩
  rw [map_nil, map_eq_nil_iff] at same
  subst same
  rfl

theorem took_title (r : Reader) : Took (title (α := α)) r SpellsStatement := by
  refine .keyword (by decide) fun first => ?_
  refine .bind (took_operand first) fun v r' ks _ spells => ?_
  split
  · rename_i s leaf
    refine .map (took_retitle s) fun _ _ none _ => ?_
    rw [none, append_nil]
    exact .title (spells.leaf (by rw [leaf]; rfl))
  · exact .throw _

theorem took_assignment (r : Reader) : Took (assignment (α := α)) r SpellsStatement := by
  refine .keyword (by decide) fun first => .name fun name r' => ?_
  refine .keyword (by decide) fun third => ?_
  refine .map (took_expression third) fun v ks spells isStatement => ?_
  cases isStatement with
  | assign _ isValue => exact .assign (spells.expression isValue)

theorem took_gathering (r : Reader) : Took (gathering (α := α)) r SpellsStatement := by
  refine .keyword (by decide) fun first => .name fun name r' => ?_
  refine .keyword (by decide) fun third => .look ?_
  split
  · refine .map (took_list third) fun xs ks spells isStatement => ?_
    obtain ⟨_, rfl, holds⟩ := spells
    cases isStatement with
    | gatherList _ inItems => exact .gatherList (holds inItems)
    | gatherValue _ isValue => cases isValue
  · refine .keyword (by decide) fun fourth => ?_
    refine .map (took_callee fourth) fun callee ks spells isStatement => ?_
    obtain ⟨_, _, rfl, holds⟩ := spells
    cases isStatement with
    | gatherCall _ _ inArguments => exact .gatherCall (holds inArguments)
  · rename_i leads
    refine .bind (took_expression third).begins fun v r'' ks run holds =>
      .pure fun isStatement => ?_
    have isValue : IsExpression v := by
      cases isStatement with
      | gatherList => cases (isArithmetic_of_read run).isFormula
      | gatherValue _ isValue => exact isValue
    have phrase := holds.1.expression isValue
    obtain ⟨k, _, rfl, -⟩ := expression_eq_cons phrase
    obtain rfl : k = .identifier := (holds.2 k rfl).trans leads
    rw [append_nil]
    exact .gatherValue phrase
  · exact .pure fun isStatement => by cases isStatement

/-- A keyword with an expression in brackets. -/
theorem took_bracketed (inside : k ≠ .endOfText) {make : Tree α → Tree α} (r : Reader)
    (makes : ∀ v ks, IsStatement (make v) → Spells .expression ks v →
      Phrase .statement (k :: .openBracket :: (ks ++ [.closeBracket]))) :
    Took (do
      expect k
      return make (← inBrackets)) r SpellsStatement := by
  refine .keyword inside fun r' => ?_
  refine .map (took_inBrackets took_expression) fun v _ spells isStatement => ?_
  obtain ⟨inner, rfl, spells⟩ := spells
  exact makes v inner isStatement spells

/-! ## Statements with bodies -/

/-- What a statement was up to its body, if it is read as one. -/
def SpellsHead (ks : List TokenKind) (form : List (Tree α) → Tree α) : Prop :=
  ∀ body others, IsStatement (form body) →
    (All IsStatement body → Phrase .block others) → Phrase .statement (ks ++ others)

theorem took_bodyHead {r : Reader} {head : Reading (List (Tree α) → Tree α)}
    (found : bodyHead? r.kind = some head) : Took head r SpellsHead := by
  unfold bodyHead? at found
  split at found
  all_goals cases found
  · refine .keyword (by decide) fun r' => ?_
    refine .map (took_expression r') fun count ks spells body others isStatement block => ?_
    cases isStatement with
    | loop isCount inBody => exact .loop (spells.expression isCount) (block inBody)
  · refine .keyword (by decide) fun r' => ?_
    refine .map (took_expression r') fun count ks spells body others isStatement block => ?_
    cases isStatement with
    | whileLoop isHead inBody => exact .whileLoop (spells.expression isHead) (block inBody)
  · refine .keyword (by decide) fun first => .name fun name r'' => .look ?_
    split
    · rename_i bracket
      refine .bind (took_advance (by rw [bracket]; decide)) fun _ third _ _ opened => ?_
      refine .map (took_arguments third) fun params ks spells => ?_
      intro body others isStatement block
      obtain ⟨_, rfl, holds⟩ := spells
      rw [opened, bracket]
      cases isStatement with
      | function _ inParameters inBody =>
        have phrase := Phrase.function (holds inParameters) (block inBody)
        simpa using phrase
    · refine .pure ?_
      intro body others isStatement block
      cases isStatement with
      | function _ _ inBody => exact .routine (block inBody)
  · refine .keyword (by decide) fun first => .keyword (by decide) fun r'' => ?_
    refine .name fun item third => .keyword (by decide) fun fourth => ?_
    refine .bind (took_expression fourth) fun xs fifth ks _ spells => ?_
    refine .keyword (by decide) fun r''' => .pure fun body others isStatement block => ?_
    cases isStatement with
    | each _ isItems inBody =>
      have phrase := Phrase.each (spells.expression isItems) (block inBody)
      simpa using phrase

/-- The head of a branch with its brackets. -/
def SpellsCondition (ks : List TokenKind) (head : Tree α) : Prop :=
  ∃ inner, ks = .condition :: .openBracket :: (inner ++ [.closeBracket]) ∧
    (IsCondition head → Phrase .condition inner)

theorem took_branchHead (r : Reader) : Took (branchHead (α := α)) r SpellsCondition := by
  refine .keyword (by decide) fun r' => (took_inBrackets took_condition).mono ?_
  rintro _ _ ⟨inner, rfl, holds⟩
  exact ⟨inner, rfl, holds⟩

/-- The head of an alternative, if it has one. -/
def SpellsAlternative (ks : List TokenKind) : Option (Tree α) → Prop
  | some head => ∃ inner, ks = .otherwise :: inner ∧ SpellsCondition inner head
  | none => ks = [.otherwise]

theorem took_alternativeHead (r : Reader) :
    Took (alternativeHead (α := α)) r SpellsAlternative := by
  refine .keyword (by decide) fun r' => .look ?_
  split
  · exact .map (took_branchHead r') fun head ks holds => ⟨ks, rfl, holds⟩
  · exact .pure rfl

/-- An alternative in front of those that follow it. -/
theorem phrase_joinAlternative {head : Option (Tree α)} {body : List (Tree α)}
    {following : List (Tree α × List (Tree α)) × List (Tree α)} {front middle back : List TokenKind}
    (spells : SpellsAlternative front head) (block : All IsStatement body → Phrase .block middle)
    (more : AreParts following → Phrase .alternatives back)
    (areParts : AreParts (joinAlternative head body following)) :
    Phrase .alternatives (front ++ (middle ++ back)) := by
  obtain ⟨heads, inBodies, inOtherwise⟩ := areParts
  cases head with
  | none =>
    rw [joinAlternative, forall_mem_append] at inOtherwise
    rw [spells, singleton_append]
    exact .otherwise (block inOtherwise.1) (more ⟨heads, inBodies, inOtherwise.2⟩)
  | some =>
    obtain ⟨_, rfl, _, rfl, isHead⟩ := spells
    rw [joinAlternative, forall_mem_cons] at heads inBodies
    have phrase := Phrase.alternative (isHead heads.1) (block inBodies.1)
      (more ⟨heads.2, inBodies.2, inOtherwise⟩)
    simpa using phrase

theorem took_plain {r : Reader} (noBody : bodyHead? (α := α) r.kind = none)
    (noBranch : r.kind ≠ .condition) (n : Nat) :
    Took (statementWithin (α := α) (n + 1)) r SpellsStatement := by
  refine .look ?_
  generalize same : r.kind = k at noBody noBranch
  split
  case h_1 => exact took_title r
  case h_2 => exact took_assignment r
  case h_3 => exact took_gathering r
  case h_4 => exact absurd rfl noBranch
  case h_5 =>
    refine took_bracketed (by decide) r fun v ks isStatement spells => ?_
    cases isStatement with
    | print isValue => exact .print (spells.expression isValue)
  case h_8 => exact .keyword (by decide) fun _ => .pure fun _ => .leave
  case h_9 =>
    refine took_bracketed (by decide) r fun v ks isStatement spells => ?_
    cases isStatement with
    | sleep isDuration => exact .sleep (spells.expression isDuration)
  case h_11 =>
    refine .keyword (by decide) fun r' => (took_callee r').mono ?_
    rintro ks _ ⟨_, _, rfl, holds⟩ isStatement
    cases isStatement with
    | call _ inArguments => exact .call (holds inArguments)
  case h_13 => exact .keyword (by decide) fun _ => .pure fun _ => .skip
  case h_14 => exact .fault _
  all_goals cases noBody

theorem took_statements (n : Nat) :
    (∀ r, Took (statementWithin (α := α) n) r SpellsStatement) ∧
    (∀ r, Took (statementsWithin (α := α) n) r fun ks body =>
      All IsStatement body → Phrase .statements ks) ∧
    (∀ r, Took (blockWithin (α := α) n) r fun ks body =>
      All IsStatement body → Phrase .block ks) ∧
    (∀ r, Took (alternativesWithin (α := α) n) r fun ks parts =>
      AreParts parts → Phrase .alternatives ks) := by
  induction n with
  | zero =>
    rw [statementWithin]
    exact ⟨fun _ => .throw _, fun _ => .throw _, fun _ => .throw _, fun _ => .throw _⟩
  | succ n ih =>
    obtain ⟨statement, statements, block, alts⟩ := ih
    refine ⟨fun r => ?_, fun r => ?_, fun r => ?_, fun r => ?_⟩
    · rcases body : bodyHead? r.kind with _ | head
      · by_cases branch : r.kind = .condition
        · refine .ofKind ?_ fun r' same => run_statementWithin_branch (same.trans branch) n
          refine .bind (took_branchHead r) fun head first _ _ spells => ?_
          refine .bind (block first) fun body r'' ks _ inBlock => ?_
          refine .map (alts r'') fun parts others more isStatement => ?_
          obtain ⟨_, rfl, isHead⟩ := spells
          cases isStatement with
          | branch isCondition inBody heads inBodies inOtherwise =>
            have phrase := Phrase.branch (isHead isCondition) (inBlock inBody)
              (more ⟨heads, inBodies, inOtherwise⟩)
            simpa using phrase
        · exact took_plain body branch n
      · refine .ofKind ?_ fun r' same =>
          run_statementWithin_body ((congrArg bodyHead? same).trans body) n
        refine .bind (took_bodyHead body) fun form r''' ks _ spells => ?_
        exact .map (block r''') fun body others inBlock isStatement =>
          spells body others isStatement inBlock
    · refine .look ?_
      split
      · exact .pure fun _ => .noStatement
      · refine .bind (statement r) fun first r''' ks _ spells => ?_
        refine .map (statements r''') fun body others more inBody => ?_
        rw [All, forall_mem_cons] at inBody
        exact .following (spells inBody.1) (more inBody.2)
    · refine .keyword (by decide) fun first => ?_
      refine .bind (statements first) fun body r'' ks _ holds => ?_
      exact .keyword (by decide) fun _ => .pure fun inBody => .block (holds inBody)
    · by_cases more : r.kind = .otherwise
      · refine .ofKind ?_ fun r' same => run_alternativesWithin (same.trans more) n
        refine .bind (took_alternativeHead r) fun head first front _ spells => ?_
        refine .bind (block first) fun body r'' middle _ inBlock => ?_
        exact .map (alts r'') fun following back others areParts =>
          phrase_joinAlternative spells inBlock others areParts
      · refine .look ?_
        rw [if_neg more]
        exact .pure fun _ => .noAlternative

/-- **What is read as a statement of the language was one**, and it is read in the same way
wherever the same tokens stand in front of a token of the same kind. -/
theorem took_statement (r : Reader) : Took (statement (α := α)) r SpellsStatement := by
  refine .within (fun _ _ le => (Composed.statements le).1.extends)
    (fun r r' passes endless => ?_)
    ((took_statements _).1 r)
  have stalls := (endless_statement_iff r).mp (by rw [Endless, run_statement]; exact endless)
  obtain ⟨n, _, read⟩ := passes
  have unending := unending_of_stalls stalls n
  rw [Endless, read] at unending
  cases unending

end DeviceScript.Script.Reading
