import DeviceScript.Proofs.Script.Lexing
import DeviceScript.Proofs.Script.Taking
import DeviceScript.Script.Program

/-!
# What readings are composed of

All readings of the grammar are put together from a few: one looks at the current token or at the
number of tokens that are left, one goes on to the next token, one gives the script a title, and
the others fail. The loops and recursions among them are bounded by a number of steps, and a reading
whose bound runs out is `endless`. `Composed` says of two readings that they are put together in the
same way, but for bounds that may be larger in the second one, once for the whole grammar
(`Composed.statements`), and what holds of the few and goes through sequences then holds of every
statement.

Three facts are proved in this way. A reading that ends within a bound ends in the same way within
every larger one (`Composed.extends`). A fault in the characters of a text is told with the line on
which reading the text has ended (`Composed.keeps`). And a reading depends on nothing but the tokens
and on whether the text breaks off behind them, so that the lines and the places of the tokens and
the title of the script have no influence on the trees (`Composed.agrees`).
-/

namespace DeviceScript.Script

namespace Reading

variable {α β γ : Type}

/-- The readings are put together from looking at the current token or at the number of tokens,
going on to the next token, giving a title, and failing. Where a bound of the first one has run out,
the second one may do anything. -/
class inductive Composed : {β : Type} → (shorter longer : Reading β) → Prop
  | pure {β : Type} (v : β) : Composed (Pure.pure v) (Pure.pure v)
  | bind {β γ : Type} {reading reading' : Reading β} {next next' : β → Reading γ}
      (first : Composed reading reading')
      (second : ∀ v, Composed (next v) (next' v)) :
      Composed (reading >>= next) (reading' >>= next')
  | look {γ : Type} (next next' : Token → Reading γ)
      (each : ∀ token, Composed (next token) (next' token)) :
      Composed (get >>= fun r => next r.source.current)
        (get >>= fun r => next' r.source.current)
  | measure {γ : Type} (next : Nat → Reading γ)
      (each : ∀ count, Composed (next count) (next count)) :
      Composed (get >>= fun r => next r.source.lexemes.length)
        (get >>= fun r => next r.source.lexemes.length)
  | advance : Composed advance advance
  | retitle (text : String) : Composed (modify fun r => { r with title := text })
      (modify fun r => { r with title := text })
  | fault {β : Type} (cause : GrammarFault) :
      Composed (Reading.fault cause : Reading β) (Reading.fault cause)
  | nameless {β : Type} (sort : String) :
      Composed (Reading.fail (.noAttribute sort "token") : Reading β)
        (Reading.fail (.noAttribute sort "token"))
  | endless {β : Type} (reading : Reading β) : Composed (throw .endless) reading

namespace Composed

attribute [instance] pure advance retitle fault nameless endless

variable {n more : Nat}

instance andThen {reading reading' : Reading β} {f f' : β → Reading γ}
    [first : Composed reading reading'] [second : ∀ v, Composed (f v) (f' v)] :
    Composed (reading >>= f) (reading' >>= f') :=
  first.bind second

instance ite {condition : Prop} [Decidable condition] {reading reading' other other' : Reading β}
    [Composed reading reading'] [Composed other other'] :
    Composed (if condition then reading else other) (if condition then reading' else other') := by
  split <;> infer_instance

theorem peek (f : Token → Reading γ)
    (each : ∀ tok, Composed (f tok) (f tok)) :
    Composed (get >>= fun r => f r.source.current)
      (get >>= fun r => f r.source.current) := .look f f each

instance currentKind : Composed currentKind currentKind :=
  peek (fun tok => return tok.kind) inferInstance

instance expect (wanted : TokenKind) : Composed (expect wanted) (expect wanted) := by
  unfold Reading.expect
  infer_instance

instance take : Composed take take :=
  peek (fun tok => do Reading.advance; return tok.text) inferInstance

instance identifier : Composed identifier identifier :=
  peek (fun tok => do Reading.expect .identifier; return tok.text) inferInstance

/-! ## Expressions -/

/-- What is read behind an operand, with the readings of what follows an operator. -/
def operatorsWith (operand : Reading (Tree α)) (operators : Tree α → Reading (Tree α))
    (left : Tree α) (operator : Token) : Reading (Tree α) :=
  if isOperator operator.kind then do
    Reading.advance
    let right ← operand
    operators (.binary left operator right)
  else return left

theorem expressions (le : n ≤ more) :
    Composed (operandWithin (α := α) n) (operandWithin more) ∧
    (∀ left : Tree α, Composed (operatorsWithin n left) (operatorsWithin more left)) ∧
    Composed (expressionWithin (α := α) n) (expressionWithin more) := by
  induction n generalizing more with
  | zero =>
    rw [operandWithin, expressionWithin]
    refine ⟨inferInstance, fun left => ?_, inferInstance⟩
    rw [operatorsWithin]
    infer_instance
  | succ n ih =>
    obtain ⟨more, rfl⟩ := Nat.exists_eq_add_of_lt le
    obtain ⟨_, _, _⟩ := @ih (n + more) (Nat.le_add_right ..)
    refine ⟨?_, fun left => ?_, ?_⟩
    · rw [operandWithin]
      refine currentKind.bind fun k => ?_
      split <;> infer_instance
    · rw [operatorsWithin]
      refine .look (operatorsWith (operandWithin n) (operatorsWithin n) left)
        (operatorsWith (operandWithin _) (operatorsWithin _) left) fun op => ?_
      unfold operatorsWith
      infer_instance
    · rw [expressionWithin, expressionWithin]
      infer_instance

instance operand : Composed (operand (α := α)) operand :=
  .measure (fun n => operandWithin (2 * n + 3)) fun _ => (expressions (Nat.le_refl _)).1

instance expression : Composed (expression (α := α)) expression :=
  .measure (fun n => expressionWithin (2 * n + 3)) fun _ =>
    (expressions (Nat.le_refl _)).2.2

instance condition : Composed (condition (α := α)) condition := by
  refine expression.bind fun left => ?_
  exact peek (fun op =>
    if isComparison op.kind then do
      Reading.advance
      let right ← Reading.expression
      return Tree.binary left op right
    else if op.kind = .closeBracket then
      return Tree.binary left ⟨.equal, "=="⟩ .missing
    else Reading.fault (.comparison op.kind)) inferInstance

/-! ## Lists and arguments -/

theorem lists (le : n ≤ more) :
    Composed (itemsWithin (α := α) n) (itemsWithin more) ∧
      Composed (listWithin (α := α) n) (listWithin more) := by
  induction n generalizing more with
  | zero =>
    rw [itemsWithin, listWithin]
    exact ⟨inferInstance, inferInstance⟩
  | succ n ih =>
    obtain ⟨more, rfl⟩ := Nat.exists_eq_add_of_lt le
    obtain ⟨_, _⟩ := @ih (n + more) (Nat.le_add_right ..)
    rw [listWithin, listWithin]
    refine ⟨currentKind.bind fun k => ?_, inferInstance⟩
    split <;> infer_instance

instance list : Composed (list (α := α)) list :=
  .measure (fun n => listWithin (2 * n + 3)) fun _ => (lists (Nat.le_refl _)).2

theorem argumentsWithin (le : n ≤ more) :
    Composed (argumentsWithin (α := α) n) (argumentsWithin more) := by
  induction n generalizing more with
  | zero =>
    rw [Reading.argumentsWithin]
    infer_instance
  | succ n ih =>
    obtain ⟨more, rfl⟩ := Nat.exists_eq_add_of_lt le
    have arguments := @ih (n + more) (Nat.le_add_right ..)
    rw [Reading.argumentsWithin, Reading.argumentsWithin]
    infer_instance

instance arguments : Composed (arguments (α := α)) arguments :=
  .measure (fun n => do
    let xs ← Reading.argumentsWithin (2 * n + 3)
    Reading.expect .closeBracket
    return xs) fun _ => (argumentsWithin (Nat.le_refl _)).bind inferInstance

instance callee : Composed (callee (α := α)) callee := by
  unfold Reading.callee
  infer_instance

instance inBrackets : Composed (inBrackets (α := α)) inBrackets := by
  unfold Reading.inBrackets
  infer_instance

/-! ## Statements -/

instance assignment : Composed (assignment (α := α)) assignment := by
  unfold Reading.assignment
  infer_instance

instance gathering : Composed (gathering (α := α)) gathering := by
  refine (expect .gather).bind fun _ => identifier.bind fun name => ?_
  refine (expect .equals).bind fun _ => currentKind.bind fun k => ?_
  split <;> infer_instance

instance title : Composed (title (α := α)) title := by
  refine (expect .title).bind fun _ => operand.bind fun v => ?_
  split <;> infer_instance

/-- **Reading statements** is put together from the few. -/
theorem statements (le : n ≤ more) :
    Composed (statementWithin (α := α) n) (statementWithin more) ∧
    Composed (statementsWithin (α := α) n) (statementsWithin more) ∧
    Composed (blockWithin (α := α) n) (blockWithin more) ∧
    Composed (alternativesWithin (α := α) n) (alternativesWithin more) := by
  induction n generalizing more with
  | zero =>
    rw [statementWithin, statementsWithin, blockWithin, alternativesWithin]
    exact ⟨inferInstance, inferInstance, inferInstance, inferInstance⟩
  | succ n ih =>
    obtain ⟨more, rfl⟩ := Nat.exists_eq_add_of_lt le
    obtain ⟨_, statements, _, _⟩ := @ih (n + more) (Nat.le_add_right ..)
    refine ⟨?_, ?_, ?_, ?_⟩
    · rw [statementWithin]
      refine currentKind.bind fun k => ?_
      split
      case h_12 => exact (expect .each).bind fun _ => (expect .openBracket).bind inferInstance
      all_goals infer_instance
    · rw [statementsWithin, statementsWithin]
      infer_instance
    · rw [blockWithin, blockWithin]
      infer_instance
    · rw [alternativesWithin]
      refine currentKind.bind fun k => ?_
      split
      · refine (expect .otherwise).bind fun _ => currentKind.bind fun k => ?_
        split
        · exact (expect .condition).bind fun _ => (expect .openBracket).bind inferInstance
        · infer_instance
      · infer_instance

instance statement : Composed (statement (α := α)) statement :=
  .measure (fun n => statementWithin (3 * n + 3)) fun _ => (statements (Nat.le_refl _)).1

end Composed

/-! ## Larger bounds -/

/-- Wherever the first reading ends, the second one ends in the same way. -/
def Extends (shorter longer : Reading β) : Prop :=
  ∀ r, (shorter.run.run r).1 ≠ .error .endless → longer.run.run r = shorter.run.run r

/-- A bound makes no difference to a reading that ends within it. -/
def Lengthens (within : Nat → Reading β) : Prop :=
  ∀ ⦃steps more⦄, steps ≤ more → Extends (within steps) (within more)

theorem run_inspect (f : Reader → Reading γ) (r : Reader) :
    (get >>= f).run.run r = (f r).run.run r := rfl

/-- **Larger bounds make no difference** to a reading that ends. -/
theorem Composed.extends {shorter longer : Reading β}
    (composed : Composed shorter longer) : Extends shorter longer := by
  induction composed with
  | @bind β γ first first' f f' _ _ one two =>
    intro r ends
    rw [run_bind] at ends ⊢
    rw [run_bind]
    rcases read : first.run.run r with ⟨_ | v, r'⟩
    · rw [read] at ends
      rw [one r (by rw [read]; simpa using ends), read]
    · rw [read] at ends
      rw [one r (by rw [read]; simp), read]
      exact two v r' ends
  | look _ _ _ each => exact fun r => each _ r
  | endless => exact fun _ ends => absurd rfl ends
  | _ => exact fun _ _ => rfl

/-! ## The line of a fault -/

theorem run_advance (r : Reader) :
    advance.run.run r =
      match r.source.advance.fault? with
      | none => (.ok (), { r with source := r.source.advance })
      | some cause =>
        (.error (.failure (.lexical r.source.advance.line cause)),
          { r with source := r.source.advance }) := by
  rw [advance, run_inspect]
  split
  · rename_i sound
    simp only [sound]
    rfl
  · rename_i cause fault
    simp only [fault]
    rfl

/-- The reading leaves the end of the text as it is, and tells of a fault in its characters what is
known of that end. -/
def Keeps (reading : Reading β) : Prop :=
  ∀ r o r', reading.run.run r = (o, r') →
    r'.source.ending = r.source.ending ∧
    ∀ line cause, o = .error (.failure (.lexical line cause)) →
      ∃ stop, r.source.ending = .broken cause line stop

/-- A text whose next token cannot be read is at its end. -/
theorem ending_of_fault? {source : Source} {cause : LexicalFault}
    (fault : source.fault? = some cause) :
    ∃ stop, source.ending = .broken cause source.line stop := by
  obtain ⟨_ | ⟨_, _⟩, e⟩ := source
  · cases e with
    | finished => cases fault
    | broken _ _ stop =>
      cases fault
      exact ⟨stop, rfl⟩
  · cases e <;> cases fault

theorem Composed.keeps {reading longer : Reading β}
    (composed : Composed reading longer) : Keeps reading := by
  induction composed with
  | pure | retitle | fault | nameless | endless =>
    rintro r _ _ ⟨⟩
    exact ⟨rfl, by rintro _ _ ⟨⟩⟩
  | @bind β γ reading _ f _ first second keeps keeps' =>
    intro r o r' run
    rw [run_bind] at run
    rcases read : reading.run.run r with ⟨fault | v, r''⟩
    · rw [read] at run
      cases run
      obtain ⟨ending, tells⟩ := keeps r _ _ read
      exact ⟨ending, fun line cause same => tells line cause (by cases same; rfl)⟩
    · rw [read] at run
      have ending := (keeps r _ _ read).1
      rw [← ending]
      exact keeps' v r'' o r' run
  | look _ _ _ keeps | measure _ _ keeps => exact fun r => keeps _ r
  | advance =>
    intro r o r'' run
    rw [run_advance] at run
    split at run
    · cases run
      exact ⟨rfl, by rintro _ _ ⟨⟩⟩
    · rename_i cause fault
      cases run
      refine ⟨rfl, ?_⟩
      rintro line _ ⟨⟩
      exact ending_of_fault? fault

end Reading

/-! ## Readings of the same tokens -/

/-- The readers have the same tokens in front of them, and then the text ends in the same way. -/
structure Reader.Alike (r other : Reader) : Prop where
  tokens : r.source.tokens = other.source.tokens
  fault : r.source.ending.fault? = other.source.ending.fault?

namespace Reader.Alike

variable {r other : Reader}

theorem length (alike : r.Alike other) : r.source.lexemes.length = other.source.lexemes.length := by
  simpa [Source.tokens] using congrArg List.length alike.tokens

theorem current (alike : r.Alike other) : r.source.current = other.source.current := by
  have same := alike.tokens
  rw [Source.tokens, Source.tokens] at same
  rw [Source.current, Source.current]
  cases first : r.source.lexemes <;> cases second : other.source.lexemes <;>
    simp_all

theorem advance (alike : r.Alike other) (title title' : String) :
    Reader.Alike ⟨r.source.advance, title⟩ ⟨other.source.advance, title'⟩ := by
  refine ⟨?_, alike.fault⟩
  have same := alike.tokens
  rw [Source.tokens, Source.tokens] at same ⊢
  rw [Source.advance, Source.advance, List.map_tail, List.map_tail, same]

theorem fault? (alike : r.Alike other) : r.source.fault? = other.source.fault? := by
  obtain ⟨⟨ls, e⟩, _⟩ := r
  obtain ⟨⟨ls', e'⟩, _⟩ := other
  have length := alike.length
  have fault := alike.fault
  cases ls <;> cases ls' <;> cases e <;> cases e' <;>
    simp_all [Source.fault?, Ending.fault?]

end Reader.Alike

namespace Reading

variable {β : Type}

/-- Two readings give the same and come to alike readers, or both fail. -/
inductive Agree : Except ReadFault β × Reader → Except ReadFault β × Reader → Prop
  | given (v : β) {r r' : Reader} (alike : r.Alike r') :
      Agree (.ok v, r) (.ok v, r')
  | failed (fault fault' : ReadFault) (r r' : Reader) :
      Agree (.error fault, r) (.error fault', r')

/-- **A reading depends only on the tokens** and on whether the text breaks off behind them. -/
theorem Composed.agrees {reading longer : Reading β}
    (composed : Composed reading longer) : ∀ r r', r.Alike r' →
      Agree (reading.run.run r) (reading.run.run r') := by
  induction composed with
  | pure v => exact fun r r' alike => .given v alike
  | @bind β γ reading _ f _ first second agrees agrees' =>
    intro r r' alike
    have agree := agrees r r' alike
    rw [run_bind, run_bind]
    generalize reading.run.run r = res at agree
    generalize reading.run.run r' = res' at agree
    cases agree with
    | given v alike' => exact agrees' v _ _ alike'
    | failed => exact .failed ..
  | look _ _ _ agrees =>
    intro r r' alike
    rw [run_inspect, alike.current]
    exact agrees _ r r' alike
  | measure _ _ agrees =>
    intro r r' alike
    rw [run_inspect, alike.length]
    exact agrees _ r r' alike
  | advance =>
    intro r r' alike
    have advanced := alike.advance r.title r'.title
    have fault : r.source.advance.fault? = r'.source.advance.fault? := advanced.fault?
    rw [run_advance, run_advance, fault]
    cases r'.source.advance.fault? with
    | none => exact .given () advanced
    | some => exact .failed ..
  | retitle => exact fun r r' alike => .given () ⟨alike.tokens, alike.fault⟩
  | fault | nameless | endless => exact fun _ _ _ => .failed ..

end Reading

/-! ## Whole texts -/

variable {α : Type}

/-- A fault in the characters of a text is told as what ended it. -/
theorem Program.ending_of_lexical (n : Nat) : ∀ {r : Reader} {line : Nat}
    {cause : LexicalFault},
    (ofReader (α := α) n r).fault = some (.failure (.lexical line cause)) →
      ∃ stop, r.source.ending = .broken cause line stop := by
  induction n with
  | zero => rintro r line cause ⟨⟩
  | succ _ ih =>
    intro r line cause fault
    rw [ofReader] at fault
    split at fault
    · cases fault
    · rcases read : (Reading.statement).run.run r with ⟨_ | t, _⟩
      · rw [read] at fault
        cases fault
        exact (Reading.Composed.statement.keeps r _ _ read).2 line cause rfl
      · rw [read] at fault
        rw [← (Reading.Composed.statement.keeps r _ _ read).1]
        exact ih fault

/-- Texts of the same tokens are read as the same statements, and to their ends or not. -/
theorem Program.ofReader_alike (n : Nat) : ∀ {r r' : Reader}, r.Alike r' →
    (ofReader (α := α) n r).statements = (ofReader n r').statements ∧
      ((ofReader (α := α) n r).fault = none ↔ (ofReader (α := α) n r').fault = none) := by
  induction n with
  | zero => exact fun _ => ⟨rfl, Iff.rfl⟩
  | succ _ ih =>
    intro r r' alike
    have same : r.atEnd = r'.atEnd := by rw [Reader.atEnd, Reader.atEnd, alike.current]
    have agree := Reading.Composed.statement (α := α) |>.agrees r r' alike
    rw [ofReader, ofReader, same]
    split
    · exact ⟨rfl, Iff.rfl⟩
    · generalize (Reading.statement).run.run r = res at agree
      generalize (Reading.statement).run.run r' = res' at agree
      cases agree with
      | given t alike' =>
        obtain ⟨statements, fault⟩ := ih alike'
        exact ⟨congrArg (t :: ·) statements, fault⟩
      | failed => exact ⟨rfl, iff_of_false (Option.some_ne_none _) (Option.some_ne_none _)⟩

end DeviceScript.Script
