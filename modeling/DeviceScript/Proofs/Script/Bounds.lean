import DeviceScript.Proofs.Script.Composed
import DeviceScript.Proofs.Script.Produced

/-!
# Bounds on readings

A reading that ends within a bound ends in the same way within every larger one
(`Composed.extends`). A bound that grows with the number of tokens is enough wherever every step
takes a token.

`Comes reading reader least gives stuck` is what this is proved with: from the given reader, the
reading gives something that has a property and takes at least so many tokens for it, or it fails as
the script does, or `stuck` holds of the fault. Expressions and arguments never get stuck, and the
properties tell what shapes the trees have.
-/

namespace DeviceScript.Script

open Script.Tree

/-- The number of tokens that are left. -/
def Reader.left (r : Reader) : Nat := r.source.lexemes.length

def Reader.kind (r : Reader) : TokenKind := r.source.current.kind

theorem Reader.left_pos {r : Reader} (inside : r.kind ≠ .endOfText) : 0 < r.left := by
  apply Nat.pos_of_ne_zero
  intro none
  apply inside
  rw [Reader.kind, Source.current, List.length_eq_zero_iff.mp none]
  rfl

/-- The fault is a failure of the script. -/
def ReadFault.IsScript : ReadFault → Prop
  | .failure cause => cause.kind = .script
  | .endless => False

namespace Reading

variable {α β γ : Type}

theorem run_look (f : TokenKind → Reading γ) (r : Reader) :
    (currentKind >>= f).run.run r = (f r.kind).run.run r := rfl

/-! ## Enough steps -/

/-- From the reader, what the reading gives has a property, and at least so many tokens are taken
for it; a reading that gives nothing fails as the script does or is stuck. -/
def Comes (reading : Reading β) (r : Reader) (least : Nat) (gives : β → Prop)
    (stuck : ReadFault → Prop) : Prop :=
  (∀ v r', reading.run.run r = (.ok v, r') → r'.left + least ≤ r.left ∧ gives v) ∧
  ∀ fault r', reading.run.run r = (.error fault, r') → fault.IsScript ∨ stuck fault

section Coming

variable {reading : Reading β} {next : β → Reading γ} {r r' : Reader} {least total : Nat}
variable {gives : β → Prop} {wanted : γ → Prop} {stuck : ReadFault → Prop} {v : β}

namespace Comes

theorem fewer (comes : Comes reading r least gives stuck)
    (read : reading.run.run r = (.ok v, r')) : r'.left + least ≤ r.left :=
  (comes.1 v r' read).1

theorem given (comes : Comes reading r least gives stuck)
    (read : reading.run.run r = (.ok v, r')) : gives v :=
  (comes.1 v r' read).2

theorem mono {less : Nat} {weaker : ReadFault → Prop}
    (comes : Comes reading r least gives stuck) (fewer : less ≤ least)
    (implies : ∀ fault, stuck fault → weaker fault) : Comes reading r less gives weaker := by
  refine ⟨fun v r' read => ?_, fun fault r' failed =>
    (comes.2 fault r' failed).imp_right (implies fault)⟩
  obtain ⟨_, holds⟩ := comes.1 v r' read
  exact ⟨by omega, holds⟩

theorem imp {weaker : β → Prop} (comes : Comes reading r least gives stuck)
    (implies : ∀ v, gives v → weaker v) : Comes reading r least weaker stuck :=
  ⟨fun v _ read => ⟨comes.fewer read, implies v (comes.given read)⟩, comes.2⟩

/-- A bound on the number of tokens can be dropped. -/
theorem some (comes : Comes reading r least gives stuck) : Comes reading r 0 gives stuck :=
  comes.mono (Nat.zero_le _) fun _ => id

theorem pure (holds : gives v) : Comes (Pure.pure v) r 0 gives stuck := by
  refine ⟨?_, by rintro _ _ ⟨⟩⟩
  rintro _ _ ⟨⟩
  exact ⟨Nat.le_refl _, holds⟩

theorem fault (cause : GrammarFault) :
    Comes (Reading.fault cause : Reading β) r least gives stuck := by
  refine ⟨by rintro _ _ ⟨⟩, ?_⟩
  rintro _ _ ⟨⟩
  exact .inl rfl

/-- Of two readings, the second one takes what the first one leaves to be taken. -/
theorem bind (first : Comes reading r least gives stuck)
    (second : ∀ v r', reading.run.run r = (.ok v, r') →
      r'.left + least ≤ r.left → gives v → Comes (next v) r' (total - least) wanted stuck) :
    Comes (reading >>= next) r total wanted stuck := by
  rw [Comes, run_bind]
  rcases read : reading.run.run r with ⟨_ | v, r'⟩
  · refine ⟨by rintro _ _ ⟨⟩, ?_⟩
    rintro _ _ ⟨⟩
    exact first.2 _ r' read
  · have fewer := first.fewer read
    have comes := second v r' read fewer (first.given read)
    refine ⟨fun res r'' given => ?_, comes.2⟩
    obtain ⟨_, holds⟩ := comes.1 res r'' given
    exact ⟨by omega, holds⟩

/-- What is read and then changed takes the same tokens. -/
theorem map (comes : Comes reading r least gives stuck) {f : β → γ}
    (holds : ∀ v, gives v → wanted (f v)) :
    Comes (reading >>= fun v => Pure.pure (f v)) r least wanted stuck := by
  refine comes.bind fun v r' _ _ given => ?_
  rw [Nat.sub_self]
  exact .pure (holds v given)

/-- A reading that looks at the state goes on from that state. -/
theorem inspect {f : Reader → Reading γ}
    (comes : Comes (f r) r least wanted stuck) :
    Comes (get >>= f) r least wanted stuck := comes

theorem look {f : TokenKind → Reading γ}
    (comes : Comes (f r.kind) r least wanted stuck) :
    Comes (currentKind >>= f) r least wanted stuck := comes

end Comes

/-! ## Tokens -/

/-- Going on takes a token, unless the text is at its end. -/
theorem comes_advance (inside : r.kind ≠ .endOfText) : Comes advance r 1 (fun _ => True) stuck := by
  have pos := Reader.left_pos inside
  have shorter : ∀ title, Reader.left ⟨r.source.advance, title⟩ + 1 = r.left := by
    simp only [Reader.left, Source.advance, List.length_tail] at pos ⊢
    omega
  refine .inspect ?_
  dsimp only
  split
  · refine ⟨?_, by rintro _ _ ⟨⟩⟩
    rintro _ _ ⟨⟩
    exact ⟨Nat.le_of_eq (shorter _), trivial⟩
  · refine ⟨by rintro _ _ ⟨⟩, ?_⟩
    rintro _ _ ⟨⟩
    exact .inl rfl

theorem comes_expect (wanted : TokenKind) (inside : wanted ≠ .endOfText := by decide) :
    Comes (expect wanted) r 1 (fun _ => True) stuck := by
  refine .look ?_
  split
  · rename_i same
    exact comes_advance (same ▸ inside)
  · exact .fault _

theorem comes_take (inside : r.kind ≠ .endOfText) : Comes take r 1 (fun _ => True) stuck :=
  .inspect ((comes_advance inside).map fun _ => id)

theorem comes_identifier : Comes identifier r 1 (fun _ => True) stuck :=
  .inspect ((comes_expect .identifier).map fun _ => id)

/-- What is read between two tokens. -/
theorem Comes.enclosed {opener closer : TokenKind} (opens : opener ≠ .endOfText)
    (closes : closer ≠ .endOfText)
    (inner : ∀ r', (expect opener).run.run r = (.ok (), r') →
      r'.left < r.left → Comes reading r' 0 gives stuck) :
    Comes (do
      expect opener
      let v ← reading
      expect closer
      return v) r 1 gives stuck :=
  (comes_expect opener opens).bind fun _ r' entered fewer _ =>
    (inner r' entered fewer).bind fun _ _ _ _ holds =>
      (comes_expect closer closes).some.map fun _ _ => holds

end Coming

/-! ## Expressions -/

def beginsOperand (k : TokenKind) : Bool :=
  k = .number || k = .identifier || k = .string || k = .openBracket

/-- Where no operand begins, none is read. -/
theorem run_operandWithin_missing {r : Reader} (none : beginsOperand r.kind = false)
    (n : Nat) :
    (operandWithin (α := α) (n + 1)).run.run r = (.ok .missing, r) := by
  rw [operandWithin, run_look]
  generalize r.kind = k at none
  split
  case h_5 => rfl
  all_goals cases none

/-- Where no operator stands, nothing is read to the right. -/
theorem run_operatorsWithin_none {r : Reader} (none : isOperator r.kind = false) (n : Nat)
    (left : Tree α) : (operatorsWithin (n + 1) left).run.run r = (.ok left, r) := by
  rw [operatorsWithin, run_inspect]
  have other : isOperator r.source.current.kind = false := none
  simp only [other]
  rfl

theorem ne_endOfText_of_beginsOperand {k : TokenKind} (begins : beginsOperand k = true) :
    k ≠ .endOfText := by
  rintro rfl
  cases begins

theorem ne_endOfText_of_isComparison {k : TokenKind} (compares : isComparison k = true) :
    k ≠ .endOfText := by
  rintro rfl
  cases compares

theorem ne_endOfText_of_isOperator {k : TokenKind} (operator : isOperator k = true) :
    k ≠ .endOfText := by
  rintro rfl
  cases operator

variable {stuck : ReadFault → Prop}

/-- The bound is enough for operands, operators and expressions, and the token that one of them
begins with is taken. -/
theorem comes_expressions (n : Nat) :
    (∀ r, 2 * r.left + 1 ≤ n →
      Comes (operandWithin (α := α) n) r (if beginsOperand r.kind then 1 else 0)
        IsArithmetic stuck) ∧
    (∀ (left : Tree α) (r : Reader), IsArithmetic left → 2 * r.left + 1 ≤ n →
      Comes (operatorsWithin n left) r (if isOperator r.kind then 1 else 0)
        IsArithmetic stuck) ∧
    (∀ r, 2 * r.left + 2 ≤ n → Comes (expressionWithin (α := α) n) r 0 IsArithmetic stuck) := by
  induction n with
  | zero =>
    refine ⟨fun _ enough => ?_, fun _ _ _ enough => ?_, fun _ enough => ?_⟩ <;>
      exact absurd enough (Nat.not_succ_le_zero _)
  | succ _ ih =>
    obtain ⟨operand, operators, expression⟩ := ih
    refine ⟨fun r enough => ?_, fun left r isLeft enough => ?_, fun r enough => ?_⟩
    · cases begins : beginsOperand r.kind with
      | false =>
        rw [Comes, run_operandWithin_missing begins]
        exact Comes.pure .missing
      | true =>
        have inside := ne_endOfText_of_beginsOperand begins
        rw [if_pos rfl]
        refine .look ?_
        split
        · exact (comes_take inside).map fun s _ => .number s
        · exact (comes_take inside).map fun name _ => .name name
        · exact (comes_take inside).map fun s _ => .string s
        · exact .enclosed (by decide) (by decide) fun r' _ _ => expression r' (by omega)
        · simp_all [beginsOperand]
    · cases operator : isOperator r.kind with
      | false =>
        rw [Comes, run_operatorsWithin_none operator]
        exact Comes.pure isLeft
      | true =>
        have inside := ne_endOfText_of_isOperator operator
        have same : isOperator r.source.current.kind = true := operator
        rw [if_pos rfl]
        refine .inspect ?_
        simp only [same, if_true]
        refine (comes_advance inside).bind fun _ r' _ fewer _ => ?_
        refine (operand r' (by omega)).some.bind fun right r'' _ _ isRight => ?_
        exact (operators _ r'' (.binary same isLeft isRight) (by omega)).some
    · refine (operand r (by omega)).some.bind fun first r' _ fewer isFirst => ?_
      exact (operators first r' isFirst (by omega)).some

theorem stepBound_eq (r : Reader) : stepBound r.source = 2 * r.left + 2 + 1 := rfl

/-- The bound of an expression is enough. -/
theorem comes_expression (r : Reader) :
    Comes (expression (α := α)) r 0 IsArithmetic stuck :=
  .inspect ((comes_expressions _).2.2 r (Nat.le_succ _))

theorem comes_formula (r : Reader) : Comes (expression (α := α)) r 0 IsFormula stuck :=
  (comes_expression r).imp fun _ => IsArithmetic.isFormula

theorem isArithmetic_of_read {r r' : Reader} {v : Tree α}
    (read : expression.run.run r = (.ok v, r')) : IsArithmetic v := by
  have comes : Comes (expression (α := α)) r 0 IsArithmetic fun _ => False :=
    comes_expression r
  exact comes.given read

/-- An expression that begins with an operand or an operator takes a token. -/
theorem comes_expression_of_begins {r : Reader}
    (begins : beginsOperand r.kind = true ∨ isOperator r.kind = true) :
    Comes (expression (α := α)) r 1 IsArithmetic stuck := by
  obtain ⟨operand, operators, _⟩ := comes_expressions (2 * r.left + 2)
  refine .inspect ?_
  rw [stepBound_eq, expressionWithin]
  cases first : beginsOperand r.kind with
  | true =>
    have comes := operand r (by omega)
    rw [first] at comes
    exact comes.bind fun left r' _ _ isLeft => (operators left r' isLeft (by omega)).some
  | false =>
    have operator : isOperator r.kind = true := begins.resolve_left (by simp [first])
    have comes := operators .missing r .missing (by omega)
    rw [operator] at comes
    rw [Comes, run_bind, run_operandWithin_missing first]
    exact comes

/-- Where neither an operand nor an operator stands, an expression is left out. -/
theorem run_expression_missing {r : Reader} (noOperand : beginsOperand r.kind = false)
    (noOperator : isOperator r.kind = false) :
    (expression (α := α)).run.run r = (.ok .missing, r) := by
  rw [expression, run_inspect, stepBound_eq, expressionWithin, run_bind,
    run_operandWithin_missing noOperand]
  exact run_operatorsWithin_none noOperator _ _

theorem comes_operand (r : Reader) : Comes (operand (α := α)) r 0 IsArithmetic stuck :=
  .inspect ((comes_expressions _).1 r (by rw [stepBound, Reader.left]; omega)).some

theorem comes_condition (r : Reader) :
    Comes (condition (α := α)) r 0 IsFormula stuck := by
  refine (comes_formula r).bind fun left r' _ _ isLeft => .inspect ?_
  dsimp only
  split
  · rename_i compares
    refine (comes_advance (ne_endOfText_of_isComparison compares)).some.bind fun _ r'' _ _ _ => ?_
    exact (comes_formula r'').map fun _ isRight => .binary _ isLeft isRight
  · split
    · exact .pure (.binary _ isLeft .missing)
    · exact .fault _

theorem comes_inBrackets (r : Reader) :
    Comes (inBrackets (α := α)) r 1 IsFormula stuck :=
  .enclosed (by decide) (by decide) fun r' _ _ => comes_formula r'

/-! ## Arguments -/

theorem comes_argumentsWithin (n : Nat) : ∀ r, r.left + 1 ≤ n →
    Comes (argumentsWithin (α := α) n) r 0 (fun xs => ∀ item ∈ xs, IsFormula item)
      stuck := by
  induction n with
  | zero => exact fun _ enough => absurd enough (Nat.not_succ_le_zero _)
  | succ _ ih =>
    intro r enough
    refine .look ?_
    split
    · exact .pure (by simp)
    · refine (comes_formula r).bind fun argument r' _ _ isArgument => .look ?_
      split
      · exact .pure (by simpa using isArgument)
      · -- Between two arguments a comma is taken, even if both are left out.
        refine (comes_expect .comma).bind fun _ r'' _ fewer _ => ?_
        exact (ih r'' (by omega)).map fun _ inRest =>
          List.forall_mem_cons.mpr ⟨isArgument, inRest⟩

theorem comes_arguments (r : Reader) :
    Comes (arguments (α := α)) r 0 (fun xs => ∀ item ∈ xs, IsFormula item) stuck := by
  refine .inspect ?_
  refine (comes_argumentsWithin _ r ?_).bind fun xs r' _ _ inItems => ?_
  · rw [stepBound, Reader.left]
    omega
  · exact (comes_expect .closeBracket).some.map fun _ _ => inItems

/-- A call is read as a name and formulas. -/
theorem comes_callee (r : Reader) : Comes (callee (α := α)) r 1
    (fun t => ∃ name args, t = .call name args ∧ ∀ argument ∈ args, IsFormula argument) stuck := by
  refine Comes.bind comes_identifier fun name first _ _ _ => ?_
  refine (comes_expect .openBracket).some.bind fun _ r' _ _ _ => ?_
  exact (comes_arguments r').map fun args inArguments =>
    ⟨name, args, rfl, inArguments⟩

end Reading

end DeviceScript.Script
