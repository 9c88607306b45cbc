import DeviceScript.Proofs.Script.Printing
import DeviceScript.Proofs.Script.Bounds

/-!
# Expressions, conditions, lists and arguments are read

There is one rule for each way in which the tokens of these are put together. The rules ask only for
the kinds of the tokens, so they serve for the tokens of a printed tree as well as for tokens of
which nothing else is known. The bounds on the number of steps are met because every nested reading
takes a token first.

A printed expression groups from the left, so its tokens begin with those of its left operand, and
reading it meets the operators one after another. The induction therefore runs over what is still
to come: reading the tokens of an expression, followed by anything, is reading operators to the
right of that expression (`continues_of_isExpression`). If no operator follows, that is the end
of it.
-/

namespace DeviceScript.Script.Reading

open List Token Script.Tree

variable {α : Type} {ts others : List Token} {tok opener closer op : Token}
  {v : Tree α} {follow : TokenKind → Prop}

def noOperator (k : TokenKind) : Prop := isOperator k = false

def closing (k : TokenKind) : Prop := k = .closeBracket

theorem noOperator_of_closing {k : TokenKind} (closed : closing k) : noOperator k := by
  cases closed
  rfl

/-! ## Operands and operators -/

/-- A token that is an operand by itself, and what it is read as. -/
inductive IsLeaf : Token → Tree α → Prop
  | number (s : String) : IsLeaf ⟨.number, s⟩ (.number s)
  | string (s : String) : IsLeaf ⟨.string, s⟩ (.string s)
  | name (name : String) : IsLeaf ⟨.identifier, name⟩ (.variable name)

theorem within_operand_leaf (isLeaf : IsLeaf tok v) : Within operandWithin 1 [tok] v anything := by
  refine .step fun n _ => ?_
  cases isLeaf with
  | number => exact .look ((takes_take _).map Tree.number)
  | string => exact .look ((takes_take _).map Tree.string)
  | name => exact .look ((takes_take _).map Tree.variable)

theorem within_operand_group (opens : opener.kind = .openBracket)
    (closes : closer.kind = .closeBracket) (inner : Within expressionWithin 2 ts v follow)
    (ends : follow .closeBracket) :
    Within operandWithin 1 (opener :: (ts ++ [closer])) v anything := by
  refine .step fun n enough => ?_
  exact .lookAt opens (takes_inBrackets opens closes (inner n (by grind)) ends)

/-- Reading operators ends where none follows. -/
theorem within_operators_nil (left : Tree α) :
    Within (operatorsWithin · left) 1 [] left noOperator := by
  refine .step fun n _ => ?_
  refine .inspect fun r stands => ?_
  have none : isOperator r.source.current.kind = false := stands.2
  simp only [none, Bool.false_eq_true, if_false]
  exact .pure left _

/-- Reading operators takes an operator and its operand, and goes on to the right of them. -/
theorem within_operators_cons {left right : Tree α} (operates : isOperator op.kind = true)
    (operand : Within operandWithin 1 ts right anything)
    (more : Within (operatorsWithin · (.binary left op right)) 1 others v follow) :
    Within (operatorsWithin · left) 1 (op :: (ts ++ others)) v follow := by
  refine .step fun n enough => ?_
  refine .inspect fun r stands => ?_
  have same : r.source.current = op := stands.2
  simp only [same, operates, if_true]
  exact (takes_advance op).andThen
    ((operand n (by grind)).andThen (more n (by grind)))

theorem within_expression {left : Tree α} (operand : Within operandWithin 1 ts left anything)
    (more : Within (operatorsWithin · left) 1 others v follow) :
    Within expressionWithin 2 (ts ++ others) v follow := by
  refine .step fun n enough => ?_
  exact (operand n (by grind)).andThen (more n (by grind))

/-- In front of a closing bracket an expression may be left out. -/
theorem within_expression_missing : Within (expressionWithin (α := α)) 2 [] .missing closing := by
  refine .step fun n enough => ?_
  obtain ⟨less, rfl⟩ : ∃ less, n = less + 1 := ⟨n - 1, by grind⟩
  have operand : Takes (operandWithin (α := α) (less + 1)) [] .missing closing := by
    refine .lookPast ?_
    rintro _ rfl
    exact .pure _ _
  exact operand.bind ((within_operators_nil .missing _ (by grind)).mono fun _ =>
    noOperator_of_closing) fun _ closed => closed

theorem Within.expression (within : Within expressionWithin 2 ts v follow) :
    Takes expression ts v follow :=
  within.takes fun source => by
    rw [stepBound]
    omega

/-! ## Conditions -/

theorem takes_condition_single (alone : Takes expression ts v noOperator) :
    Takes condition ts (.binary v ⟨.equal, "=="⟩ .missing) closing := by
  rw [← append_nil ts]
  refine alone.bind (.inspect fun r stands => ?_) fun _ => noOperator_of_closing
  have closed : r.source.current.kind = .closeBracket := stands.2
  have apart : isComparison .closeBracket = false := rfl
  simp only [closed, apart, Bool.false_eq_true, if_false, if_true]
  exact .pure _ _

theorem noOperator_of_isComparison {k : TokenKind} (compares : isComparison k = true) :
    noOperator k := by
  cases k <;> first | rfl | cases compares

/-- The right side of a comparison ends at the closing bracket, where it may be left out. -/
theorem takes_condition_comparison {left right : Tree α}
    (compares : isComparison op.kind = true) (isLeft : Takes expression ts left noOperator)
    (isRight : Takes expression others right closing) :
    Takes condition (ts ++ op :: others) (.binary left op right) closing := by
  refine isLeft.bind (.inspect fun r stands => ?_) fun _ _ =>
    noOperator_of_isComparison compares
  have same : r.source.current = op := stands.2
  simp only [same, compares, if_true]
  exact (takes_advance op).andThen (isRight.map _)

/-! ## Lists -/

section Lists

variable {inner xs : List (Tree α)}

theorem within_items_nil : Within (itemsWithin (α := α)) 2 [] [] closing := by
  refine .step fun n _ => ?_
  refine .lookPast ?_
  rintro _ rfl
  exact .pure _ _

theorem within_items_comma (separates : tok.kind = .comma)
    (more : Within itemsWithin 2 others xs closing) :
    Within itemsWithin 2 (tok :: others) xs closing := by
  refine .step fun n enough => ?_
  exact .lookAt separates ((takes_expect separates).andThen (more n (by grind)))

theorem within_list (opens : opener.kind = .openBracket) (closes : closer.kind = .closeBracket)
    (inItems : Within itemsWithin 2 ts xs closing) :
    Within listWithin 1 (opener :: (ts ++ [closer])) xs anything := by
  refine .step fun n enough => ?_
  exact takes_inBrackets opens closes (inItems n (by grind)) rfl

theorem Within.list (within : Within listWithin 1 ts xs follow) : Takes list ts xs follow :=
  within.takes fun source => by
    rw [stepBound]
    omega

/-- A list in a list, after which the rest of the outer list is read. -/
theorem within_items_list (opens : opener.kind = .openBracket)
    (list : Within listWithin 1 (opener :: ts) inner anything)
    (more : Within itemsWithin 2 others xs closing) :
    Within itemsWithin 2 (opener :: ts ++ others) (.list inner :: xs) closing := by
  refine .step fun n enough => ?_
  exact .lookAt opens ((list n (by grind)).andThen ((more n (by grind)).map _))

/-- An expression in a list, after which the rest of the list is read. -/
theorem within_items_item (leads : tok.kind = .number ∨ tok.kind = .string ∨ tok.kind = .identifier)
    (takes : Takes expression (tok :: ts) v noOperator)
    (more : Within itemsWithin 2 others xs closing)
    (separated : ∀ k, closing k → noOperator (firstKind others k)) :
    Within itemsWithin 2 (tok :: ts ++ others) (v :: xs) closing := by
  refine .step fun n enough => ?_
  have both : Takes (do
      let item ← expression
      return item :: (← itemsWithin n)) (tok :: ts ++ others) (v :: xs) closing :=
    takes.bind ((more n (by grind)).map _) separated
  rcases leads with leads | leads | leads <;> exact .lookAt leads both

end Lists

/-! ## Arguments -/

section Arguments

variable {arguments : List (Tree α)}

theorem within_arguments_nil : Within (argumentsWithin (α := α)) 1 [] [] closing := by
  refine .step fun n _ => ?_
  refine .lookPast ?_
  rintro _ rfl
  exact .pure _ _

theorem within_arguments_last (opens : tok.kind ≠ .closeBracket)
    (isValue : Takes expression (tok :: ts) v noOperator) :
    Within argumentsWithin 1 (tok :: ts) [v] closing := by
  refine .step fun n _ => ?_
  refine .look ?_
  rw [if_neg opens, ← append_nil (tok :: ts)]
  refine isValue.bind (.lookPast ?_) fun _ => noOperator_of_closing
  rintro _ rfl
  exact .pure _ _

theorem within_arguments_cons (opens : tok.kind ≠ .closeBracket)
    (isValue : Takes expression (tok :: ts) v noOperator) {comma : Token}
    (separates : comma.kind = .comma) (more : Within argumentsWithin 1 others arguments closing) :
    Within argumentsWithin 1 (tok :: ts ++ comma :: others) (v :: arguments) closing := by
  refine .step fun n enough => ?_
  refine .look ?_
  rw [if_neg opens]
  refine isValue.bind (.lookAt separates ?_) fun _ _ => by
    rw [firstKind, separates]
    rfl
  exact (takes_expect separates).andThen ((more n (by grind)).map _)

theorem takes_arguments (closes : closer.kind = .closeBracket)
    (within : Within argumentsWithin 1 ts arguments closing) :
    Takes Reading.arguments (ts ++ [closer]) arguments anything := by
  have inner : Takes (do argumentsWithin (stepBound (← get).source)) ts arguments closing :=
    within.takes fun source => by
      rw [stepBound]
      omega
  exact inner.bind ((takes_expect closes).map fun _ => arguments) fun _ _ => closes

theorem takes_callee (named : tok.kind = .identifier) (opens : opener.kind = .openBracket)
    (closes : closer.kind = .closeBracket)
    (within : Within argumentsWithin 1 ts arguments closing) :
    Takes callee (tok :: opener :: (ts ++ [closer])) (.call tok.text arguments) anything :=
  (takes_identifier named).andThen ((takes_expect opens).andThen
    ((takes_arguments closes within).map _))

end Arguments

/-! ## Printed expressions -/

theorem isOperator_of_mem (listed : op ∈ operators) : isOperator op.kind = true := by
  revert op
  decide

theorem isComparison_of_mem (listed : op ∈ comparisons) : isComparison op.kind = true := by
  revert op
  decide

/-- The first token of an expression is a leaf. -/
theorem expressionTokens_eq_cons (isValue : IsExpression v) :
    ∃ tok ts, expressionTokens v = tok :: ts ∧
      (tok.kind = .number ∨ tok.kind = .string ∨ tok.kind = .identifier) := by
  induction isValue with
  | number => exact ⟨_, [], rfl, .inl rfl⟩
  | string => exact ⟨_, [], rfl, .inr (.inl rfl)⟩
  | name => exact ⟨_, [], rfl, .inr (.inr rfl)⟩
  | binary _ _ _ left =>
    obtain ⟨tok, ts, same, leaf⟩ := left
    exact ⟨tok, _, by rw [expressionTokens, same]; rfl, leaf⟩

/-- What reading an expression comes down to, once its tokens are read: reading operators to the
right of it. -/
def Continues (v : Tree α) : Prop :=
  ∀ ⦃others : List Token⦄ ⦃result : Tree α⦄ ⦃follow : TokenKind → Prop⦄,
    Within (operatorsWithin · v) 1 others result follow →
      Within expressionWithin 2 (expressionTokens v ++ others) result follow

theorem Continues.within (continues : Continues v) :
    Within expressionWithin 2 (expressionTokens v) v noOperator := by
  rw [← append_nil (expressionTokens v)]
  exact continues (within_operators_nil v)

/-- The right operand of an operator is read, with its brackets if it has any. -/
theorem within_grouped (isValue : IsExpression v) (continues : Continues v) :
    Within operandWithin 1 (grouped v (expressionTokens v)) v anything := by
  cases isValue with
  | number => exact within_operand_leaf (.number _)
  | string => exact within_operand_leaf (.string _)
  | name => exact within_operand_leaf (.name _)
  | binary => exact within_operand_group rfl rfl continues.within rfl

/-- **Reading an expression goes on to the right of it.** -/
theorem continues_of_isExpression (isValue : IsExpression v) : Continues v := by
  induction isValue with
  | number => exact fun _ _ _ => within_expression (within_operand_leaf (.number _))
  | string => exact fun _ _ _ => within_expression (within_operand_leaf (.string _))
  | name => exact fun _ _ _ => within_expression (within_operand_leaf (.name _))
  | binary _ listed isRight left right =>
    intro _ _ _ more
    rw [expressionTokens, append_assoc]
    exact left (within_operators_cons (isOperator_of_mem listed) (within_grouped isRight right)
      more)

/-- An expression is read back wherever no operator follows. -/
theorem takes_expression (isValue : IsExpression v) :
    Takes expression (expressionTokens v) v noOperator :=
  (continues_of_isExpression isValue).within.expression

/-- The head of a branch is read back in front of its closing bracket. -/
theorem takes_condition (isValue : IsCondition v) :
    Takes condition (conditionTokens v) v closing := by
  cases isValue with
  | comparison isLeft listed isRight =>
    rw [conditionTokens_comparison isRight]
    exact takes_condition_comparison (isComparison_of_mem listed) (takes_expression isLeft)
      ((takes_expression isRight).mono fun _ => noOperator_of_closing)
  | single isValue => exact takes_condition_single (takes_expression isValue)

/-! ## Literals -/

/-- An expression is read as one. -/
theorem isArithmetic_of_takes {v : Tree α} (takes : Takes expression ts v noOperator) :
    IsArithmetic v := by
  obtain ⟨_, read⟩ := takes (ts.map fun tok => ⟨tok, 0, 0⟩) [] (.finished 0 0) ""
    (by simp [Function.comp_def]) rfl rfl
  exact isArithmetic_of_read read

/-- The tokens are a literal: a list, or in a list an expression that begins with a number, a string
or a name. The items of a list have commas between them. -/
inductive Literal : List Token → Tree α → Prop
  | value {tok : Token} {ts : List Token} {v : Tree α}
      (leads : tok.kind = .number ∨ tok.kind = .string ∨ tok.kind = .identifier)
      (takes : Takes expression (tok :: ts) v noOperator) :
      Literal (tok :: ts) v
  | list {opener closer : Token} {items : List (List Token × Tree α)}
      (opens : opener.kind = .openBracket) (closes : closer.kind = .closeBracket)
      (literals : ∀ item ∈ items, Literal item.1 item.2) :
      Literal (opener :: (withCommas (items.map Prod.fst) ++ [closer]))
        (.list (items.map Prod.snd))

/-- After a part comes a comma, or what follows all parts; no operator comes there. -/
theorem noOperator_afterCommas (parts : List (List Token)) (k : TokenKind)
    (closed : closing k) : noOperator (firstKind (afterCommas parts) k) := by
  cases parts with
  | nil => exact noOperator_of_closing closed
  | cons => rfl

/-- The tokens are read as an item of a list, after which the rest of the list is read. -/
def ReadsAsItem (ts : List Token) (t : Tree α) : Prop :=
  ∀ ⦃others : List Token⦄ ⦃items : List (Tree α)⦄,
    (∀ k, closing k → noOperator (firstKind others k)) →
      Within itemsWithin 2 others items closing →
        Within itemsWithin 2 (ts ++ others) (t :: items) closing

theorem within_afterCommas {xs : List (List Token × Tree α)}
    (each : ∀ item ∈ xs, ReadsAsItem item.1 item.2) :
    Within itemsWithin 2 (afterCommas (xs.map Prod.fst)) (xs.map Prod.snd) closing := by
  induction xs with
  | nil => exact within_items_nil
  | cons _ _ ih =>
    rw [forall_mem_cons] at each
    rw [map_cons]
    exact within_items_comma rfl (each.1 (noOperator_afterCommas _) (ih each.2))

theorem within_withCommas {xs : List (List Token × Tree α)}
    (each : ∀ item ∈ xs, ReadsAsItem item.1 item.2) :
    Within itemsWithin 2 (withCommas (xs.map Prod.fst)) (xs.map Prod.snd) closing := by
  cases xs with
  | nil => exact within_items_nil
  | cons =>
    rw [forall_mem_cons] at each
    exact each.1 (noOperator_afterCommas _) (within_afterCommas each.2)

/-- **Nested lists are read**, to any depth: a literal is read as an item, and also by itself if it
is a list. -/
theorem Literal.reads {t : Tree α} (literal : Literal ts t) :
    ReadsAsItem ts t ∧ ∀ inner, t = .list inner → Within listWithin 1 ts inner anything := by
  induction literal with
  | value leads takes =>
    refine ⟨fun _ _ separated more => within_items_item leads takes more separated, ?_⟩
    rintro inner rfl
    cases isArithmetic_of_takes takes
  | list opens closes _ ih =>
    have list := within_list opens closes (within_withCommas fun item mem => (ih item mem).1)
    refine ⟨fun _ _ _ more => within_items_list opens list more, ?_⟩
    rintro _ ⟨⟩
    exact list

theorem takes_list_of_literal {xs : List (Tree α)} (literal : Literal ts (.list xs)) :
    Takes list ts xs anything :=
  (literal.reads.2 xs rfl).list

theorem literal_of_isItem {t : Tree α} (isItem : IsItem t) : Literal (itemTokens t) t := by
  induction isItem with
  | expression isValue =>
    obtain ⟨_, _, same, leads⟩ := expressionTokens_eq_cons isValue
    have takes := takes_expression isValue
    rw [itemTokens_of_isExpression isValue]
    rw [same] at takes ⊢
    exact .value leads takes
  | @list xs inItems literals =>
    have printed : Literal (openSquare :: (withCommas ((xs.map fun item =>
        (itemTokens item, item)).map Prod.fst) ++ [closeSquare]))
        (.list ((xs.map fun item => (itemTokens item, item)).map Prod.snd)) :=
      .list rfl rfl (by simpa using literals)
    simpa [itemTokens, itemsTokens_eq_map, Function.comp_def] using printed

theorem takes_list {xs : List (Tree α)} (inItems : ∀ item ∈ xs, IsItem item) :
    Takes list (itemTokens (.list xs)) xs anything :=
  takes_list_of_literal (literal_of_isItem (.list inItems))

/-- The arguments of a call are read back. -/
theorem within_arguments {args : List (Tree α)}
    (inArguments : ∀ argument ∈ args, IsExpression argument) :
    Within argumentsWithin 1 (withCommas (args.map expressionTokens)) args closing := by
  induction args with
  | nil => exact within_arguments_nil
  | cons _ args ih =>
    rw [forall_mem_cons] at inArguments
    have takes := takes_expression inArguments.1
    obtain ⟨tok, _, same, leads⟩ := expressionTokens_eq_cons inArguments.1
    have opens : tok.kind ≠ .closeBracket := by
      rcases leads with k | k | k <;> simp [k]
    rw [map_cons, withCommas]
    rw [same] at takes ⊢
    cases args with
    | nil =>
      rw [map_nil, afterCommas, flatMap_nil, append_nil]
      exact within_arguments_last opens takes
    | cons =>
      rw [map_cons]
      exact within_arguments_cons opens takes rfl (ih inArguments.2)

end DeviceScript.Script.Reading
