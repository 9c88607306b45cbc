import DeviceScript.Proofs.Script.Expressions
import DeviceScript.Script.Program

/-!
# Reading undoes printing

The canonical text of a script is read as exactly the statements it was printed from. The
statements are those of `IsStatement`, nested to any depth.

A statement may be followed by anything but an operator, which would belong to its expression, and
an `else`, which would belong to its branches. Every statement begins with a keyword of its own, so
statements one after another never run into each other, and neither does the brace that closes a
body. Again there is one rule for each form of statement, which asks for the kinds of its tokens
only. The induction is on the statement; a body, and the further branches, are read back if all
statements in them are.
-/

namespace DeviceScript.Script.Reading

open Token Script.Tree List

variable {α γ : Type}

/-- What may follow a statement. -/
def afterStatement (k : TokenKind) : Prop := isOperator k = false ∧ k ≠ .otherwise

/-- What follows the statements of a body. -/
def endsBody (k : TokenKind) : Prop := k = .closeBrace ∨ k = .endOfText

theorem afterStatement_of_endsBody {k : TokenKind} (ends : endsBody k) : afterStatement k := by
  rcases ends with rfl | rfl <;> exact ⟨rfl, by decide⟩

section Rules

variable {ts middle others : List Token} {first name sign opener closer brace : Token}
  {v : Tree α} {arguments xs body : List (Tree α)} {follow : TokenKind → Prop} {res : γ}

/-! ## Statements without a body -/

theorem within_title (titles : first.kind = .title) (operand : Within operandWithin 1 ts v anything)
    {s : String} (leaf : v.leafText? = some s) :
    Within statementWithin 1 (first :: ts) (.title s : Tree α) afterStatement := by
  have operand : Takes Reading.operand ts v anything :=
    operand.takes fun source => by
      rw [stepBound]
      omega
  have retitle :
      Takes (modify fun r : Reader => { r with title := s }) [] () anything := by
    intro _ _ _ title spelled _ _
    rw [List.map_eq_nil_iff] at spelled
    subst spelled
    exact ⟨s, rfl⟩
  refine .step fun n _ => ?_
  rw [← List.append_nil ts]
  refine .lookAt titles ((takes_expect titles).andThen (operand.andThen ?_))
  simp only [leaf]
  exact (retitle.map _).anywhere

/-- The name on the left of an assignment is read, and then its right side. -/
theorem takes_target {k : TokenKind} {f : String → Reading γ} (assigns : first.kind = k)
    (named : name.kind = .identifier) (equals : sign.kind = .equals)
    (more : Takes (f name.text) others res follow) :
    Takes (do
      expect k
      let name ← identifier
      expect .equals
      f name) (first :: name :: sign :: others) res follow :=
  (takes_expect assigns).andThen
    ((takes_identifier named).andThen ((takes_expect equals).andThen more))

theorem within_assign (assigns : first.kind = .assignment) (named : name.kind = .identifier)
    (equals : sign.kind = .equals) (isValue : Takes expression ts v noOperator) :
    Within statementWithin 1 (first :: name :: sign :: ts) (.assign name.text v)
      afterStatement := by
  refine .step fun n _ => ?_
  refine .lookAt assigns (takes_target assigns named equals ?_)
  exact (isValue.map _).mono fun _ after => after.1

theorem within_gather_list (gathers : first.kind = .gather) (named : name.kind = .identifier)
    (equals : sign.kind = .equals) (opens : opener.kind = .openBracket)
    (isList : Takes list (opener :: ts) xs anything) :
    Within statementWithin 1 (first :: name :: sign :: opener :: ts)
      (.gather name.text (.list xs) .missing) afterStatement := by
  refine .step fun n _ => ?_
  refine .lookAt gathers (takes_target gathers named equals (.lookAt opens ?_))
  exact (isList.map fun xs => Tree.gather name.text (.list xs) .missing).anywhere

theorem within_gather_call {call : Token} (gathers : first.kind = .gather)
    (named : name.kind = .identifier) (equals : sign.kind = .equals) (calls : call.kind = .call)
    (isCallee : Takes callee ts v anything) :
    Within statementWithin 1 (first :: name :: sign :: call :: ts)
      (.gather name.text (.list []) v) afterStatement := by
  refine .step fun n _ => ?_
  refine .lookAt gathers (takes_target gathers named equals (.lookAt calls ?_))
  exact ((takes_expect calls).andThen (isCallee.map _)).anywhere

theorem within_gather_value {leader : Token} (gathers : first.kind = .gather)
    (named : name.kind = .identifier) (equals : sign.kind = .equals)
    (leads : leader.kind = .identifier) (isValue : Takes expression (leader :: ts) v noOperator) :
    Within statementWithin 1 (first :: name :: sign :: leader :: ts)
      (.gather name.text v .missing) afterStatement := by
  refine .step fun n _ => ?_
  refine .lookAt gathers (takes_target gathers named equals (.lookAt leads ?_))
  exact (isValue.map fun v => Tree.gather name.text v .missing).mono
    fun _ after => after.1

theorem within_print (prints : first.kind = .print) (opens : opener.kind = .openBracket)
    (closes : closer.kind = .closeBracket) (isValue : Takes expression ts v noOperator) :
    Within statementWithin 1 (first :: opener :: (ts ++ [closer])) (.print v) afterStatement := by
  refine .step fun n _ => ?_
  exact .lookAt prints (.anywhere ((takes_expect prints).andThen
    ((takes_inBrackets opens closes isValue rfl).map Tree.print)))

theorem within_sleep (sleeps : first.kind = .sleep) (opens : opener.kind = .openBracket)
    (closes : closer.kind = .closeBracket) (isValue : Takes expression ts v noOperator) :
    Within statementWithin 1 (first :: opener :: (ts ++ [closer])) (.sleep v) afterStatement := by
  refine .step fun n _ => ?_
  exact .lookAt sleeps (.anywhere ((takes_expect sleeps).andThen
    ((takes_inBrackets opens closes isValue rfl).map Tree.sleep)))

theorem within_call (calls : first.kind = .call) (isCallee : Takes callee ts v anything) :
    Within statementWithin 1 (first :: ts) v afterStatement := by
  refine .step fun n _ => ?_
  exact .lookAt calls ((takes_expect calls).andThen isCallee.anywhere)

theorem within_leave (leaves : first.kind = .leave) :
    Within statementWithin 1 [first] (.leave : Tree α) afterStatement := by
  refine .step fun n _ => ?_
  exact .lookAt leaves ((takes_expect leaves).map fun _ => Tree.leave).anywhere

theorem within_skip (skips : first.kind = .skip) :
    Within statementWithin 1 [first] (.skip : Tree α) afterStatement := by
  refine .step fun n _ => ?_
  exact .lookAt skips ((takes_expect skips).map fun _ => Tree.skip).anywhere

/-! ## Bodies -/

theorem within_statements_nil : Within (statementsWithin (α := α)) 2 [] [] endsBody := by
  refine .step fun n _ => ?_
  refine .lookPast fun k ends => ?_
  have stops : (decide (k = .closeBrace) || decide (k = .endOfText)) = true := by
    rcases ends with rfl | rfl <;> rfl
  rw [if_pos stops]
  exact .pure _ _

theorem within_statements_cons (begins : ¬ endsBody first.kind)
    (isFirst : Within statementWithin 1 (first :: ts) v afterStatement)
    (more : Within statementsWithin 2 others body endsBody)
    (separated : ∀ k, endsBody k → afterStatement (firstKind others k)) :
    Within statementsWithin 2 (first :: ts ++ others) (v :: body) endsBody := by
  refine .step fun n enough => ?_
  have goes : ¬ (decide (first.kind = .closeBrace) || decide (first.kind = .endOfText)) = true := by
    simpa [endsBody] using begins
  refine .look ?_
  rw [if_neg goes]
  exact (isFirst n (by grind)).bind ((more n (by grind)).map _) separated

theorem within_block (opens : brace.kind = .openBrace) (closes : closer.kind = .closeBrace)
    (inBody : Within statementsWithin 2 ts body endsBody) :
    Within blockWithin 1 (brace :: (ts ++ [closer])) body anything := by
  refine .step fun n enough => ?_
  refine (takes_expect opens).andThen ((inBody n (by grind)).bind
    ((takes_expect closes).map fun _ => body) fun _ _ => ?_)
  exact .inl closes

/-! ## Statements with bodies -/

theorem within_loop (loops : first.kind = .repeatTimes) (isCount : Takes expression ts v noOperator)
    (opens : brace.kind = .openBrace)
    (inBody : Within blockWithin 1 (brace :: others) body anything) :
    Within statementWithin 1 (first :: (ts ++ brace :: others)) (.loop v body) afterStatement := by
  refine .step fun n enough => ?_
  refine .lookAt loops (.anywhere ((takes_expect loops).andThen ?_))
  refine isCount.bind ((inBody n (by grind)).map _) fun _ _ => ?_
  rw [firstKind, opens]
  rfl

theorem within_whileLoop (loops : first.kind = .repeatWhile)
    (isHead : Takes expression ts v noOperator) (opens : brace.kind = .openBrace)
    (inBody : Within blockWithin 1 (brace :: others) body anything) :
    Within statementWithin 1 (first :: (ts ++ brace :: others)) (.whileLoop v body)
      afterStatement := by
  refine .step fun n enough => ?_
  refine .lookAt loops (.anywhere ((takes_expect loops).andThen ?_))
  refine isHead.bind ((inBody n (by grind)).map _) fun _ _ => ?_
  rw [firstKind, opens]
  rfl

/-- A function without parameters. -/
theorem within_routine (defines : first.kind = .function) (named : name.kind = .identifier)
    (opens : brace.kind = .openBrace)
    (inBody : Within blockWithin 1 (brace :: others) body anything) :
    Within statementWithin 1 (first :: name :: brace :: others) (.function name.text body [])
      afterStatement := by
  refine .step fun n enough => ?_
  refine .lookAt defines (.anywhere ((takes_expect defines).andThen ?_))
  refine (takes_identifier named).andThen (.lookAt opens ?_)
  exact (inBody n (by grind)).map _

theorem within_function (defines : first.kind = .function) (named : name.kind = .identifier)
    (opens : opener.kind = .openBracket) (closes : closer.kind = .closeBracket)
    (inParameters : Within argumentsWithin 1 ts arguments closing)
    (inBody : Within blockWithin 1 others body anything) :
    Within statementWithin 1 (first :: name :: opener :: (ts ++ closer :: others))
      (.function name.text body arguments) afterStatement := by
  refine .step fun n enough => ?_
  rw [append_cons ts]
  refine .lookAt defines (.anywhere ((takes_expect defines).andThen ?_))
  refine (takes_identifier named).andThen (.lookAt opens ?_)
  refine (takes_advance opener).andThen ((takes_arguments closes inParameters).andThen ?_)
  exact (inBody n (by grind)).map _

theorem within_each {comma : Token} (iterates : first.kind = .each)
    (opens : opener.kind = .openBracket) (named : name.kind = .identifier)
    (separates : comma.kind = .comma) (isItems : Takes expression ts v noOperator)
    (closes : closer.kind = .closeBracket) (inBody : Within blockWithin 1 others body anything) :
    Within statementWithin 1 (first :: opener :: name :: comma :: (ts ++ closer :: others))
      (.each name.text v body) afterStatement := by
  refine .step fun n enough => ?_
  refine .lookAt iterates (.anywhere ((takes_expect iterates).andThen ?_))
  refine (takes_expect opens).andThen ((takes_identifier named).andThen ?_)
  refine (takes_expect separates).andThen (isItems.bind ?_ fun _ _ => ?_)
  · exact (takes_expect closes).andThen ((inBody n (by grind)).map _)
  · rw [firstKind, closes]
    rfl

/-! ## Branches -/

/-- The head of a branch is read with its brackets, and then the rest of the branch. -/
theorem takes_head {f : Tree α → Reading γ} (branches : first.kind = .condition)
    (opens : opener.kind = .openBracket) (closes : closer.kind = .closeBracket)
    (isHead : Takes condition ts v closing) (more : Takes (f v) others res follow) :
    Takes (do
      expect .condition
      expect .openBracket
      let head ← condition
      expect .closeBracket
      f head) (first :: opener :: (ts ++ closer :: others)) res follow :=
  (takes_expect branches).andThen ((takes_expect opens).andThen
    (isHead.bind ((takes_expect closes).andThen more) fun _ _ => closes))

variable {parts : List (Tree α × List (Tree α)) × List (Tree α)}

theorem within_branch (branches : first.kind = .condition) (opens : opener.kind = .openBracket)
    (closes : closer.kind = .closeBracket) (isHead : Takes condition ts v closing)
    (inBody : Within blockWithin 1 middle body anything)
    (more : Within alternativesWithin 2 others parts afterStatement) :
    Within statementWithin 1 (first :: opener :: (ts ++ closer :: (middle ++ others)))
      (.branch v body parts.1 parts.2) afterStatement := by
  refine .step fun n enough => ?_
  refine .lookAt branches (takes_head branches opens closes isHead ?_)
  refine (inBody n (by grind)).andThen ?_
  exact (more n (by grind)).map fun parts => Tree.branch v body parts.1 parts.2

theorem within_alternatives_nil :
    Within (alternativesWithin (α := α)) 2 [] ([], []) afterStatement := by
  refine .step fun n _ => ?_
  refine .lookPast fun k after => ?_
  rw [if_neg after.2]
  exact .pure _ _

theorem within_alternatives_cons {start : Token} (alternates : start.kind = .otherwise)
    (branches : first.kind = .condition) (opens : opener.kind = .openBracket)
    (closes : closer.kind = .closeBracket) (isHead : Takes condition ts v closing)
    (inBody : Within blockWithin 1 middle body anything)
    (more : Within alternativesWithin 2 others parts afterStatement) :
    Within alternativesWithin 2
      (start :: first :: opener :: (ts ++ closer :: (middle ++ others)))
      ((v, body) :: parts.1, parts.2) afterStatement := by
  refine .step fun n enough => ?_
  refine .lookAt alternates ?_
  refine (takes_expect alternates).andThen (.lookAt branches ?_)
  refine takes_head branches opens closes isHead ((inBody n (by grind)).andThen ?_)
  exact (more n (by grind)).map fun parts => ((v, body) :: parts.1, parts.2)

theorem within_alternatives_otherwise {start : Token} (alternates : start.kind = .otherwise)
    (opens : brace.kind = .openBrace)
    (inBody : Within blockWithin 1 (brace :: middle) body anything)
    (more : Within alternativesWithin 2 others parts afterStatement) :
    Within alternativesWithin 2 (start :: brace :: (middle ++ others)) (parts.1, body ++ parts.2)
      afterStatement := by
  refine .step fun n enough => ?_
  refine .lookAt alternates ?_
  refine (takes_expect alternates).andThen (.lookAt opens ?_)
  refine (inBody n (by grind)).andThen ?_
  exact (more n (by grind)).map fun parts => (parts.1, body ++ parts.2)

theorem Within.statement (within : Within statementWithin 1 ts v follow) :
    Takes statement ts v follow := by
  have enough (source : Source) : source.lexemes.length + 1 ≤ 3 * source.lexemes.length + 3 := by
    omega
  exact within.takes enough

end Rules

/-! ## Printed statements -/

/-- Every statement begins with a keyword that may follow a statement and ends no body. -/
theorem statementTokens_eq_cons {t : Tree α} (isStatement : IsStatement t) :
    ∃ tok ts, statementTokens t = tok :: ts ∧ afterStatement tok.kind ∧ ¬ endsBody tok.kind := by
  have keywords : ∀ word ∈ ["name", "var", "dyn", "if", "print", "loop", "while", "break", "sleep",
      "func", "call", "foreach", "continue"],
      afterStatement (keyword word).kind ∧ ¬ endsBody (keyword word).kind := by
    simp only [afterStatement, endsBody]
    decide
  cases isStatement <;> rw [statementTokens] <;>
    exact ⟨_, _, rfl, keywords _ (by decide)⟩

theorem afterStatement_firstKind {ss : List (Tree α)} (inStatements : ∀ t ∈ ss, IsStatement t)
    {k : TokenKind} (ends : endsBody k) : afterStatement (firstKind (statementsTokens ss) k) := by
  cases ss with
  | nil => exact afterStatement_of_endsBody ends
  | cons t =>
    obtain ⟨tok, ts, same, after, -⟩ :=
      statementTokens_eq_cons (inStatements t (by simp))
    rw [statementsTokens, same]
    exact after

/-- The statement is read back from its tokens. -/
def ReadsBack (t : Tree α) : Prop :=
  IsStatement t ∧ Within statementWithin 1 (statementTokens t) t afterStatement

/-- Statements that are read back one by one are read back together, as a body in braces. -/
theorem within_inBraces {ss : List (Tree α)} (readBack : ∀ t ∈ ss, ReadsBack t) :
    Within blockWithin 1 (inBraces (statementsTokens ss)) ss anything := by
  refine within_block rfl rfl ?_
  induction ss with
  | nil => exact within_statements_nil
  | cons _ _ ih =>
    rw [List.forall_mem_cons] at readBack
    obtain ⟨⟨isStatement, within⟩, inRest⟩ := readBack
    obtain ⟨_, _, same, -, begins⟩ := statementTokens_eq_cons isStatement
    rw [same] at within
    rw [statementsTokens, same]
    exact within_statements_cons begins within (ih inRest) fun _ ends =>
      afterStatement_firstKind (fun other mem => (inRest other mem).1) ends

/-- The tokens of the statements that run if no condition holds. -/
def otherwiseTokens (otherwise : List (Tree α)) : List Token :=
  if otherwise.isEmpty then [] else keyword "else" :: inBraces (statementsTokens otherwise)

/-- What runs otherwise is read back. -/
theorem within_otherwiseTokens {otherwise : List (Tree α)}
    (readBack : ∀ t ∈ otherwise, ReadsBack t) :
    Within alternativesWithin 2 (otherwiseTokens otherwise) ([], otherwise) afterStatement := by
  cases otherwise with
  | nil => exact within_alternatives_nil
  | cons _ otherwise =>
    have last := within_alternatives_otherwise (show (keyword "else").kind = .otherwise from rfl)
      rfl (within_inBraces readBack) within_alternatives_nil
    rwa [List.append_nil, List.append_nil] at last

/-- The further branches and what runs otherwise are read back. -/
theorem within_alternativesTokens {otherwise : List (Tree α)}
    (otherwiseBack : ∀ t ∈ otherwise, ReadsBack t)
    {alts : List (Tree α × List (Tree α))} (heads : ∀ alternative ∈ alts, IsCondition alternative.1)
    (bodiesBack : ∀ alternative ∈ alts, ∀ t ∈ alternative.2, ReadsBack t) :
    Within alternativesWithin 2 (alternativesTokens alts ++ otherwiseTokens otherwise)
      (alts, otherwise) afterStatement := by
  induction alts with
  | nil =>
    rw [alternativesTokens]
    exact within_otherwiseTokens otherwiseBack
  | cons _ _ ih =>
    rw [List.forall_mem_cons] at heads bodiesBack
    simp only [alternativesTokens, headTokens, cons_append, append_assoc]
    exact within_alternatives_cons rfl rfl rfl rfl (takes_condition heads.1)
      (within_inBraces bodiesBack.1) (ih heads.2 bodiesBack.2)

/-- An expression whose leftmost leaf is a variable begins with a name. -/
theorem expressionTokens_of_leadsWithName : ∀ (v : Tree α), v.leadsWithName = true →
    ∃ name ts, expressionTokens v = Token.name name :: ts
  | .variable name, _ => ⟨name, [], rfl⟩
  | .binary left op right, leads => by
    obtain ⟨name, ts, same⟩ := expressionTokens_of_leadsWithName left leads
    exact ⟨name, _, by rw [expressionTokens, same]; rfl⟩

/-- **A statement is read back** from its tokens, wherever neither an operator nor an `else`
follows. -/
theorem within_statementTokens {t : Tree α} (isStatement : IsStatement t) :
    Within statementWithin 1 (statementTokens t) t afterStatement := by
  induction isStatement with
  | title => exact within_title rfl (within_operand_leaf (.string _)) rfl
  | assign _ isValue => exact within_assign rfl rfl rfl (takes_expression isValue)
  | gatherList _ inItems =>
    have isList := takes_list inItems
    rw [statementTokens]
    exact within_gather_list rfl rfl rfl rfl isList
  | gatherCall _ _ inArguments =>
    exact within_gather_call rfl rfl rfl rfl
      (takes_callee rfl rfl rfl (within_arguments inArguments))
  | gatherValue _ isValue leads =>
    have takes := takes_expression isValue
    obtain ⟨_, _, same⟩ := expressionTokens_of_leadsWithName _ leads
    rw [statementTokens, gatheredTokens_missing, itemTokens_of_isExpression isValue]
    rw [same] at takes ⊢
    exact within_gather_value rfl rfl rfl rfl takes
  | branch isCondition inBody heads inBodies inOtherwise bodyBack bodiesBack otherwiseBack =>
    have parts := within_alternativesTokens
      (fun other mem => ⟨inOtherwise other mem, otherwiseBack other mem⟩) heads
      fun alternative mem other inside =>
        ⟨inBodies alternative mem other inside, bodiesBack alternative mem other inside⟩
    have block := within_inBraces fun other mem => ⟨inBody other mem, bodyBack other mem⟩
    rw [statementTokens, headTokens, cons_append, cons_append, append_assoc]
    exact within_branch rfl rfl rfl (takes_condition isCondition) block parts
  | print isValue => exact within_print rfl rfl rfl (takes_expression isValue)
  | loop isCount inBody bodyBack =>
    exact within_loop rfl (takes_expression isCount) rfl
      (within_inBraces fun other mem => ⟨inBody other mem, bodyBack other mem⟩)
  | whileLoop isCondition inBody bodyBack =>
    exact within_whileLoop rfl (takes_expression isCondition) rfl
      (within_inBraces fun other mem => ⟨inBody other mem, bodyBack other mem⟩)
  | leave => exact within_leave rfl
  | sleep isDuration => exact within_sleep rfl rfl rfl (takes_expression isDuration)
  | function _ inParameters inBody bodyBack =>
    rw [statementTokens, argumentsTokens, cons_append, append_assoc]
    exact within_function rfl rfl rfl rfl (within_arguments inParameters)
      (within_inBraces fun other mem => ⟨inBody other mem, bodyBack other mem⟩)
  | call _ inArguments =>
    exact within_call rfl (takes_callee rfl rfl rfl (within_arguments inArguments))
  | each _ isItems inBody bodyBack =>
    exact within_each rfl rfl rfl rfl (takes_expression isItems) rfl
      (within_inBraces fun other mem => ⟨inBody other mem, bodyBack other mem⟩)
  | skip => exact within_skip rfl

theorem takes_statement {t : Tree α} (isStatement : IsStatement t) :
    Takes Reading.statement (statementTokens t) t afterStatement :=
  (within_statementTokens isStatement).statement

end DeviceScript.Script.Reading

namespace DeviceScript.Script

open Reading Script.Tree

variable {α : Type}

theorem length_le_statementsTokens {ss : List (Tree α)} (inStatements : ∀ t ∈ ss, IsStatement t) :
    ss.length ≤ (statementsTokens ss).length := by
  induction ss with
  | nil => exact Nat.zero_le _
  | cons _ _ ih =>
    rw [List.forall_mem_cons] at inStatements
    obtain ⟨_, _, same, -, -⟩ := statementTokens_eq_cons inStatements.1
    have rest := ih inStatements.2
    simp only [statementsTokens, same, List.length_cons, List.length_append]
    omega

/-- Statements are read one after another up to the end of the text. -/
theorem ofReader_statementsTokens (line stop : Nat) : ∀ (ss : List (Tree α)),
    (∀ t ∈ ss, IsStatement t) →
      ∀ (n : Nat) (read : List Lexeme) (name : String), ss.length < n →
        read.map (·.token) = statementsTokens ss →
          Program.ofReader n ⟨⟨read, .finished line stop⟩, name⟩ = ⟨ss, none⟩
  | _, _, 0, _, _, enough, _ => absurd enough (Nat.not_lt_zero _)
  | [], _, n + 1, read, name, _, spelled => by
    rw [statementsTokens, List.map_eq_nil_iff] at spelled
    subst spelled
    rfl
  | t :: ss, inStatements, n + 1, read, name, enough, spelled => by
    have inRest : ∀ other ∈ ss, IsStatement other :=
      fun other mem => inStatements other (by simp [mem])
    have isStatement := inStatements t (by simp)
    obtain ⟨tok, _, same, -, goesOn⟩ := statementTokens_eq_cons isStatement
    obtain ⟨front, back, rfl, inFront, inBack⟩ := List.map_eq_append_iff.mp spelled
    have notAtEnd : Reader.atEnd ⟨⟨front ++ back, .finished line stop⟩, name⟩ = false := by
      rw [same] at inFront
      obtain ⟨_, others, rfl, first, -⟩ := List.map_eq_cons_iff.mp inFront
      subst first
      exact decide_eq_false fun ended => goesOn (.inr ended)
    have followed : afterStatement (Source.current ⟨back, .finished line stop⟩).kind := by
      rw [← List.append_nil back, kind_current_append inBack]
      exact afterStatement_firstKind inRest (.inr rfl)
    obtain ⟨after, reached⟩ := takes_statement isStatement front back (.finished line stop) name
      inFront (by cases back <;> rfl) followed
    have others := ofReader_statementsTokens line stop ss inRest n back after
      (by simpa using enough) inBack
    rw [Program.ofReader, notAtEnd]
    simp only [Bool.false_eq_true, if_false, reached, others]
    rfl

/-- **Reading undoes printing.** The canonical text of any statements of the language is read as
exactly these statements, up to the end of the text and without a fault. -/
theorem ofText_printed (statements : List (Tree α))
    (inStatements : ∀ statement ∈ statements, IsStatement statement) :
    Program.ofText (printed statements) = ⟨statements, none⟩ := by
  obtain ⟨lexemes, line, stop, source, spelled⟩ :=
    ofText_spaced (statementsTokens statements)
      (lexical_statementsTokens fun statement member =>
        lexical_statementTokens (inStatements statement member))
  have reader : Reader.ofText (printed statements) = .ok ⟨⟨lexemes, .finished line stop⟩, ""⟩ := by
    simp only [Reader.ofText, printed, source]
    cases lexemes <;> rfl
  have enough : statements.length < lexemes.length + 1 := by
    have := length_le_statementsTokens inStatements
    rw [← spelled, List.length_map] at this
    omega
  rw [Program.ofText, reader]
  exact ofReader_statementsTokens line stop statements inStatements _ lexemes "" enough spelled

/-- A function whose body has loops in branches in it, and two statements after it. -/
def nestedScript : List (Tree Unit) :=
  [.function "f"
    [.branch
      (.binary (.binary (.variable "a") ⟨.plus, "+"⟩
        (.binary (.variable "b") ⟨.times, "*"⟩ (.number "2"))) ⟨.atLeast, ">="⟩ (.number "3.5"))
      [.each "i" (.variable "a") [.print (.variable "i"), .skip]]
      [(.binary (.variable "b") ⟨.equal, "=="⟩ .missing,
        [.gather "d" (.list [.number "1", .list [.variable "a", .string "s t"], .list []])
          .missing])]
      [.loop (.number "2") [.leave]]]
    [.variable "a", .variable "b"],
    .gather "r" (.list []) (.call "size" [.variable "d"]),
    .call "f" [.variable "r", .number "2"]]

theorem isStatement_nestedScript : ∀ t ∈ nestedScript, IsStatement t := by
  have a : isName "a" = true := by decide
  have b : isName "b" = true := by decide
  have d : isName "d" = true := by decide
  have i : isName "i" = true := by decide
  have r : isName "r" = true := by decide
  have f : isName "f" = true := by decide
  have size : isName "size" = true := by decide
  have one : isNumeral "1" = true := by decide
  have two : isNumeral "2" = true := by decide
  have half : isNumeral "3.5" = true := by decide
  have sum : IsExpression (.binary (.variable "a") ⟨.plus, "+"⟩
      (.binary (.variable "b") ⟨.times, "*"⟩ (.number "2")) : Tree Unit) :=
    .binary (.name a) (by decide) (.binary (.name b) (by decide) (.number two))
  have loop : IsStatement (.each "i" (.variable "a") [.print (.variable "i"), .skip] : Tree Unit) :=
    .each i (.name a) (by simpa using ⟨.print (.name i), .skip⟩)
  have inner : IsItem (.list [.variable "a", .string "s t"] : Tree Unit) :=
    .list (by simpa using ⟨.expression (.name a), .expression (.string (by decide))⟩)
  have list : IsStatement (.gather "d" (.list [.number "1", .list [.variable "a", .string "s t"],
      .list []]) .missing : Tree Unit) :=
    .gatherList d (by simpa using ⟨.expression (.number one), inner, .list (by simp)⟩)
  have last : IsStatement (.loop (.number "2") [.leave] : Tree Unit) :=
    .loop (.number two) (by simpa using .leave)
  simp only [nestedScript, List.forall_mem_cons]
  refine ⟨.function f (by simpa using ⟨.name a, .name b⟩) ?_, .gatherCall r size ?_, .call f ?_, ?_⟩
  · rw [List.forall_mem_singleton]
    exact .branch (.comparison sum (by decide) (.number half)) (by simpa using loop)
      (by simpa using .single (.name b)) (by simpa using list) (by simpa using last)
  · simpa using .name d
  · simpa using ⟨.name r, .number two⟩
  · simp

theorem ofText_printed_nestedScript :
    (∀ statement ∈ nestedScript, IsStatement statement) ∧
      Program.ofText (printed nestedScript) = ⟨nestedScript, none⟩ :=
  ⟨isStatement_nestedScript, ofText_printed nestedScript isStatement_nestedScript⟩

end DeviceScript.Script
