import DeviceScript.Proofs.Script.Bounds
import DeviceScript.Proofs.Script.RoundTrip

/-!
# The grammar of the language

`Phrase` lists the forms of the language by the kinds of their tokens, with nothing left out: an
operator has two operands, a title is a single leaf, and a `dyn` has a list, a call, or an
expression that begins with a name on its right. Commas are looser. Between the items of a list
there may be any number of them or none, and one may stand behind the last argument of a call. The
head of a branch is a comparison or one expression alone, and an equality whose right side is left
out is read as such an expression alone.

Every phrase is read, and what it is read as is a tree of the language (`accepted_of_phrase`). The
induction is on the phrase. What the leaves are read as is known because the tokens are lexical: a
token of the kind of a name holds a name, and a token of the kind of an operator is one of the four
(`lexical_cases`).
-/

namespace DeviceScript.Script

open List Script.Tree

/-- A kind of token that is an operand by itself. -/
def isLeafKind (k : TokenKind) : Bool :=
  k = .number || k = .string || k = .identifier

/-- The forms of the language. -/
inductive Form
  | nothing
  | leaf
  | operand
  | operators
  | expression
  | condition
  | items
  | arguments
  | callee
  | statement
  | statements
  | block
  | alternatives

open Reading in
/-- Tokens of the kinds are complete as a text of the form. -/
inductive Phrase : Form → List TokenKind → Prop
  | nothing : Phrase .nothing []
  | emptyGroup {inner : List TokenKind} (empty : Phrase .nothing inner) :
      Phrase .nothing (.openBracket :: (inner ++ [.closeBracket]))
  | leaf {k : TokenKind} (single : isLeafKind k = true) : Phrase .leaf [k]
  | leafGroup {inner : List TokenKind} (leaf : Phrase .leaf inner) :
      Phrase .leaf (.openBracket :: (inner ++ [.closeBracket]))
  | operand {k : TokenKind} (single : isLeafKind k = true) : Phrase .operand [k]
  | group {inner : List TokenKind} (v : Phrase .expression inner) :
      Phrase .operand (.openBracket :: (inner ++ [.closeBracket]))
  | noOperator : Phrase .operators []
  | operator {k : TokenKind} {right others : List TokenKind} (operates : isOperator k = true)
      (operand : Phrase .operand right) (more : Phrase .operators others) :
      Phrase .operators (k :: (right ++ others))
  | expression {first others : List TokenKind} (operand : Phrase .operand first)
      (more : Phrase .operators others) : Phrase .expression (first ++ others)
  | single {v : List TokenKind} (isValue : Phrase .expression v) : Phrase .condition v
  | comparison {left right : List TokenKind} {k : TokenKind} (isLeft : Phrase .expression left)
      (compares : isComparison k = true) (isRight : Phrase .expression right) :
      Phrase .condition (left ++ k :: right)
  | equality {left right : List TokenKind} (isLeft : Phrase .expression left)
      (empty : Phrase .nothing right) : Phrase .condition (left ++ .equal :: right)
  | noItem : Phrase .items []
  | comma {others : List TokenKind} (more : Phrase .items others) :
      Phrase .items (.comma :: others)
  | list {inner others : List TokenKind} (inItems : Phrase .items inner)
      (more : Phrase .items others) :
      Phrase .items (.openBracket :: (inner ++ .closeBracket :: others))
  | item {k : TokenKind} {v others : List TokenKind} (leads : isLeafKind k = true)
      (isValue : Phrase .expression (k :: v)) (more : Phrase .items others) :
      Phrase .items (k :: (v ++ others))
  | noArgument : Phrase .arguments []
  | lastArgument {v : List TokenKind} (isValue : Phrase .expression v) :
      Phrase .arguments v
  | argument {v others : List TokenKind} (isValue : Phrase .expression v)
      (more : Phrase .arguments others) : Phrase .arguments (v ++ .comma :: others)
  | callee {arguments : List TokenKind} (inArguments : Phrase .arguments arguments) :
      Phrase .callee (.identifier :: .openBracket :: (arguments ++ [.closeBracket]))
  | title {v : List TokenKind} (isValue : Phrase .leaf v) :
      Phrase .statement (.title :: v)
  | assign {v : List TokenKind} (isValue : Phrase .expression v) :
      Phrase .statement (.assignment :: .identifier :: .equals :: v)
  | gatherList {items : List TokenKind} (inItems : Phrase .items items) :
      Phrase .statement (.gather :: .identifier :: .equals :: .openBracket ::
        (items ++ [.closeBracket]))
  | gatherCall {callee : List TokenKind} (isCallee : Phrase .callee callee) :
      Phrase .statement (.gather :: .identifier :: .equals :: .call :: callee)
  | gatherValue {v : List TokenKind} (isValue : Phrase .expression (.identifier :: v)) :
      Phrase .statement (.gather :: .identifier :: .equals :: .identifier :: v)
  | branch {head body others : List TokenKind} (isHead : Phrase .condition head)
      (inBody : Phrase .block body) (more : Phrase .alternatives others) :
      Phrase .statement (.condition :: .openBracket :: (head ++ .closeBracket :: (body ++ others)))
  | print {v : List TokenKind} (isValue : Phrase .expression v) :
      Phrase .statement (.print :: .openBracket :: (v ++ [.closeBracket]))
  | loop {count body : List TokenKind} (isCount : Phrase .expression count)
      (inBody : Phrase .block body) : Phrase .statement (.repeatTimes :: (count ++ body))
  | whileLoop {head body : List TokenKind} (isHead : Phrase .expression head)
      (inBody : Phrase .block body) : Phrase .statement (.repeatWhile :: (head ++ body))
  | leave : Phrase .statement [.leave]
  | sleep {duration : List TokenKind} (isDuration : Phrase .expression duration) :
      Phrase .statement (.sleep :: .openBracket :: (duration ++ [.closeBracket]))
  | routine {body : List TokenKind} (inBody : Phrase .block body) :
      Phrase .statement (.function :: .identifier :: body)
  | function {params body : List TokenKind} (inParameters : Phrase .arguments params)
      (inBody : Phrase .block body) :
      Phrase .statement (.function :: .identifier :: .openBracket ::
        (params ++ .closeBracket :: body))
  | call {callee : List TokenKind} (isCallee : Phrase .callee callee) :
      Phrase .statement (.call :: callee)
  | each {items body : List TokenKind} (isItems : Phrase .expression items)
      (inBody : Phrase .block body) :
      Phrase .statement (.each :: .openBracket :: .identifier :: .comma ::
        (items ++ .closeBracket :: body))
  | skip : Phrase .statement [.skip]
  | noStatement : Phrase .statements []
  | following {first others : List TokenKind} (isFirst : Phrase .statement first)
      (more : Phrase .statements others) : Phrase .statements (first ++ others)
  | block {body : List TokenKind} (inBody : Phrase .statements body) :
      Phrase .block (.openBrace :: (body ++ [.closeBrace]))
  | noAlternative : Phrase .alternatives []
  | alternative {head body others : List TokenKind} (isHead : Phrase .condition head)
      (inBody : Phrase .block body) (more : Phrase .alternatives others) :
      Phrase .alternatives (.otherwise :: .condition :: .openBracket ::
        (head ++ .closeBracket :: (body ++ others)))
  | otherwise {body others : List TokenKind} (inBody : Phrase .block body)
      (more : Phrase .alternatives others) : Phrase .alternatives (.otherwise :: (body ++ others))

namespace Reading

variable {α β : Type} {k : TokenKind} {kinds front back : List TokenKind} {s : String}
  {tok : Token} {ts : List Token}

/-! ## Lexical tokens -/

theorem isLeafKind_iff (k : TokenKind) :
    isLeafKind k = true ↔ k = .number ∨ k = .string ∨ k = .identifier := by
  simp [isLeafKind, or_assoc]

/-- The signs of the language. -/
def signTokens : List Token :=
  [⟨.plus, "+"⟩, ⟨.minus, "-"⟩, ⟨.times, "*"⟩, ⟨.divide, "/"⟩, ⟨.openBracket, "("⟩,
    ⟨.closeBracket, ")"⟩, ⟨.openBracket, "["⟩, ⟨.closeBracket, "]"⟩, ⟨.openBrace, "\x7b"⟩,
    ⟨.closeBrace, "\x7d"⟩, ⟨.comma, ","⟩, ⟨.less, "<"⟩, ⟨.greater, ">"⟩, ⟨.equals, "="⟩,
    ⟨.equal, "=="⟩, ⟨.notEqual, "!="⟩, ⟨.atMost, "<="⟩, ⟨.atLeast, ">="⟩]

theorem mem_signTokens_of_signKind? {c : Char} (sign : signKind? c = some k) :
    ⟨k, String.singleton c⟩ ∈ signTokens := by
  unfold signKind? at sign
  split at sign <;> first | cases sign; decide | cases sign

theorem mem_signTokens_of_pairKind? {first second : Char} (pair : pairKind? first second = some k) :
    ⟨k, String.ofList [first, second]⟩ ∈ signTokens := by
  have same : second = '=' := by
    refine Classical.byContradiction fun other => ?_
    rw [pairKind?, if_pos other] at pair
    cases pair
  have listed := mem_of_pairKind? pair
  simp only [mem_cons, Prod.mk.injEq, not_mem_nil, or_false] at listed
  subst same
  rcases listed with ⟨rfl, rfl⟩ | ⟨rfl, rfl⟩ | ⟨rfl, rfl⟩ | ⟨rfl, rfl⟩ <;> decide

/-- A lexical token is a leaf, a keyword or a sign. -/
theorem lexical_cases (lexical : tok.Lexical) :
    (tok.kind = .number ∧ isNumeral tok.text = true) ∨
      (tok.kind = .string ∧ '"' ∉ tok.text.toList) ∨
      (tok.kind = .identifier ∧ isName tok.text = true) ∨
      (tok.text, tok.kind) ∈ keywords ∨ tok ∈ signTokens := by
  cases lexical with
  | keyword listed => exact .inr (.inr (.inr (.inl listed)))
  | name named => exact .inr (.inr (.inl ⟨rfl, named⟩))
  | numeral numeral => exact .inl ⟨rfl, numeral⟩
  | string unquoted => exact .inr (.inl ⟨rfl, unquoted⟩)
  | sign sign => exact .inr (.inr (.inr (.inr (mem_signTokens_of_signKind? sign))))
  | pair pair => exact .inr (.inr (.inr (.inr (mem_signTokens_of_pairKind? pair))))

/-- A token of a kind that neither keywords nor signs have is a leaf. -/
theorem lexical_leaf (lexical : tok.Lexical) (single : isLeafKind tok.kind = true) :
    (tok.kind = .number ∧ isNumeral tok.text = true) ∨
      (tok.kind = .string ∧ '"' ∉ tok.text.toList) ∨
      (tok.kind = .identifier ∧ isName tok.text = true) := by
  have keyword : ∀ e ∈ keywords, isLeafKind e.2 = false := by decide
  have sign : ∀ other ∈ signTokens, isLeafKind other.kind = false := by decide
  rcases lexical_cases lexical with leaf | leaf | leaf | listed | listed
  · exact .inl leaf
  · exact .inr (.inl leaf)
  · exact .inr (.inr leaf)
  · rw [keyword _ listed] at single
    cases single
  · rw [sign _ listed] at single
    cases single

/-- A token of a kind that only signs have is a sign. -/
theorem lexical_sign (lexical : tok.Lexical)
    (operates : isOperator tok.kind = true ∨ isComparison tok.kind = true) : tok ∈ signTokens := by
  have keyword : ∀ e ∈ keywords, isOperator e.2 = false ∧ isComparison e.2 = false := by
    decide
  rcases lexical_cases lexical with ⟨leaf, -⟩ | ⟨leaf, -⟩ | ⟨leaf, -⟩ | listed | listed
  · rw [leaf] at operates
    simp [isOperator, isComparison] at operates
  · rw [leaf] at operates
    simp [isOperator, isComparison] at operates
  · rw [leaf] at operates
    simp [isOperator, isComparison] at operates
  · obtain ⟨noOperator, noComparison⟩ := keyword _ listed
    rcases operates with operates | operates
    · rw [noOperator] at operates
      cases operates
    · rw [noComparison] at operates
      cases operates
  · exact listed

theorem mem_operators_of_lexical (lexical : tok.Lexical)
    (operates : isOperator tok.kind = true) : tok ∈ Token.operators := by
  have every : ∀ other ∈ signTokens, isOperator other.kind = true → other ∈ Token.operators := by
    decide
  exact every tok (lexical_sign lexical (.inl operates)) operates

theorem mem_comparisons_of_lexical (lexical : tok.Lexical)
    (compares : isComparison tok.kind = true) : tok ∈ Token.comparisons := by
  have every : ∀ other ∈ signTokens, isComparison other.kind = true →
      other ∈ Token.comparisons := by decide
  exact every tok (lexical_sign lexical (.inr compares)) compares

theorem isName_of_lexical (lexical : tok.Lexical) (named : tok.kind = .identifier) :
    isName tok.text = true := by
  rcases lexical_leaf lexical (by rw [named]; rfl) with ⟨other, -⟩ | ⟨other, -⟩ | ⟨-, isName⟩
  · cases other.symm.trans named
  · cases other.symm.trans named
  · exact isName

/-- A leaf is read as an expression, which is a variable if the leaf is a name. -/
theorem exists_isLeaf (lexical : tok.Lexical) (single : isLeafKind tok.kind = true) :
    ∃ v : Tree α, IsLeaf tok v ∧ IsExpression v ∧
      v.leafText? = some tok.text ∧
      (tok.kind = .identifier → v.leadsWithName = true) := by
  obtain ⟨k, s⟩ := tok
  rcases lexical_leaf lexical single with ⟨rfl, numeral⟩ | ⟨rfl, unquoted⟩ | ⟨rfl, named⟩
  · exact ⟨_, .number s, .number numeral, rfl, by rintro ⟨⟩⟩
  · exact ⟨_, .string s, .string unquoted, rfl, by rintro ⟨⟩⟩
  · exact ⟨_, .name s, .name named, rfl, fun _ => rfl⟩

theorem unquoted_of_isNumeral (numeral : isNumeral s = true) : '"' ∉ s.toList := by
  intro quoted
  unfold isNumeral at numeral
  split at numeral
  · cases numeral
  · rename_i c rest spelled
    rw [Bool.and_eq_true] at numeral
    rw [spelled, mem_cons] at quoted
    rcases quoted with rfl | quoted
    · cases numeral.1
    · have inside := all_eq_true.mp numeral.2 _ quoted
      cases inside

theorem unquoted_of_isName (named : isName s = true) : '"' ∉ s.toList := by
  intro quoted
  rw [isName, Bool.and_eq_true] at named
  replace named := named.1
  unfold isWord at named
  split at named
  · cases named
  · rename_i c rest spelled
    rw [Bool.and_eq_true] at named
    rw [spelled, mem_cons] at quoted
    have outside : Text.isWordPart '"' = false ∧ isWordStart '"' = false := by decide +kernel
    rcases quoted with rfl | quoted
    · cases named.1
    · have inside := all_eq_true.mp named.2 _ quoted
      rw [outside.1] at inside
      cases inside

theorem unquoted_of_leafText? {v : Tree α} (isValue : IsExpression v)
    (leaf : v.leafText? = some s) : '"' ∉ s.toList := by
  cases isValue with
  | number numeral =>
    cases leaf
    exact unquoted_of_isNumeral numeral
  | string unquoted =>
    cases leaf
    exact unquoted
  | name named =>
    cases leaf
    exact unquoted_of_isName named
  | binary => cases leaf

/-- The tokens have the given kinds, and they are lexical. -/
inductive Spelled : List Token → List TokenKind → Prop
  | nil : Spelled [] []
  | cons {tok : Token} {k : TokenKind} {ts : List Token} {ks : List TokenKind}
      (same : tok.kind = k) (lexical : tok.Lexical) (more : Spelled ts ks) :
      Spelled (tok :: ts) (k :: ks)

theorem spelled_tokens {read : List Lexeme} (lexical : ∀ lexeme ∈ read, lexeme.token.Lexical) :
    Spelled (read.map (·.token)) (read.map (·.token.kind)) := by
  induction read with
  | nil => exact .nil
  | cons _ _ ih =>
    rw [forall_mem_cons] at lexical
    exact .cons rfl lexical.1 (ih lexical.2)

namespace Spelled

theorem split (spelled : Spelled ts (front ++ back)) : ∃ first last,
    ts = first ++ last ∧ Spelled first front ∧ Spelled last back := by
  induction front generalizing ts with
  | nil => exact ⟨[], ts, rfl, .nil, spelled⟩
  | cons _ _ ih =>
    rcases spelled with _ | ⟨same, lexical, more⟩
    obtain ⟨first, last, rfl, inFront, inBack⟩ := ih more
    exact ⟨_ :: first, last, rfl, .cons same lexical inFront, inBack⟩

/-- The tokens in front of one that stands inside, and those behind it. -/
theorem around (spelled : Spelled ts (front ++ k :: back)) : ∃ first tok last,
    ts = first ++ tok :: last ∧ Spelled first front ∧ tok.kind = k ∧ tok.Lexical ∧
      Spelled last back := by
  obtain ⟨first, last, rfl, inFront, more⟩ := spelled.split
  rcases more with _ | ⟨same, lexical, inBack⟩
  exact ⟨first, _, _, rfl, inFront, same, lexical, inBack⟩

end Spelled

/-! ## What phrases begin with -/

/-- What an operand begins with. -/
theorem operand_eq_cons (phrase : Phrase .operand kinds) :
    ∃ k others, kinds = k :: others ∧ beginsOperand k = true := by
  cases phrase with
  | @operand k single =>
    refine ⟨k, [], rfl, ?_⟩
    rcases (isLeafKind_iff k).mp single with rfl | rfl | rfl <;> rfl
  | group => exact ⟨_, _, rfl, rfl⟩

theorem expression_eq_cons (phrase : Phrase .expression kinds) :
    ∃ k others, kinds = k :: others ∧ beginsOperand k = true := by
  cases phrase with
  | expression operand =>
    obtain ⟨k, others, rfl, begins⟩ := operand_eq_cons operand
    exact ⟨k, _, rfl, begins⟩

theorem block_eq_cons (phrase : Phrase .block kinds) : ∃ others, kinds = .openBrace :: others := by
  cases phrase with
  | block => exact ⟨_, rfl⟩

/-- Every statement begins with a keyword that may follow a statement and ends no body. -/
theorem statement_eq_cons (phrase : Phrase .statement kinds) :
    ∃ k others, kinds = k :: others ∧ afterStatement k ∧ ¬ endsBody k := by
  cases phrase <;>
    exact ⟨_, _, rfl, ⟨rfl, by decide⟩, by simp [endsBody]⟩

/-- No operator stands behind an item of a list. -/
theorem noOperator_items (phrase : Phrase .items kinds) (spelled : Spelled ts kinds)
    (k : TokenKind) (closed : closing k) : noOperator (firstKind ts k) := by
  cases phrase with
  | noItem =>
    cases spelled
    exact noOperator_of_closing closed
  | comma | list =>
    rcases spelled with _ | ⟨same, -, -⟩
    rw [firstKind, same]
    rfl
  | item leads =>
    rcases spelled with _ | ⟨rfl, -, -⟩
    rcases (isLeafKind_iff _).mp leads with same | same | same <;> rw [firstKind, same] <;> rfl

theorem afterStatement_statements (phrase : Phrase .statements kinds) (spelled : Spelled ts kinds)
    (ends : endsBody k) : afterStatement (firstKind ts k) := by
  cases phrase with
  | noStatement =>
    cases spelled
    exact afterStatement_of_endsBody ends
  | following isFirst =>
    obtain ⟨_, _, rfl, after, -⟩ := statement_eq_cons isFirst
    rcases spelled with _ | ⟨rfl, -, -⟩
    exact after

/-! ## Every phrase is read -/

/-- All of them have the property. -/
def All (good : β → Prop) (values : List β) : Prop := ∀ v ∈ values, good v

theorem all_nil (good : β → Prop) : All good [] := forall_mem_nil _

theorem all_cons {good : β → Prop} {v : β} {vs : List β} (first : good v)
    (others : All good vs) : All good (v :: vs) :=
  forall_mem_cons.mpr ⟨first, others⟩

/-- The alternatives of a branch and what runs otherwise. -/
structure AreParts (parts : List (Tree α × List (Tree α)) × List (Tree α)) : Prop where
  heads : ∀ alternative ∈ parts.1, IsCondition alternative.1
  inBodies : ∀ alternative ∈ parts.1, ∀ statement ∈ alternative.2, IsStatement statement
  inOtherwise : ∀ statement ∈ parts.2, IsStatement statement

theorem AreParts.cons {head : Tree α} {body : List (Tree α)}
    {parts : List (Tree α × List (Tree α)) × List (Tree α)} (isHead : IsCondition head)
    (inBody : All IsStatement body) (areParts : AreParts parts) :
    AreParts ((head, body) :: parts.1, parts.2) :=
  ⟨forall_mem_cons.mpr ⟨isHead, areParts.heads⟩,
    forall_mem_cons.mpr ⟨inBody, areParts.inBodies⟩, areParts.inOtherwise⟩

theorem AreParts.otherwise {body : List (Tree α)}
    {parts : List (Tree α × List (Tree α)) × List (Tree α)} (inBody : All IsStatement body)
    (areParts : AreParts parts) : AreParts (parts.1, body ++ parts.2) :=
  ⟨areParts.heads, areParts.inBodies, forall_mem_append.mpr ⟨inBody, areParts.inOtherwise⟩⟩

/-- An expression that begins with a variable if its tokens begin with a name. -/
def Leading (ts : List Token) (v : Tree α) : Prop :=
  IsExpression v ∧ (firstKind ts .endOfText = .identifier → v.leadsWithName = true)

section

variable (α)

/-- The tokens are read as the form, and what they are read as is a tree of the language. -/
def Accepted : Form → List Token → Prop
  | .nothing, ts => Within (expressionWithin (α := α)) 2 ts .missing closing
  | .leaf, ts => ∃ (v : Tree α) (s : String), IsExpression v ∧
      v.leafText? = some s ∧ Within operandWithin 1 ts v anything
  | .operand, ts => ∃ v : Tree α, Leading ts v ∧ Within operandWithin 1 ts v anything
  | .operators, ts => ∀ left : Tree α, IsExpression left → ∃ v, IsExpression v ∧
      (left.leadsWithName = true → v.leadsWithName = true) ∧
      Within (operatorsWithin · left) 1 ts v noOperator
  | .expression, ts => ∃ v : Tree α, Leading ts v ∧ Within expressionWithin 2 ts v noOperator
  | .condition, ts => ∃ v : Tree α, IsCondition v ∧ Takes condition ts v closing
  | .items, ts => ∃ items : List (Tree α), All IsItem items ∧ Within itemsWithin 2 ts items closing
  | .arguments, ts => ∃ args : List (Tree α), All IsExpression args ∧
      Within argumentsWithin 1 ts args closing
  | .callee, ts => ∃ (name : String) (args : List (Tree α)), isName name = true ∧
      All IsExpression args ∧ Takes callee ts (.call name args) anything
  | .statement, ts => ∃ t : Tree α, IsStatement t ∧ Within statementWithin 1 ts t afterStatement
  | .statements, ts => ∃ body : List (Tree α), All IsStatement body ∧
      Within statementsWithin 2 ts body endsBody
  | .block, ts => ∃ body : List (Tree α), All IsStatement body ∧
      Within blockWithin 1 ts body anything
  | .alternatives, ts => ∃ parts : List (Tree α × List (Tree α)) × List (Tree α),
      AreParts parts ∧ Within alternativesWithin 2 ts parts afterStatement

end

/-- **Every phrase is read** as a tree of the language. -/
theorem accepted_of_phrase {form : Form} (phrase : Phrase form kinds) :
    ∀ {ts : List Token}, Spelled ts kinds → Accepted α form ts := by
  induction phrase with
  | nothing =>
    rintro _ ⟨⟩
    exact within_expression_missing
  | emptyGroup _ ih =>
    rintro _ (_ | ⟨opens, -, spelled⟩)
    obtain ⟨inner, closer, _, rfl, inInner, closes, -, ⟨⟩⟩ := spelled.around
    have group := within_expression (within_operand_group opens closes (ih inInner) rfl)
      (within_operators_nil _)
    rw [append_nil] at group
    exact group.mono fun _ => noOperator_of_closing
  | leaf single =>
    rintro _ (_ | ⟨rfl, lexical, ⟨⟩⟩)
    obtain ⟨v, isLeaf, isValue, s, -⟩ := exists_isLeaf lexical single
    exact ⟨v, _, isValue, s, within_operand_leaf isLeaf⟩
  | leafGroup leaf ih =>
    rintro _ (_ | ⟨opens, -, spelled⟩)
    obtain ⟨inner, closer, _, rfl, inInner, closes, -, ⟨⟩⟩ := spelled.around
    obtain ⟨v, s, isValue, leaf, reads⟩ := ih inInner
    have whole := within_expression reads (within_operators_nil v)
    rw [append_nil] at whole
    exact ⟨v, s, isValue, leaf, within_operand_group opens closes whole rfl⟩
  | operand single =>
    rintro _ (_ | ⟨rfl, lexical, ⟨⟩⟩)
    obtain ⟨v, isLeaf, isValue, -, leads⟩ := exists_isLeaf lexical single
    exact ⟨v, ⟨isValue, leads⟩, within_operand_leaf isLeaf⟩
  | group isValue ih =>
    rintro _ (_ | ⟨opens, -, spelled⟩)
    obtain ⟨inner, closer, _, rfl, inInner, closes, -, ⟨⟩⟩ := spelled.around
    obtain ⟨v, ⟨isValue, -⟩, reads⟩ := ih inInner
    refine ⟨v, ⟨isValue, fun leads => ?_⟩, within_operand_group opens closes reads rfl⟩
    cases opens.symm.trans leads
  | noOperator =>
    rintro _ ⟨⟩ left isLeft
    exact ⟨left, isLeft, id, within_operators_nil left⟩
  | operator operates _ _ isOperand ih =>
    rintro _ (_ | ⟨rfl, lexical, spelled⟩) left isLeft
    obtain ⟨first, last, rfl, inFirst, inLast⟩ := spelled.split
    obtain ⟨right, ⟨isRight, -⟩, reads⟩ := isOperand inFirst
    have listed := mem_operators_of_lexical lexical operates
    obtain ⟨v, isValue, leads, goesOn⟩ := ih inLast _ (.binary isLeft listed isRight)
    exact ⟨v, isValue, leads, within_operators_cons operates reads goesOn⟩
  | expression operand _ isOperand ih =>
    intro ts spelled
    obtain ⟨first, last, rfl, inFirst, inLast⟩ := spelled.split
    obtain ⟨left, ⟨isLeft, begins⟩, reads⟩ := isOperand inFirst
    obtain ⟨v, isValue, leads, goesOn⟩ := ih inLast left isLeft
    refine ⟨v, ⟨isValue, fun named => leads (begins ?_)⟩, within_expression reads goesOn⟩
    obtain ⟨k, others, rfl, -⟩ := operand_eq_cons operand
    cases inFirst
    exact named
  | single isValue ih =>
    intro ts spelled
    obtain ⟨v, ⟨isValue, -⟩, reads⟩ := ih spelled
    exact ⟨_, .single isValue, takes_condition_single reads.expression⟩
  | comparison isLeft compares isRight leftHolds rightHolds =>
    intro ts spelled
    obtain ⟨front, sign, back, rfl, inFront, rfl, lexical, inBack⟩ := spelled.around
    obtain ⟨left, ⟨isLeft, -⟩, reads⟩ := leftHolds inFront
    obtain ⟨right, ⟨isRight, -⟩, follows⟩ := rightHolds inBack
    exact ⟨_, .comparison isLeft (mem_comparisons_of_lexical lexical compares) isRight,
      takes_condition_comparison compares reads.expression
        (follows.expression.mono fun _ => noOperator_of_closing)⟩
  | equality isLeft _ leftHolds ih =>
    intro ts spelled
    obtain ⟨front, sign, back, rfl, inFront, same, lexical, inBack⟩ := spelled.around
    obtain ⟨left, ⟨isLeft, -⟩, reads⟩ := leftHolds inFront
    have every : ∀ other ∈ Token.comparisons, other.kind = .equal → other = ⟨.equal, "=="⟩ := by
      decide
    have compares : isComparison sign.kind = true := by
      rw [same]
      rfl
    obtain rfl := every sign (mem_comparisons_of_lexical lexical compares) same
    exact ⟨_, .single isLeft, takes_condition_comparison rfl reads.expression
      (ih inBack).expression⟩
  | noItem =>
    rintro _ ⟨⟩
    exact ⟨[], all_nil _, within_items_nil⟩
  | comma _ ih =>
    rintro _ (_ | ⟨separates, -, spelled⟩)
    obtain ⟨xs, inItems, reads⟩ := ih spelled
    exact ⟨xs, inItems, within_items_comma separates reads⟩
  | list inItems _ inner ih =>
    rintro _ (_ | ⟨opens, -, spelled⟩)
    obtain ⟨first, closer, last, rfl, inFirst, closes, -, inLast⟩ := spelled.around
    obtain ⟨nested, inNested, reads⟩ := inner inFirst
    obtain ⟨xs, inItems, goesOn⟩ := ih inLast
    refine ⟨.list nested :: xs, all_cons (.list inNested) inItems, ?_⟩
    rw [append_cons]
    exact within_items_list opens (within_list opens closes reads) goesOn
  | item leads _ more v ih =>
    rintro _ (_ | ⟨rfl, lexical, spelled⟩)
    obtain ⟨first, last, rfl, inFirst, inLast⟩ := spelled.split
    obtain ⟨item, ⟨isItem, -⟩, reads⟩ := v (.cons rfl lexical inFirst)
    obtain ⟨xs, inItems, goesOn⟩ := ih inLast
    exact ⟨item :: xs, all_cons (.expression isItem) inItems, within_items_item
      ((isLeafKind_iff _).mp leads) reads.expression goesOn (noOperator_items more inLast)⟩
  | noArgument =>
    rintro _ ⟨⟩
    exact ⟨[], all_nil _, within_arguments_nil⟩
  | lastArgument isValue ih =>
    intro ts spelled
    obtain ⟨v, ⟨isArgument, -⟩, reads⟩ := ih spelled
    obtain ⟨k, others, rfl, begins⟩ := expression_eq_cons isValue
    rcases spelled with _ | ⟨rfl, -, -⟩
    refine ⟨[v], all_cons isArgument (all_nil _), within_arguments_last ?_ reads.expression⟩
    intro closes
    rw [closes] at begins
    cases begins
  | argument isValue _ v ih =>
    intro ts spelled
    obtain ⟨first, comma, last, rfl, inFirst, separates, -, inLast⟩ := spelled.around
    obtain ⟨argument, ⟨isArgument, -⟩, reads⟩ := v inFirst
    obtain ⟨args, inArguments, goesOn⟩ := ih inLast
    obtain ⟨k, others, rfl, begins⟩ := expression_eq_cons isValue
    rcases inFirst with _ | ⟨rfl, -, -⟩
    refine ⟨argument :: args, all_cons isArgument inArguments,
      within_arguments_cons ?_ reads.expression separates goesOn⟩
    intro closes
    rw [closes] at begins
    cases begins
  | callee inArguments ih =>
    rintro _ (_ | ⟨named, lexical, _ | ⟨opens, -, spelled⟩⟩)
    obtain ⟨inner, closer, _, rfl, inInner, closes, -, ⟨⟩⟩ := spelled.around
    obtain ⟨args, inArguments, reads⟩ := ih inInner
    exact ⟨_, args, isName_of_lexical lexical named, inArguments,
      takes_callee named opens closes reads⟩
  | title isValue ih =>
    rintro _ (_ | ⟨titles, -, spelled⟩)
    obtain ⟨v, s, isValue, leaf, reads⟩ := ih spelled
    exact ⟨_, .title (unquoted_of_leafText? isValue leaf), within_title titles reads leaf⟩
  | assign isValue ih =>
    rintro _ (_ | ⟨assigns, -, _ | ⟨named, lexical, _ | ⟨equals, -, spelled⟩⟩⟩)
    obtain ⟨v, ⟨isValue, -⟩, reads⟩ := ih spelled
    exact ⟨_, .assign (isName_of_lexical lexical named) isValue,
      within_assign assigns named equals reads.expression⟩
  | gatherList inItems ih =>
    rintro _ (_ | ⟨gathers, -, _ | ⟨named, lexical, _ | ⟨equals, -, _ | ⟨opens, -, spelled⟩⟩⟩⟩)
    obtain ⟨inner, closer, _, rfl, inInner, closes, -, ⟨⟩⟩ := spelled.around
    obtain ⟨xs, inItems, reads⟩ := ih inInner
    exact ⟨_, .gatherList (isName_of_lexical lexical named) inItems,
      within_gather_list gathers named equals opens (within_list opens closes reads).list⟩
  | gatherCall _ ih =>
    rintro _ (_ | ⟨gathers, -, _ | ⟨named, lexical, _ | ⟨equals, -, _ | ⟨calls, -, spelled⟩⟩⟩⟩)
    obtain ⟨callee, args, calleeNamed, inArguments, reads⟩ := ih spelled
    exact ⟨_, .gatherCall (isName_of_lexical lexical named) calleeNamed inArguments,
      within_gather_call gathers named equals calls reads⟩
  | gatherValue isValue ih =>
    rintro _ (_ | ⟨gathers, -, _ | ⟨named, lexical, _ | ⟨equals, -, spelled⟩⟩⟩)
    obtain ⟨v, ⟨isValue, leads⟩, reads⟩ := ih spelled
    rcases spelled with _ | ⟨same, -, -⟩
    exact ⟨_, .gatherValue (isName_of_lexical lexical named) isValue (leads same),
      within_gather_value gathers named equals same reads.expression⟩
  | branch _ _ _ head body ih =>
    rintro _ (_ | ⟨branches, -, _ | ⟨opens, -, spelled⟩⟩)
    obtain ⟨inner, closer, others, rfl, inInner, closes, -, spelled⟩ := spelled.around
    obtain ⟨middle, last, rfl, inMiddle, inLast⟩ := spelled.split
    obtain ⟨condition, isCondition, reads⟩ := head inInner
    obtain ⟨ss, inStatements, block⟩ := body inMiddle
    obtain ⟨parts, areParts, goesOn⟩ := ih inLast
    exact ⟨_, .branch isCondition inStatements areParts.heads areParts.inBodies
      areParts.inOtherwise, within_branch branches opens closes reads block goesOn⟩
  | print isValue ih =>
    rintro _ (_ | ⟨prints, -, _ | ⟨opens, -, spelled⟩⟩)
    obtain ⟨inner, closer, _, rfl, inInner, closes, -, ⟨⟩⟩ := spelled.around
    obtain ⟨v, ⟨isValue, -⟩, reads⟩ := ih inInner
    exact ⟨_, .print isValue, within_print prints opens closes reads.expression⟩
  | loop _ inBody count body =>
    rintro _ (_ | ⟨loops, -, spelled⟩)
    obtain ⟨first, last, rfl, inFirst, inLast⟩ := spelled.split
    obtain ⟨v, ⟨isValue, -⟩, reads⟩ := count inFirst
    obtain ⟨ss, inStatements, block⟩ := body inLast
    obtain ⟨others, rfl⟩ := block_eq_cons inBody
    rcases inLast with _ | ⟨braces, -, -⟩
    exact ⟨_, .loop isValue inStatements, within_loop loops reads.expression braces block⟩
  | whileLoop _ inBody head body =>
    rintro _ (_ | ⟨loops, -, spelled⟩)
    obtain ⟨first, last, rfl, inFirst, inLast⟩ := spelled.split
    obtain ⟨v, ⟨isValue, -⟩, reads⟩ := head inFirst
    obtain ⟨ss, inStatements, block⟩ := body inLast
    obtain ⟨others, rfl⟩ := block_eq_cons inBody
    rcases inLast with _ | ⟨braces, -, -⟩
    exact ⟨_, .whileLoop isValue inStatements, within_whileLoop loops reads.expression braces block⟩
  | leave =>
    rintro _ (_ | ⟨leaves, -, ⟨⟩⟩)
    exact ⟨_, .leave, within_leave leaves⟩
  | sleep _ ih =>
    rintro _ (_ | ⟨sleeps, -, _ | ⟨opens, -, spelled⟩⟩)
    obtain ⟨inner, closer, _, rfl, inInner, closes, -, ⟨⟩⟩ := spelled.around
    obtain ⟨v, ⟨isValue, -⟩, reads⟩ := ih inInner
    exact ⟨_, .sleep isValue, within_sleep sleeps opens closes reads.expression⟩
  | routine inBody body =>
    rintro _ (_ | ⟨defines, -, _ | ⟨named, lexical, spelled⟩⟩)
    obtain ⟨ss, inStatements, block⟩ := body spelled
    obtain ⟨others, rfl⟩ := block_eq_cons inBody
    rcases spelled with _ | ⟨braces, -, -⟩
    exact ⟨_, .function (isName_of_lexical lexical named) (all_nil _) inStatements,
      within_routine defines named braces block⟩
  | function _ _ params body =>
    rintro _ (_ | ⟨defines, -, _ | ⟨named, lexical, _ | ⟨opens, -, spelled⟩⟩⟩)
    obtain ⟨inner, closer, last, rfl, inInner, closes, -, inLast⟩ := spelled.around
    obtain ⟨args, inArguments, reads⟩ := params inInner
    obtain ⟨ss, inStatements, block⟩ := body inLast
    exact ⟨_, .function (isName_of_lexical lexical named) inArguments inStatements,
      within_function defines named opens closes reads block⟩
  | call _ ih =>
    rintro _ (_ | ⟨calls, -, spelled⟩)
    obtain ⟨callee, args, named, inArguments, reads⟩ := ih spelled
    exact ⟨_, .call named inArguments, within_call calls reads⟩
  | each _ _ xs body =>
    rintro _ (_ | ⟨iterates, -, _ | ⟨opens, -, _ | ⟨named, lexical, _ | ⟨separates, -, spelled⟩⟩⟩⟩)
    obtain ⟨inner, closer, last, rfl, inInner, closes, -, inLast⟩ := spelled.around
    obtain ⟨v, ⟨isValue, -⟩, reads⟩ := xs inInner
    obtain ⟨ss, inStatements, block⟩ := body inLast
    exact ⟨_, .each (isName_of_lexical lexical named) isValue inStatements,
      within_each iterates opens named separates reads.expression closes block⟩
  | skip =>
    rintro _ (_ | ⟨skips, -, ⟨⟩⟩)
    exact ⟨_, .skip, within_skip skips⟩
  | noStatement =>
    rintro _ ⟨⟩
    exact ⟨[], all_nil _, within_statements_nil⟩
  | following isFirst more first ih =>
    intro ts spelled
    obtain ⟨front, last, rfl, inFront, inLast⟩ := spelled.split
    obtain ⟨t, isStatement, reads⟩ := first inFront
    obtain ⟨body, inBody, goesOn⟩ := ih inLast
    obtain ⟨k, others, rfl, -, begins⟩ := statement_eq_cons isFirst
    rcases inFront with _ | ⟨rfl, -, -⟩
    exact ⟨t :: body, all_cons isStatement inBody, within_statements_cons begins reads
      goesOn fun _ ends => afterStatement_statements more inLast ends⟩
  | block inBody ih =>
    rintro _ (_ | ⟨opens, -, spelled⟩)
    obtain ⟨inner, closer, _, rfl, inInner, closes, -, ⟨⟩⟩ := spelled.around
    obtain ⟨body, inBody, reads⟩ := ih inInner
    exact ⟨body, inBody, within_block opens closes reads⟩
  | noAlternative =>
    rintro _ ⟨⟩
    exact ⟨([], []), ⟨by simp, by simp, by simp⟩, within_alternatives_nil⟩
  | alternative _ _ _ head body ih =>
    rintro _ (_ | ⟨alternates, -, _ | ⟨branches, -, _ | ⟨opens, -, spelled⟩⟩⟩)
    obtain ⟨inner, closer, others, rfl, inInner, closes, -, spelled⟩ := spelled.around
    obtain ⟨middle, last, rfl, inMiddle, inLast⟩ := spelled.split
    obtain ⟨condition, isCondition, reads⟩ := head inInner
    obtain ⟨ss, inStatements, block⟩ := body inMiddle
    obtain ⟨parts, areParts, goesOn⟩ := ih inLast
    exact ⟨_, areParts.cons isCondition inStatements,
      within_alternatives_cons alternates branches opens closes reads block goesOn⟩
  | otherwise inBody _ body ih =>
    rintro _ (_ | ⟨alternates, -, spelled⟩)
    obtain ⟨middle, last, rfl, inMiddle, inLast⟩ := spelled.split
    obtain ⟨ss, inStatements, block⟩ := body inMiddle
    obtain ⟨parts, areParts, goesOn⟩ := ih inLast
    obtain ⟨others, rfl⟩ := block_eq_cons inBody
    rcases inMiddle with _ | ⟨braces, -, -⟩
    exact ⟨_, areParts.otherwise inStatements,
      within_alternatives_otherwise alternates braces block goesOn⟩

end Reading

end DeviceScript.Script
