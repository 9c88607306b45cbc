import DeviceScript.Proofs.Script.Spelling
import DeviceScript.Script.Tree

/-!
# Printing trees

Every statement of the language has one canonical form as a sequence of tokens. The left operand
of an operator stands bare, its right operand in brackets if it is itself an operator; the items
of a list and the arguments of a call have commas between them; an `else` is printed only for
statements that are there.

Printing is total, but only some trees are the statements of the language. `IsStatement` says
which: names are no keywords, numbers are numerals, strings hold no quote, no operand is missing,
and a `dyn` with an expression begins with a variable. Their tokens are lexical, so that they can be
written and read back (`lexical_statementTokens`).
-/

namespace DeviceScript.Script

open List

variable {operator op : Token}

namespace Token

/-- The brackets of groups and arguments. -/
def openRound : Token := ⟨.openBracket, "("⟩

def closeRound : Token := ⟨.closeBracket, ")"⟩

/-- The brackets of lists. -/
def openSquare : Token := ⟨.openBracket, "["⟩

def closeSquare : Token := ⟨.closeBracket, "]"⟩

/-- The braces of bodies. -/
def openCurly : Token := ⟨.openBrace, "\x7b"⟩

def closeCurly : Token := ⟨.closeBrace, "\x7d"⟩

def comma : Token := ⟨.comma, ","⟩

def equals : Token := ⟨.equals, "="⟩

def name (s : String) : Token := ⟨.identifier, s⟩

def keyword (word : String) : Token := ⟨wordKind word, word⟩

/-- The four operators of arithmetic. -/
def operators : List Token := [⟨.plus, "+"⟩, ⟨.minus, "-"⟩, ⟨.times, "*"⟩, ⟨.divide, "/"⟩]

/-- The six comparisons. -/
def comparisons : List Token :=
  [⟨.equal, "=="⟩, ⟨.notEqual, "!="⟩, ⟨.less, "<"⟩, ⟨.greater, ">"⟩, ⟨.atMost, "<="⟩,
    ⟨.atLeast, ">="⟩]

end Token

open Token

def inBraces (ts : List Token) : List Token := openCurly :: (ts ++ [closeCurly])

/-- Parts, each with a comma in front. -/
def afterCommas (parts : List (List Token)) : List Token := parts.flatMap fun part => comma :: part

/-- Parts with commas between them. -/
def withCommas : List (List Token) → List Token
  | [] => []
  | part :: parts => part ++ afterCommas parts

namespace Tree

variable {α : Type}

/-! ## The statements of the language -/

/-- An expression: leaves joined by the operators of arithmetic, with no operand missing. -/
inductive IsExpression : Tree α → Prop
  | number {s : String} (numeral : isNumeral s = true) : IsExpression (.number s)
  | string {s : String} (unquoted : '"' ∉ s.toList) : IsExpression (.string s)
  | name {name : String} (named : isName name = true) : IsExpression (.variable name)
  | binary {left right : Tree α} {operator : Token} (isLeft : IsExpression left)
      (listed : operator ∈ operators) (isRight : IsExpression right) :
      IsExpression (.binary left operator right)

/-- The head of a branch: two expressions and a comparison, or one expression alone. -/
inductive IsCondition : Tree α → Prop
  | comparison {left right : Tree α} {operator : Token} (isLeft : IsExpression left)
      (listed : operator ∈ comparisons) (isRight : IsExpression right) :
      IsCondition (.binary left operator right)
  | single {v : Tree α} (isValue : IsExpression v) :
      IsCondition (.binary v ⟨.equal, "=="⟩ .missing)

/-- An item of a list: an expression, or a list of items. -/
inductive IsItem : Tree α → Prop
  | expression {v : Tree α} (isValue : IsExpression v) : IsItem v
  | list {items : List (Tree α)} (inItems : ∀ item ∈ items, IsItem item) : IsItem (.list items)

/-- The leftmost leaf of an expression is a variable. -/
def leadsWithName : Tree α → Bool
  | .variable _ => true
  | .binary left _ _ => left.leadsWithName
  | _ => false

/-- A statement of the language. -/
inductive IsStatement : Tree α → Prop
  | title {s : String} (unquoted : '"' ∉ s.toList) : IsStatement (.title s)
  | assign {name : String} {v : Tree α} (named : isName name = true)
      (isValue : IsExpression v) : IsStatement (.assign name v)
  | gatherList {name : String} {items : List (Tree α)} (named : isName name = true)
      (inItems : ∀ item ∈ items, IsItem item) : IsStatement (.gather name (.list items) .missing)
  | gatherCall {name callee : String} {args : List (Tree α)} (named : isName name = true)
      (calleeNamed : isName callee = true)
      (inArguments : ∀ argument ∈ args, IsExpression argument) :
      IsStatement (.gather name (.list []) (.call callee args))
  | gatherValue {name : String} {v : Tree α} (named : isName name = true)
      (isValue : IsExpression v) (leads : v.leadsWithName = true) :
      IsStatement (.gather name v .missing)
  | branch {condition : Tree α} {body otherwise : List (Tree α)}
      {alts : List (Tree α × List (Tree α))} (isCondition : IsCondition condition)
      (inBody : ∀ t ∈ body, IsStatement t)
      (heads : ∀ alt ∈ alts, IsCondition alt.1)
      (inBodies : ∀ alt ∈ alts, ∀ t ∈ alt.2, IsStatement t)
      (inOtherwise : ∀ t ∈ otherwise, IsStatement t) :
      IsStatement (.branch condition body alts otherwise)
  | print {v : Tree α} (isValue : IsExpression v) : IsStatement (.print v)
  | loop {count : Tree α} {body : List (Tree α)} (isCount : IsExpression count)
      (inBody : ∀ t ∈ body, IsStatement t) : IsStatement (.loop count body)
  | whileLoop {condition : Tree α} {body : List (Tree α)} (isCondition : IsExpression condition)
      (inBody : ∀ t ∈ body, IsStatement t) : IsStatement (.whileLoop condition body)
  | leave : IsStatement .leave
  | sleep {duration : Tree α} (isDuration : IsExpression duration) : IsStatement (.sleep duration)
  | function {name : String} {body params : List (Tree α)} (named : isName name = true)
      (inParameters : ∀ parameter ∈ params, IsExpression parameter)
      (inBody : ∀ t ∈ body, IsStatement t) :
      IsStatement (.function name body params)
  | call {name : String} {args : List (Tree α)} (named : isName name = true)
      (inArguments : ∀ argument ∈ args, IsExpression argument) :
      IsStatement (.call name args)
  | each {item : String} {items : Tree α} {body : List (Tree α)} (named : isName item = true)
      (isItems : IsExpression items) (inBody : ∀ t ∈ body, IsStatement t) :
      IsStatement (.each item items body)
  | skip : IsStatement .skip

/-! ## Their tokens -/

/-- The right operand of an operator: in brackets if it is itself an operator. -/
def grouped (right : Tree α) (ts : List Token) : List Token :=
  match right with
  | .binary .. => openRound :: (ts ++ [closeRound])
  | _ => ts

def expressionTokens : Tree α → List Token
  | .number s => [⟨.number, s⟩]
  | .string s => [⟨.string, s⟩]
  | .variable name => [Token.name name]
  | .binary left operator right =>
    expressionTokens left ++ operator :: grouped right (expressionTokens right)
  | _ => []

/-- The tokens of the head of a branch. -/
def conditionTokens : Tree α → List Token
  | .binary v _ .missing => expressionTokens v
  | .binary left operator right => expressionTokens left ++ operator :: expressionTokens right
  | _ => []

mutual

def itemTokens : Tree α → List Token
  | .list items => openSquare :: (withCommas (itemsTokens items) ++ [closeSquare])
  | v => expressionTokens v

def itemsTokens : List (Tree α) → List (List Token)
  | [] => []
  | item :: items => itemTokens item :: itemsTokens items

end

def argumentsTokens (args : List (Tree α)) : List Token :=
  openRound :: (withCommas (args.map expressionTokens) ++ [closeRound])

def callTokens (name : String) (args : List (Tree α)) : List Token :=
  keyword "call" :: Token.name name :: argumentsTokens args

/-- The tokens of the right side of a `dyn`: a call if there is one. -/
def gatheredTokens (elements source : Tree α) : List Token :=
  match source with
  | .call callee args => callTokens callee args
  | _ => itemTokens elements

def bracketTokens (v : Tree α) : List Token :=
  openRound :: (expressionTokens v ++ [closeRound])

/-- The tokens of the head of a branch with its brackets. -/
def headTokens (condition : Tree α) : List Token :=
  keyword "if" :: openRound :: (conditionTokens condition ++ [closeRound])

mutual

def statementTokens : Tree α → List Token
  | .title s => [keyword "name", ⟨.string, s⟩]
  | .assign name v => keyword "var" :: Token.name name :: equals :: expressionTokens v
  | .gather name elements source =>
    keyword "dyn" :: Token.name name :: equals :: gatheredTokens elements source
  | .branch condition body alts otherwise =>
    headTokens condition ++ (inBraces (statementsTokens body) ++
      (alternativesTokens alts ++
        if otherwise.isEmpty then []
        else keyword "else" :: inBraces (statementsTokens otherwise)))
  | .print v => keyword "print" :: bracketTokens v
  | .loop count body =>
    keyword "loop" :: (expressionTokens count ++ inBraces (statementsTokens body))
  | .whileLoop condition body =>
    keyword "while" :: (expressionTokens condition ++ inBraces (statementsTokens body))
  | .leave => [keyword "break"]
  | .sleep duration => keyword "sleep" :: bracketTokens duration
  | .function name body params =>
    keyword "func" :: Token.name name ::
      (argumentsTokens params ++ inBraces (statementsTokens body))
  | .call name args => callTokens name args
  | .each item items body =>
    keyword "foreach" :: openRound :: Token.name item :: comma ::
      (expressionTokens items ++ closeRound :: inBraces (statementsTokens body))
  | .skip => [keyword "continue"]
  | _ => []

/-- The tokens of statements one after another. -/
def statementsTokens : List (Tree α) → List Token
  | [] => []
  | t :: ss => statementTokens t ++ statementsTokens ss

/-- The tokens of the further branches. -/
def alternativesTokens : List (Tree α × List (Tree α)) → List Token
  | [] => []
  | (condition, body) :: alts =>
    keyword "else" ::
      (headTokens condition ++ (inBraces (statementsTokens body) ++ alternativesTokens alts))

end

theorem conditionTokens_comparison {left right : Tree α} (isRight : IsExpression right) :
    conditionTokens (.binary left op right) =
      expressionTokens left ++ op :: expressionTokens right := by
  cases isRight <;> rfl

theorem itemTokens_of_isExpression {v : Tree α} (isValue : IsExpression v) :
    itemTokens v = expressionTokens v := by
  cases isValue <;> simp [itemTokens]

theorem gatheredTokens_missing (elements : Tree α) :
    gatheredTokens elements .missing = itemTokens elements := rfl

/-! ## Their tokens can be written -/

theorem lexical_openRound : openRound.Lexical := .sign (c := '(') rfl

theorem lexical_closeRound : closeRound.Lexical := .sign (c := ')') rfl

theorem lexical_openSquare : openSquare.Lexical := .sign (c := '[') rfl

theorem lexical_closeSquare : closeSquare.Lexical := .sign (c := ']') rfl

theorem lexical_openCurly : openCurly.Lexical := .sign (c := '{') rfl

theorem lexical_closeCurly : closeCurly.Lexical := .sign (c := '}') rfl

theorem lexical_comma : comma.Lexical := .sign (c := ',') rfl

theorem lexical_equals : equals.Lexical := .sign (c := '=') rfl

theorem lexical_keyword {word : String} (listed : (word, wordKind word) ∈ keywords) :
    (keyword word).Lexical :=
  .keyword listed

theorem lexical_operator (listed : op ∈ operators) : op.Lexical := by
  simp only [operators, mem_cons, not_mem_nil, or_false] at listed
  rcases listed with rfl | rfl | rfl | rfl
  · exact .sign (c := '+') rfl
  · exact .sign (c := '-') rfl
  · exact .sign (c := '*') rfl
  · exact .sign (c := '/') rfl

theorem lexical_comparison (listed : op ∈ comparisons) : op.Lexical := by
  simp only [comparisons, mem_cons, not_mem_nil, or_false] at listed
  rcases listed with rfl | rfl | rfl | rfl | rfl | rfl
  · exact @Token.Lexical.pair '=' '=' _ rfl
  · exact @Token.Lexical.pair '!' '=' _ rfl
  · exact .sign (c := '<') rfl
  · exact .sign (c := '>') rfl
  · exact @Token.Lexical.pair '<' '=' _ rfl
  · exact @Token.Lexical.pair '>' '=' _ rfl

theorem lexical_expressionTokens {v : Tree α} (isValue : IsExpression v) :
    ∀ tok ∈ expressionTokens v, tok.Lexical := by
  induction isValue with
  | number numeral => simpa [expressionTokens] using .numeral numeral
  | string unquoted => simpa [expressionTokens] using .string unquoted
  | name named => simpa [expressionTokens] using .name named
  | @binary left right op isLeft listed isRight leftLexical rightLexical =>
    have group : ∀ tok ∈ grouped right (expressionTokens right), tok.Lexical := by
      cases right <;> simp only [grouped] <;> try exact rightLexical
      simp only [forall_mem_cons, forall_mem_append]
      exact ⟨lexical_openRound, rightLexical, lexical_closeRound, by simp⟩
    simp only [expressionTokens, forall_mem_append, forall_mem_cons]
    exact ⟨leftLexical, lexical_operator listed, group⟩

theorem lexical_withCommas {parts : List (List Token)}
    (lexical : ∀ part ∈ parts, ∀ tok ∈ part, tok.Lexical) :
    ∀ tok ∈ withCommas parts, tok.Lexical := by
  cases parts with
  | nil => simp [withCommas]
  | cons =>
    rw [forall_mem_cons] at lexical
    simp only [withCommas, afterCommas, forall_mem_append, mem_flatMap]
    refine ⟨lexical.1, ?_⟩
    rintro tok ⟨other, mem, inside⟩
    rcases mem_cons.mp inside with rfl | inside
    · exact lexical_comma
    · exact lexical.2 other mem tok inside

theorem itemsTokens_eq_map (xs : List (Tree α)) : itemsTokens xs = xs.map itemTokens := by
  induction xs with
  | nil => rfl
  | cons _ _ ih => rw [itemsTokens, ih, map_cons]

theorem lexical_itemTokens {item : Tree α} (isItem : IsItem item) :
    ∀ tok ∈ itemTokens item, tok.Lexical := by
  induction isItem with
  | expression isValue =>
    rw [itemTokens_of_isExpression isValue]
    exact lexical_expressionTokens isValue
  | list _ itemsLexical =>
    simp only [itemTokens, itemsTokens_eq_map, forall_mem_cons, forall_mem_append]
    refine ⟨lexical_openSquare, lexical_withCommas ?_, lexical_closeSquare, by simp⟩
    simpa using itemsLexical

theorem lexical_argumentsTokens {args : List (Tree α)}
    (inArguments : ∀ argument ∈ args, IsExpression argument) :
    ∀ tok ∈ argumentsTokens args, tok.Lexical := by
  simp only [argumentsTokens, forall_mem_cons, forall_mem_append]
  refine ⟨lexical_openRound, lexical_withCommas ?_, lexical_closeRound, by simp⟩
  simpa using fun argument mem => lexical_expressionTokens (inArguments argument mem)

theorem lexical_callTokens {name : String} {args : List (Tree α)} (named : isName name = true)
    (inArguments : ∀ argument ∈ args, IsExpression argument) :
    ∀ tok ∈ callTokens name args, tok.Lexical := by
  simp only [callTokens, forall_mem_cons]
  exact ⟨lexical_keyword (by decide), .name named, lexical_argumentsTokens inArguments⟩

theorem lexical_bracketTokens {v : Tree α} (isValue : IsExpression v) :
    ∀ tok ∈ bracketTokens v, tok.Lexical := by
  simp only [bracketTokens, forall_mem_cons, forall_mem_append]
  exact ⟨lexical_openRound, lexical_expressionTokens isValue, lexical_closeRound, by simp⟩

theorem lexical_headTokens {condition : Tree α} (isCondition : IsCondition condition) :
    ∀ tok ∈ headTokens condition, tok.Lexical := by
  have inside : ∀ tok ∈ conditionTokens condition, tok.Lexical := by
    cases isCondition with
    | comparison isLeft listed isRight =>
      rw [conditionTokens_comparison isRight]
      simp only [forall_mem_cons, forall_mem_append]
      exact ⟨lexical_expressionTokens isLeft, lexical_comparison listed,
        lexical_expressionTokens isRight⟩
    | single isValue => exact lexical_expressionTokens isValue
  simp only [headTokens, forall_mem_cons, forall_mem_append]
  exact ⟨lexical_keyword (by decide), lexical_openRound, inside, lexical_closeRound, by simp⟩

theorem lexical_inBraces {ts : List Token} (lexical : ∀ tok ∈ ts, tok.Lexical) :
    ∀ tok ∈ inBraces ts, tok.Lexical := by
  simp only [inBraces, forall_mem_cons, forall_mem_append]
  exact ⟨lexical_openCurly, lexical, lexical_closeCurly, by simp⟩

theorem lexical_statementsTokens : ∀ {ss : List (Tree α)},
    (∀ t ∈ ss, ∀ tok ∈ statementTokens t, tok.Lexical) → ∀ tok ∈ statementsTokens ss, tok.Lexical
  | [], _ => by simp [statementsTokens]
  | _ :: _, lexical => by
    rw [forall_mem_cons] at lexical
    simp only [statementsTokens, forall_mem_append]
    exact ⟨lexical.1, lexical_statementsTokens lexical.2⟩

theorem lexical_alternativesTokens : ∀ {alts : List (Tree α × List (Tree α))},
    (∀ alternative ∈ alts, IsCondition alternative.1) →
    (∀ alternative ∈ alts, ∀ t ∈ alternative.2,
      ∀ tok ∈ statementTokens t, tok.Lexical) →
      ∀ tok ∈ alternativesTokens alts, tok.Lexical
  | [], _, _ => by simp [alternativesTokens]
  | (condition, body) :: alts, heads, bodies => by
    rw [forall_mem_cons] at heads bodies
    simp only [alternativesTokens, forall_mem_cons, forall_mem_append]
    exact ⟨lexical_keyword (by decide), lexical_headTokens heads.1,
      lexical_inBraces (lexical_statementsTokens bodies.1),
      lexical_alternativesTokens heads.2 bodies.2⟩

/-- **The tokens of a statement are lexical.** -/
theorem lexical_statementTokens {t : Tree α} (isStatement : IsStatement t) :
    ∀ tok ∈ statementTokens t, tok.Lexical := by
  induction isStatement with
  | title unquoted =>
    simp only [statementTokens, forall_mem_cons]
    exact ⟨lexical_keyword (by decide), .string unquoted, by simp⟩
  | assign named isValue =>
    simp only [statementTokens, forall_mem_cons]
    exact ⟨lexical_keyword (by decide), .name named, lexical_equals,
      lexical_expressionTokens isValue⟩
  | gatherList named inItems =>
    simp only [statementTokens, gatheredTokens, forall_mem_cons]
    exact ⟨lexical_keyword (by decide), .name named, lexical_equals,
      lexical_itemTokens (.list inItems)⟩
  | gatherCall named calleeNamed inArguments =>
    simp only [statementTokens, gatheredTokens, forall_mem_cons]
    exact ⟨lexical_keyword (by decide), .name named, lexical_equals,
      lexical_callTokens calleeNamed inArguments⟩
  | gatherValue named isValue =>
    simp only [statementTokens, gatheredTokens, forall_mem_cons]
    exact ⟨lexical_keyword (by decide), .name named, lexical_equals,
      lexical_itemTokens (.expression isValue)⟩
  | branch isCondition inBody heads inBodies inOtherwise bodyLexical bodiesLexical
      otherwiseLexical =>
      simp only [statementTokens, forall_mem_append]
      refine ⟨lexical_headTokens isCondition,
        lexical_inBraces (lexical_statementsTokens bodyLexical),
        lexical_alternativesTokens heads bodiesLexical, ?_⟩
      split
      · simp
      · rw [forall_mem_cons]
        exact ⟨lexical_keyword (by decide),
          lexical_inBraces (lexical_statementsTokens otherwiseLexical)⟩
  | print isValue =>
    simp only [statementTokens, forall_mem_cons]
    exact ⟨lexical_keyword (by decide), lexical_bracketTokens isValue⟩
  | loop isCount _ bodyLexical =>
    simp only [statementTokens, forall_mem_cons, forall_mem_append]
    exact ⟨lexical_keyword (by decide), lexical_expressionTokens isCount,
      lexical_inBraces (lexical_statementsTokens bodyLexical)⟩
  | whileLoop isCondition _ bodyLexical =>
    simp only [statementTokens, forall_mem_cons, forall_mem_append]
    exact ⟨lexical_keyword (by decide), lexical_expressionTokens isCondition,
      lexical_inBraces (lexical_statementsTokens bodyLexical)⟩
  | leave | skip =>
    simp only [statementTokens, forall_mem_cons]
    exact ⟨lexical_keyword (by decide), by simp⟩
  | sleep isDuration =>
    simp only [statementTokens, forall_mem_cons]
    exact ⟨lexical_keyword (by decide), lexical_bracketTokens isDuration⟩
  | function named inParameters _ bodyLexical =>
    simp only [statementTokens, forall_mem_cons, forall_mem_append]
    exact ⟨lexical_keyword (by decide), .name named, lexical_argumentsTokens inParameters,
      lexical_inBraces (lexical_statementsTokens bodyLexical)⟩
  | call named inArguments => exact lexical_callTokens named inArguments
  | each named isItems _ bodyLexical =>
    simp only [statementTokens, forall_mem_cons, forall_mem_append]
    exact ⟨lexical_keyword (by decide), lexical_openRound, .name named, lexical_comma,
      lexical_expressionTokens isItems, lexical_closeRound,
      lexical_inBraces (lexical_statementsTokens bodyLexical)⟩

end Tree

/-- The text of a script: the tokens of its statements with a blank between them. -/
def printed {α : Type} (ss : List (Tree α)) : String :=
  String.ofList (spaced (Tree.statementsTokens ss))

example : printed [(.assign "x" (.binary (.number "1") ⟨.plus, "+"⟩
    (.binary (.variable "y") ⟨.times, "*"⟩ (.string "z"))) : Tree Unit)] =
      "var x = 1 + ( y * \"z\" )" := by decide

end DeviceScript.Script
