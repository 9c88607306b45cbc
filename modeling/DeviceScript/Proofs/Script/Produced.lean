import DeviceScript.Script.Grammar

/-!
# What statements are read as

Whatever the tokens are, a statement that is read has one of a few shapes. Where an expression is
wanted there is a formula, in which operands may be missing but nothing else occurs than numbers,
strings, variables and operators; the items of a list are formulas or lists again, and the bodies of
compound statements are statements.
-/

namespace DeviceScript.Script

variable {α : Type}

/-! ## Shapes -/

namespace Tree

/-- What an expression or a condition is read as. -/
inductive IsFormula : Tree α → Prop
  | missing : IsFormula .missing
  | number (s : String) : IsFormula (.number s)
  | string (s : String) : IsFormula (.string s)
  | name (name : String) : IsFormula (.variable name)
  | binary {left right : Tree α} (operator : Token) :
      IsFormula left → IsFormula right → IsFormula (.binary left operator right)

/-- What an expression is read as: its operators are those of arithmetic. -/
inductive IsArithmetic : Tree α → Prop
  | missing : IsArithmetic .missing
  | number (s : String) : IsArithmetic (.number s)
  | string (s : String) : IsArithmetic (.string s)
  | name (name : String) : IsArithmetic (.variable name)
  | binary {left right : Tree α} {operator : Token} :
      Reading.isOperator operator.kind = true → IsArithmetic left → IsArithmetic right →
        IsArithmetic (.binary left operator right)

theorem IsArithmetic.isFormula {t : Tree α} (arithmetic : IsArithmetic t) : IsFormula t := by
  induction arithmetic with
  | missing => exact .missing
  | number s => exact .number s
  | string s => exact .string s
  | name name => exact .name name
  | binary _ _ _ left right => exact .binary _ left right

/-- What an item of a list is read as. -/
inductive IsEntry : Tree α → Prop
  | formula {t : Tree α} : IsFormula t → IsEntry t
  | list {items : List (Tree α)} : (∀ item ∈ items, IsEntry item) → IsEntry (.list items)

/-- What a statement is read as. -/
inductive IsProduced : Tree α → Prop
  | missing : IsProduced .missing
  | title (s : String) : IsProduced (.title s)
  | assign (name : String) {v : Tree α} : IsFormula v → IsProduced (.assign name v)
  | gatherList (name : String) {items : List (Tree α)} :
      (∀ item ∈ items, IsEntry item) → IsProduced (.gather name (.list items) .missing)
  | gatherCall (name callee : String) {args : List (Tree α)} :
      (∀ argument ∈ args, IsFormula argument) →
        IsProduced (.gather name (.list []) (.call callee args))
  | gatherValue (name : String) {v : Tree α} :
      IsFormula v → IsProduced (.gather name v .missing)
  | branch {condition : Tree α} {body otherwise : List (Tree α)}
      {alts : List (Tree α × List (Tree α))} :
      IsFormula condition → (∀ t ∈ body, IsProduced t) →
      (∀ alt ∈ alts, IsFormula alt.1) →
      (∀ alt ∈ alts, ∀ t ∈ alt.2, IsProduced t) →
      (∀ t ∈ otherwise, IsProduced t) → IsProduced (.branch condition body alts otherwise)
  | print {v : Tree α} : IsFormula v → IsProduced (.print v)
  | sleep {duration : Tree α} : IsFormula duration → IsProduced (.sleep duration)
  | loop {count : Tree α} {body : List (Tree α)} :
      IsFormula count → (∀ t ∈ body, IsProduced t) → IsProduced (.loop count body)
  | whileLoop {condition : Tree α} {body : List (Tree α)} :
      IsFormula condition → (∀ t ∈ body, IsProduced t) → IsProduced (.whileLoop condition body)
  | each (item : String) {items : Tree α} {body : List (Tree α)} :
      IsFormula items → (∀ t ∈ body, IsProduced t) → IsProduced (.each item items body)
  | function (name : String) {body params : List (Tree α)} :
      (∀ t ∈ body, IsProduced t) → (∀ parameter ∈ params, IsFormula parameter) →
        IsProduced (.function name body params)
  | call (name : String) {args : List (Tree α)} :
      (∀ argument ∈ args, IsFormula argument) → IsProduced (.call name args)
  | leave : IsProduced .leave
  | skip : IsProduced .skip

end Tree

end DeviceScript.Script
