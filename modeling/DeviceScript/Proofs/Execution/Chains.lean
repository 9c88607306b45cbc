import DeviceScript.Proofs.Execution.Evaluation
import DeviceScript.Proofs.Execution.Precedence
import DeviceScript.Proofs.Script.Expressions
import Mathlib.Data.List.Forall2

/-!
# Chains of operands

The operators of the language all have the same rank. A chain of numerals and variables with
operators between them is read as a tree that leans to the left, and so it is worked out from left
to right, with zero for what is divided by zero. That is what the usual order gives, just if no
multiplication or division stands behind an addition or a subtraction (`visit_chain_leftToRight`).
Numbers on the way that are too long to be written are left out here, because every operation writes
its operands to the log.
-/

namespace DeviceScript.Execution

open List Script Value
open DeviceScript.Script.Tree (IsArithmetic IsExpression expressionTokens)

variable {left right : Value} {k : TokenKind}

/-! ## Chains as trees -/

/-- The operand is a numeral, or a variable that holds a whole number, and this is its value. -/
inductive StandsFor (m : Machine) : Tree Value → Value → Prop
  | number {s : String} {v : Value} (numeral : isNumeral s = true)
      (stands : numeralValue s = .ok v) : StandsFor m (.number s) v
  | name {name : String} {n : Int} (named : isName name = true)
      (holds : m.read name = .int n) : StandsFor m (.variable name) (.int n)

/-- The operator is the given one of arithmetic, and its operand has the given value. -/
structure PartStands (m : Machine) (part : Token × Tree Value)
    (meant : TokenKind × Value) : Prop where
  listed : part.1 ∈ Token.operators
  kind : part.1.kind = meant.1
  operand : StandsFor m part.2 meant.2

/-- Operands with operators between them, as a tree that leans to the left. -/
def chain (first : Tree Value) (rest : List (Token × Tree Value)) : Tree Value :=
  rest.foldl (fun left part => .binary left part.1 part.2) first

/-- The tokens of a chain, without brackets. -/
def chainTokens (first : Tree Value) (rest : List (Token × Tree Value)) : List Token :=
  expressionTokens first ++ rest.flatMap fun part => part.1 :: expressionTokens part.2

section Chains

variable {m : Machine} {operand first : Tree Value} {v start : Value}
  {rest : List (Token × Tree Value)} {parts : List (TokenKind × Value)}

namespace StandsFor

theorem isExpression (stands : StandsFor m operand v) : IsExpression operand := by
  cases stands with
  | number numeral => exact .number numeral
  | name named => exact .name named

theorem isNumber (stands : StandsFor m operand v) : v.numeral?.isSome = true := by
  cases stands with
  | @number s v _ stands =>
    unfold numeralValue at stands
    split at stands
    · rcases real : toReal (.text s) with e | x <;>
        rw [real] at stands <;> cases stands
      rfl
    · rcases whole : toWhole (.text s) with e | n <;>
        rw [whole] at stands <;> cases stands
      rfl
  | name => rfl

theorem evaluation (stands : StandsFor m operand v) : evaluation m operand = pure v := by
  cases stands with
  | number _ stands =>
    rw [Execution.evaluation, stands]
    rfl
  | name _ holds => rw [Execution.evaluation, holds]

theorem height (stands : StandsFor m operand v) : height operand = 1 := by
  cases stands <;> rfl

theorem grouped (stands : StandsFor m operand v) (ts : List Token) :
    Tree.grouped operand ts = ts := by
  cases stands <;> rfl

end StandsFor

theorem isExpression_chain (isFirst : IsExpression first)
    (standing : List.Forall₂ (PartStands m) rest parts) : IsExpression (chain first rest) := by
  induction standing generalizing first with
  | nil => exact isFirst
  | cons part _ ih => exact ih (.binary isFirst part.listed part.operand.isExpression)

theorem expressionTokens_chain (standing : List.Forall₂ (PartStands m) rest parts) :
    expressionTokens (chain first rest) = chainTokens first rest := by
  induction standing generalizing first with
  | nil => simp [chain, chainTokens]
  | cons part _ ih =>
    rw [chain, foldl_cons, ← chain, ih, chainTokens, chainTokens, expressionTokens,
      part.operand.grouped, flatMap_cons, append_assoc]

theorem height_pos (t : Tree Value) : 0 < height t := by
  cases t <;> simp [height]

theorem height_chain (standing : List.Forall₂ (PartStands m) rest parts) :
    height (chain first rest) = height first + rest.length := by
  induction standing generalizing first with
  | nil => rfl
  | cons part _ ih =>
    have positive := height_pos first
    rw [chain, foldl_cons, ← chain, ih, Execution.height, part.operand.height, length_cons]
    omega

/-- A chain is evaluated from left to right. -/
theorem evaluation_chain (standing : List.Forall₂ (PartStands m) rest parts) :
    evaluation m (chain first rest) = (do
      let start ← evaluation m first
      parts.foldlM (fun left part => operated part.1 left part.2) start) := by
  induction standing generalizing first with
  | nil => simp [chain]
  | cons part _ ih =>
    rw [chain, foldl_cons, ← chain, ih, Execution.evaluation, part.operand.evaluation, part.kind]
    simp only [pure_bind, bind_assoc, foldlM_cons]

/-! ## Numbers on the way -/

/-- The value is no whole number with too many digits to be written. -/
def IsShort (v : Value) : Prop :=
  ∀ n, v = .int n → n.natAbs < Number.tenTo Number.digitLimit

/-- From left to right, all operands can be written. -/
def Manageable (start : Value) : List (TokenKind × Value) → Prop
  | [] => True
  | (k, operand) :: parts => IsShort start ∧ IsShort operand ∧
    ∀ serials next later, (work k start operand).run serials = .ok (next, later) →
      Manageable next parts

theorem display_of_isShort {v : Value} (number : v.numeral?.isSome = true)
    (short : IsShort v) : ∃ s, v.display = .ok s := by
  cases v with
  | int n =>
    rw [display, inside, wholeText, if_neg (Nat.not_le.mpr (short n rfl))]
    all_goals simp
  | bool | float | undefined => exact ⟨_, rfl⟩
  | _ => cases number

/-- On numbers, an operator works as on single values. -/
theorem operated_of_numbers (k : TokenKind) (isLeft : left.numeral?.isSome = true)
    (isRight : right.numeral?.isSome = true) : operated k left right = single k left right := by
  have scalar : isVector left = false := by
    cases left <;> first | rfl | cases isLeft
  fun_cases operated k left right
  · cases isLeft
  · cases isRight
  · cases isRight
  · rename_i vectors
    rw [scalar] at vectors
    cases vectors
  · rfl

theorem single_of_isShort (k : TokenKind) (isLeft : left.numeral?.isSome = true)
    (isRight : right.numeral?.isSome = true) (short : IsShort left) (short' : IsShort right) :
    single k left right = work k left right := by
  obtain ⟨_, wrote⟩ := display_of_isShort isLeft short
  obtain ⟨_, wrote'⟩ := display_of_isShort isRight short'
  rw [single, written, wrote, wrote']
  rfl

/-- Two numbers can be calculated with, and what comes out is a number. -/
theorem numeric?_of_numbers {onWholes : Int → Int → Except Failure Value}
    (wholes : ∀ n m v, onWholes n m = .ok v → v.numeral?.isSome = true)
    (onReals : Float → Float → Float) (isLeft : left.numeral?.isSome = true)
    (isRight : right.numeral?.isSome = true) :
    ∃ o, numeric? onWholes onReals left right = some o ∧
      ∀ v, o = .ok v → v.numeral?.isSome = true := by
  have real : ∀ {n : Int} {make : Float → Float} (v : Value),
      (realOfWhole n).map (fun x => float (make x)) = .ok v → v.numeral?.isSome = true := by
    intro n make v done
    rcases conversion : realOfWhole n with _ | x <;> rw [conversion] at done <;> cases done
    rfl
  obtain ⟨x, first⟩ := Option.isSome_iff_exists.mp isLeft
  obtain ⟨y, second⟩ := Option.isSome_iff_exists.mp isRight
  rw [numeric?, first, second]
  cases x <;> cases y
  · exact ⟨_, rfl, wholes _ _⟩
  · exact ⟨_, rfl, real⟩
  · exact ⟨_, rfl, real⟩
  · exact ⟨_, rfl, by rintro _ ⟨⟩; rfl⟩

theorem isNumber_of_worked (arithmetic : isArithmetic k = true)
    (isLeft : left.numeral?.isSome = true) (isRight : right.numeral?.isSome = true)
    (done : worked k left right = .ok v) : v.numeral?.isSome = true := by
  have wholes : ∀ (make : Int → Int → Int) (n m : Int) (v : Value),
      (Except.ok (.int (make n m)) : Except Failure Value) = .ok v → v.numeral?.isSome = true := by
    rintro make n m _ ⟨⟩
    rfl
  have quotients : ∀ (n m : Int) (v : Value), quotient n m = .ok v → v.numeral?.isSome = true := by
    intro n m v done
    unfold quotient at done
    split at done
    · cases done
    · split at done <;> cases done
      rfl
  cases k <;> cases arithmetic
  · obtain ⟨o, computed, number⟩ :=
      numeric?_of_numbers (wholes (· + ·)) (· + ·) isLeft isRight
    unfold worked add addAs at done
    rw [computed] at done
    exact number v done
  · obtain ⟨o, computed, number⟩ :=
      numeric?_of_numbers (wholes (· - ·)) (· - ·) isLeft isRight
    unfold worked subtract at done
    rw [computed] at done
    exact number v done
  · obtain ⟨o, computed, number⟩ :=
      numeric?_of_numbers (wholes (· * ·)) (· * ·) isLeft isRight
    unfold worked multiply at done
    rw [computed] at done
    exact number v done
  · obtain ⟨o, computed, number⟩ := numeric?_of_numbers quotients (· / ·) isLeft isRight
    rw [worked] at done
    split at done
    · cases done
      rfl
    · unfold Value.divide at done
      rw [computed] at done
      exact number v done

theorem isNumber_of_work (arithmetic : isArithmetic k = true) (isLeft : left.numeral?.isSome = true)
    (isRight : right.numeral?.isSome = true) {serials later : Nat}
    (done : (work k left right).run serials = .ok (v, later)) : v.numeral?.isSome = true := by
  rcases outcome : worked k left right with _ | result
  · rw [work, outcome] at done
    cases done
  · have number := isNumber_of_worked arithmetic isLeft isRight outcome
    rw [work, outcome] at done
    cases result with
    | float =>
      cases done
      unfold ofReal
      split <;> rfl
    | _ =>
      cases done
      exact number

/-- If all operands can be written, then nothing but the operations is left. -/
theorem foldlM_operated (isStart : start.numeral?.isSome = true)
    (numbers : ∀ part ∈ parts, isArithmetic part.1 = true ∧ part.2.numeral?.isSome = true)
    (manageable : Manageable start parts) :
    parts.foldlM (fun left part => operated part.1 left part.2) start =
      leftToRight start parts := by
  induction parts generalizing start with
  | nil => rfl
  | cons part _ ih =>
    rw [forall_mem_cons] at numbers
    obtain ⟨short, short', next⟩ := manageable
    obtain ⟨arithmetic, isOperand⟩ := numbers.1
    rw [leftToRight, foldlM_cons, foldlM_cons,
      operated_of_numbers _ isStart isOperand, single_of_isShort _ isStart isOperand short short']
    refine StateT.ext fun serials => ?_
    rw [StateT.run_bind, StateT.run_bind]
    rcases done : (work part.1 start part.2).run serials with _ | ⟨v, later⟩
    · rfl
    · exact congrArg (fun calculation => StateT.run calculation later)
        (ih (isNumber_of_work arithmetic isStart isOperand done) numbers.2
          (next serials v later done))

theorem numbers_of_standing (standing : List.Forall₂ (PartStands m) rest parts) :
    ∀ part ∈ parts, isArithmetic part.1 = true ∧ part.2.numeral?.isSome = true := by
  induction standing with
  | nil => simp
  | cons part _ ih =>
    have arithmetic := Reading.isOperator_of_mem part.listed
    rw [part.kind] at arithmetic
    exact forall_mem_cons.mpr ⟨⟨arithmetic, part.operand.isNumber⟩, ih⟩

/-- A chain is read as a tree that leans to the left. -/
theorem takes_chain (stands : StandsFor m first start)
    (standing : List.Forall₂ (PartStands m) rest parts) :
    Reading.Takes Reading.expression (chainTokens first rest) (chain first rest)
      Reading.noOperator := by
  rw [← expressionTokens_chain standing]
  exact Reading.takes_expression (isExpression_chain stands.isExpression standing)

theorem conveys_chain {host : Host} {most d : Nat} {p : Site} (running : m.stopped = false)
    (stands : StandsFor m first start) (standing : List.Forall₂ (PartStands m) rest parts)
    (enough : rest.length < d) (manageable : Manageable start parts) :
    Conveys m (visit host ⟨most, d⟩ p (chain first rest)) (leftToRight start parts) := by
  have arithmetic : IsArithmetic (chain first rest) :=
    Reading.isArithmetic_of_takes (takes_chain stands standing)
  have deep : height (chain first rest) ≤ d := by
    rw [height_chain standing, stands.height]
    omega
  have conveyed : Conveys m (visit host ⟨most, d⟩ p (chain first rest)) _ :=
    conveys_visit arithmetic running deep
  rwa [evaluation_chain standing, stands.evaluation, pure_bind,
    foldlM_operated stands.isNumber (numbers_of_standing standing) manageable] at conveyed

end Chains

/-- **The order of operations.** A chain of numbers and variables is read as it stands and comes to
what its operations give from left to right. The usual order gives the same, just if no
multiplication or division stands behind an addition or a subtraction. -/
theorem visit_chain_leftToRight (host : Host) (most depth : Nat) (site : Site) (machine : Machine)
    (first : Script.Tree Value) (rest : List (Token × Script.Tree Value)) (start : Value)
    (parts : List (TokenKind × Value)) (running : machine.stopped = false)
    (stands : StandsFor machine first start)
    (standing : List.Forall₂ (PartStands machine) rest parts) (enough : rest.length < depth)
    (manageable : Manageable start parts) :
    Reading.Takes Reading.expression (chainTokens first rest) (chain first rest)
      Reading.noOperator ∧
    Conveys machine (visit host ⟨most, depth⟩ site (chain first rest)) (leftToRight start parts) ∧
    (ProductsFirst (parts.map Prod.fst) → leftToRight start parts = usual start parts) ∧
    (¬ ProductsFirst (parts.map Prod.fst) → ∃ numbers : List Int, numbers.length = parts.length ∧
      ∀ serials, let others := (parts.map Prod.fst).zip (numbers.map int)
        ((leftToRight (.int 1) others).run serials).map Prod.fst ≠
          ((usual (.int 1) others).run serials).map Prod.fst) := by
  refine ⟨takes_chain stands standing, conveys_chain running stands standing enough manageable,
    leftToRight_eq_usual start, fun mixed => ?_⟩
  have arithmetic : ∀ kind ∈ parts.map Prod.fst, isArithmetic kind = true := by
    intro kind member
    obtain ⟨part, listed, rfl⟩ := mem_map.mp member
    exact (numbers_of_standing standing part listed).1
  obtain ⟨numbers, length, differ⟩ := exists_leftToRight_ne_usual arithmetic mixed
  exact ⟨numbers, length.trans (length_map _), differ⟩

/-- A state with three whole numbers. -/
def threeNumbers : Machine :=
  { Machine.initial Path.here with globals := [("x", .int 1), ("y", .int 2), ("z", .int 3)] }

def sumAndProduct : List (Token × Tree Value) :=
  [(⟨.plus, "+"⟩, .variable "y"), (⟨.times, "*"⟩, .variable "z")]

theorem isShort_of_digit {n : Int} (digit : n.natAbs < 10) : IsShort (.int n) := by
  have grows : ∀ limit, limit ≠ 0 → 10 ≤ Number.tenTo limit :=
    fun limit positive => Nat.le_self_pow positive 10
  rintro _ ⟨⟩
  exact Nat.lt_of_lt_of_le digit (grows _ (by decide))

theorem standing_sumAndProduct :
    StandsFor threeNumbers (.variable "x") (.int 1) ∧
    List.Forall₂ (PartStands threeNumbers) sumAndProduct [(.plus, .int 2), (.times, .int 3)] ∧
    Manageable (.int 1) [(.plus, .int 2), (.times, .int 3)] := by
  refine ⟨.name (by decide) rfl, .cons ⟨by decide, rfl, .name (by decide) rfl⟩
    (.cons ⟨by decide, rfl, .name (by decide) rfl⟩ .nil), isShort_of_digit (by decide),
    isShort_of_digit (by decide), fun serials next later done => ?_⟩
  cases done
  exact ⟨isShort_of_digit (by decide), isShort_of_digit (by decide), fun _ _ _ _ => trivial⟩

theorem visit_chain_leftToRight_sumAndProduct :
    StandsFor threeNumbers (.variable "x") (.int 1) ∧
    List.Forall₂ (PartStands threeNumbers) sumAndProduct [(.plus, .int 2), (.times, .int 3)] ∧
    Manageable (.int 1) [(.plus, .int 2), (.times, .int 3)] ∧
    Conveys threeNumbers (visit Host.bare ⟨0, 3⟩ [] (chain (.variable "x") sumAndProduct))
      (leftToRight (.int 1) [(.plus, .int 2), (.times, .int 3)]) := by
  obtain ⟨stands, standing, manageable⟩ := standing_sumAndProduct
  exact ⟨stands, standing, manageable, (visit_chain_leftToRight Host.bare 0 3 [] threeNumbers
    _ _ _ _ rfl stands standing (by decide) manageable).2.1⟩

/-- One plus two times three comes to nine, though in the usual order it is seven. -/
theorem sum_before_product :
    ((visit Host.bare ⟨0, 3⟩ [] (chain (.variable "x") sumAndProduct)).perform threeNumbers
      default).1.1 = .ok (.int 9) ∧
    ((usual (.int 1) [(.plus, .int 2), (.times, .int 3)]).run 0).map Prod.fst =
      .ok (.int 7) := by
  obtain ⟨stands, standing, manageable⟩ := standing_sumAndProduct
  have conveyed : Conveys threeNumbers
      (visit Host.bare ⟨0, 3⟩ [] (chain (.variable "x") sumAndProduct)) _ :=
    conveys_chain rfl stands standing (by decide) manageable
  obtain ⟨after, performed, -⟩ := conveyed default
  rw [performed]
  exact ⟨rfl, rfl⟩

end DeviceScript.Execution
