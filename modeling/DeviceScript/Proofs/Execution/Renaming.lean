import DeviceScript.Proofs.Execution.Arguments

/-!
# Renaming the variables of a script

A renaming maps names to names. It leaves alone `work_path`, which every script finds among its
variables, and the names that read as numbers, because an argument with such a name is passed as the
number. Renaming reaches the variables of a tree, the names that are declared and the items of
loops, but no function. On the state of a running script it changes the names in all tables.

Every operation on the state commutes with a renaming (`Renaming.read`, `Renaming.write` and the
others), since different names stay different. What is bound to the parameters of a function is the
same under the new names (`Renaming.bindArguments`).
-/

namespace DeviceScript.Execution

open List Script Script.Tree

variable (serial : Nat) (x text s : String)

/-! ## Names -/

/-- An injective map of names to names that moves neither `work_path` nor a name that reads as a
number. -/
structure Renaming where
  toName : {name : String // isName name = true} → {name : String // isName name = true}
  injective : Function.Injective toName
  workPath : ∀ name, name.1 = "work_path" → toName name = name
  numeric : ∀ name, (Number.readFloat? name.1).isSome = true → toName name = name

namespace Renaming

variable (new : Renaming)

/-- The new name; what is no name stays as it is. -/
def apply (s : String) : String :=
  if named : isName s = true then (new.toName ⟨s, named⟩).1 else s

theorem apply_of_isName {s : String} (named : isName s = true) :
    new.apply s = (new.toName ⟨s, named⟩).1 := dif_pos named

theorem apply_of_not_isName {s : String} (other : isName s = false) :
    new.apply s = s := dif_neg (by simp [other])

theorem isName_apply : isName (new.apply s) = isName s := by
  cases named : isName s with
  | true =>
    rw [new.apply_of_isName named]
    exact (new.toName ⟨s, named⟩).2
  | false => rw [new.apply_of_not_isName named, named]

/-- Different names stay different. -/
theorem apply_injective : Function.Injective new.apply := by
  intro s other same
  have alike : isName s = isName other := by
    rw [← new.isName_apply s, same, new.isName_apply]
  cases named : isName s with
  | true =>
    rw [new.apply_of_isName named, new.apply_of_isName (alike ▸ named)] at same
    exact congrArg Subtype.val (new.injective (Subtype.ext same))
  | false =>
    rwa [new.apply_of_not_isName named, new.apply_of_not_isName (alike ▸ named)] at same

theorem apply_inj {s other : String} : new.apply s = new.apply other ↔ s = other :=
  ⟨fun same => new.apply_injective same, congrArg new.apply⟩

theorem apply_workPath : new.apply "work_path" = "work_path" := by
  have named : isName "work_path" = true := by decide +kernel
  rw [new.apply_of_isName named, new.workPath _ rfl]

/-- A name that reads as a number is not moved. -/
theorem apply_of_readFloat? {s : String} (numeric : (Number.readFloat? s).isSome = true) :
    new.apply s = s := by
  cases named : isName s with
  | true => rw [new.apply_of_isName named, new.numeric ⟨s, named⟩ numeric]
  | false => exact new.apply_of_not_isName named

/-- Neither does any other name become one that reads as a number. -/
theorem readFloat?_apply : Number.readFloat? (new.apply s) = Number.readFloat? s := by
  cases numeric : (Number.readFloat? (new.apply s)).isSome with
  | true =>
    have fixed := new.apply_injective (new.apply_of_readFloat? numeric)
    rw [fixed]
  | false =>
    cases before : (Number.readFloat? s).isSome with
    | true => rw [new.apply_of_readFloat? before]
    | false =>
      rw [Option.isSome_eq_false_iff, Option.isNone_iff_eq_none] at numeric before
      rw [numeric, before]

theorem isDigits_of_isName {s : String} (named : isName s = true) : Text.isDigits s = false := by
  rw [isName, Bool.and_eq_true, isWord] at named
  have worded := named.1
  split at worded
  · cases worded
  · rename_i first rest letters
    rw [Bool.and_eq_true] at worded
    have noDigit := (wordStart_excludes worded.1).2.2.2.2
    simp [Text.isDigits, letters, noDigit]

/-- A name is passed as a number just if its new name is, and as the same one. -/
theorem numberPassed?_apply : numberPassed? serial (new.apply s) = numberPassed? serial s := by
  cases named : isName s with
  | false => rw [new.apply_of_not_isName named]
  | true =>
    have before := isDigits_of_isName named
    have after := isDigits_of_isName ((new.isName_apply s).trans named)
    rw [numberPassed?, numberPassed?, if_neg (by simp [after]), if_neg (by simp [before]),
      new.readFloat?_apply]

/-! ## Trees -/

mutual

/-- The tree with new names for its variables. -/
def tree : Tree Value → Tree Value
  | .missing => .missing
  | .literal value => .literal value
  | .list items => .list (trees items)
  | .number s => .number s
  | .string s => .string s
  | .variable name => .variable (new.apply name)
  | .binary left operator right => .binary (tree left) operator (tree right)
  | .print value => .print (tree value)
  | .sleep duration => .sleep (tree duration)
  | .title s => .title s
  | .assign name value => .assign (new.apply name) (tree value)
  | .gather name elements source => .gather (new.apply name) (tree elements) (tree source)
  | .loop count body => .loop (tree count) (trees body)
  | .whileLoop condition body => .whileLoop (tree condition) (trees body)
  | .each item items body => .each (new.apply item) (tree items) (trees body)
  | .call name args => .call name (trees args)
  | .function name body parameters => .function name (trees body) (trees parameters)
  | .branch condition body alts otherwise =>
    .branch (tree condition) (trees body) (branches alts) (trees otherwise)
  | .leave => .leave
  | .skip => .skip
  | .position x y => .position (tree x) (tree y)

/-- The trees with new names for their variables. -/
def trees : List (Tree Value) → List (Tree Value)
  | [] => []
  | first :: others => tree first :: trees others

/-- The further branches with new names for their variables. -/
def branches : List (Tree Value × List (Tree Value)) → List (Tree Value × List (Tree Value))
  | [] => []
  | (condition, body) :: others => (tree condition, trees body) :: branches others

end

theorem trees_eq_map (list : List (Tree Value)) : new.trees list = list.map new.tree := by
  induction list with
  | nil => rfl
  | cons _ _ ih => rw [trees, ih, map_cons]

@[simp]
theorem length_trees (list : List (Tree Value)) : (new.trees list).length = list.length := by
  rw [trees_eq_map, length_map]

/-- An expression is renamed to an expression. -/
theorem isFormula_tree {t : Tree Value} (formula : t.IsFormula) : (new.tree t).IsFormula := by
  induction formula with
  | missing => exact .missing
  | number s => exact .number s
  | string s => exact .string s
  | name x => exact .name _
  | binary op _ _ left right => exact .binary op left right

/-! ## States -/

/-- Variables under their new names. -/
def bindings (bindings : Bindings) : Bindings :=
  bindings.map fun e => (new.apply e.1, e.2)

def routine (routine : Routine) : Routine where
  name := routine.name
  body := new.trees routine.body
  parameters := new.trees routine.parameters
  locals := new.bindings routine.locals

def activation (frame : Activation) : Activation :=
  { frame with locals := new.bindings frame.locals }

def itemLoop (loop : ItemLoop) : ItemLoop := { loop with name := new.apply loop.name }

/-- The state of a script with new names in all tables. -/
def machine (machine : Machine) : Machine :=
  { machine with
    globals := new.bindings machine.globals
    functions := machine.functions.map fun e => (e.1, new.routine e.2)
    frames := machine.frames.map new.activation
    loops := machine.loops.map new.itemLoop }

theorem lookup_bindings (bindings : Bindings) :
    (new.bindings bindings).lookup (new.apply x) = bindings.lookup x := by
  induction bindings with
  | nil => rfl
  | cons e _ ih =>
    have same : (new.apply x == new.apply e.1) = (x == e.1) := by
      rw [Bool.eq_iff_iff, beq_iff_eq, beq_iff_eq, new.apply_inj]
    rw [Renaming.bindings, map_cons, lookup_cons, lookup_cons, same]
    rw [Renaming.bindings] at ih
    rw [ih]

theorem assign_bindings (v : Value) (bindings : Bindings) :
    (new.bindings bindings).assign (new.apply x) v = new.bindings (bindings.assign x v) := by
  induction bindings with
  | nil => rfl
  | cons e _ ih =>
    rw [Renaming.bindings] at ih
    rw [Renaming.bindings, map_cons, Bindings.assign, Bindings.assign]
    by_cases same : e.1 = x
    · rw [if_pos same, if_pos (congrArg new.apply same)]
      rfl
    · rw [if_neg same, if_neg fun alike => same (new.apply_injective alike), ih]
      rfl

theorem read (m : Machine) (x : String) : (new.machine m).read (new.apply x) = m.read x := by
  have inLocals : (new.machine m).local? (new.apply x) = m.local? x := by
    rw [Machine.local?, Machine.local?]
    cases frames : m.frames with
    | nil => simp [Renaming.machine, frames]
    | cons => simp only [Renaming.machine, frames, map_cons, activation, lookup_bindings]
  have inGlobals : (new.machine m).globals.lookup (new.apply x) =
      m.globals.lookup x := new.lookup_bindings x m.globals
  rw [Machine.read, Machine.read, inLocals, inGlobals]
  cases loops : m.loops with
  | nil => simp [Renaming.machine, loops]
  | cons => simp only [Renaming.machine, loops, map_cons, itemLoop, new.apply_inj]

theorem write (m : Machine) (x : String) (v : Value) :
    (new.machine m).write (new.apply x) v = new.machine (m.write x v) := by
  rw [Machine.write, Machine.write]
  have inGlobals : (new.machine m).globals.lookup (new.apply x) =
      m.globals.lookup x := new.lookup_bindings x m.globals
  cases frames : m.frames with
  | nil => simp only [Renaming.machine, frames, map_nil, assign_bindings]
  | cons =>
    rw [inGlobals]
    simp only [Renaming.machine, frames, map_cons]
    split
    · simp only [assign_bindings, map_cons]
    · simp only [activation, assign_bindings, map_cons]

theorem setItem (m : Machine) (x : Value) :
    (new.machine m).setItem x = new.machine (m.setItem x) := by
  rw [Machine.setItem, Machine.setItem]
  cases loops : m.loops with
  | nil => simp only [Renaming.machine, loops, map_nil]
  | cons => simp only [Renaming.machine, loops, map_cons, itemLoop]

theorem enterLoop (m : Machine) (p : Site) (x : String) :
    (new.machine m).enterLoop p (new.apply x) = new.machine (m.enterLoop p x) := rfl

theorem leaveLoop (m : Machine) (p : Site) (height : Nat) :
    (new.machine m).leaveLoop p height = new.machine (m.leaveLoop p height) := by
  have item : ∀ i : Nat, (m.loops.map new.itemLoop)[i]?.map ItemLoop.item =
      m.loops[i]?.map ItemLoop.item := by
    intro i
    rw [getElem?_map, Option.map_map]
    rfl
  simp only [Machine.leaveLoop, Renaming.machine, Machine.dropAt, length_map, item, eraseIdx_map]

theorem leaveFrame (m : Machine) (height : Nat) :
    (new.machine m).leaveFrame height = new.machine (m.leaveFrame height) := by
  simp only [Machine.leaveFrame, Renaming.machine, Machine.dropAt, length_map, eraseIdx_map]

theorem lookup_functions (m : Machine) (x : String) :
    (new.machine m).functions.lookup x = (m.functions.lookup x).map new.routine := by
  show (m.functions.map fun e => (e.1, new.routine e.2)).lookup x = _
  induction m.functions with
  | nil => rfl
  | cons _ _ ih =>
    rw [map_cons, lookup_cons, lookup_cons, ih]
    split <;> rfl

theorem register (m : Machine) (routine : Routine) :
    (new.machine m).register (new.routine routine) = new.machine (m.register routine) := by
  have table : ∀ functions : List (String × Routine),
      Machine.withRoutine (new.routine routine)
          (functions.map fun e => (e.1, new.routine e.2)) =
        (Machine.withRoutine routine functions).map
          fun e => (e.1, new.routine e.2) := by
    intro functions
    induction functions with
    | nil => rfl
    | cons e _ ih =>
      rw [map_cons, Machine.withRoutine, Machine.withRoutine, ih]
      show (if e.1 = routine.name then _ else _) = _
      split <;> rfl
  simp only [Machine.register, Renaming.machine, table]

theorem initial (folder : Path) :
    new.machine (Machine.initial folder) = Machine.initial folder := by
  simp [Renaming.machine, Machine.initial, bindings, new.apply_workPath]

/-! ## Arguments -/

/-- What is passed for an argument does not depend on the names. -/
theorem argumentValue (m : Machine) (serial : Nat) {argument : Tree Value}
    (formula : argument.IsFormula) :
    Execution.argumentValue (new.machine m) serial (new.tree argument) =
      Execution.argumentValue m serial argument := by
  cases formula with
  | missing | binary => rfl
  | number s | string s =>
    refine argumentValue_congr ?_ serial
    rintro _ ⟨⟩
  | name =>
    rw [tree, argumentValue_variable, argumentValue_variable, new.numberPassed?_apply, new.read]

/-- The parameters of a function are bound to the same values under their new names. -/
theorem bindArguments (m : Machine) (serial : Nat) (names : List String) (args : List (Tree Value))
    (formulas : ∀ t ∈ args, t.IsFormula) (locals : Bindings) :
    Execution.bindArguments (new.machine m) serial (new.trees (names.map .variable))
        (new.trees args) (new.bindings locals) =
      (Execution.bindArguments m serial (names.map .variable) args locals).map
        new.bindings := by
  induction names generalizing args locals with
  | nil => cases args <;> rfl
  | cons x names ih =>
    cases args with
    | nil => rfl
    | cons argument args =>
      rw [forall_mem_cons] at formulas
      have renamed : new.trees ((x :: names).map .variable) =
          ((new.apply x :: names.map new.apply).map .variable) := by
        simp [trees_eq_map, tree]
      have others : new.trees (names.map .variable) = (names.map new.apply).map .variable := by
        simp [trees_eq_map, tree]
      rw [renamed, trees, bindArguments_cons, bindArguments_cons, new.length_trees,
        new.argumentValue m _ formulas.1]
      cases Execution.argumentValue m (serial + args.length) argument with
      | error => rfl
      | ok v =>
        show Execution.bindArguments (new.machine m) serial
          ((names.map new.apply).map .variable) (new.trees args)
          ((new.bindings locals).assign (new.apply x) v) = _
        rw [assign_bindings, ← others]
        exact ih args formulas.2 _

end Renaming

end DeviceScript.Execution
