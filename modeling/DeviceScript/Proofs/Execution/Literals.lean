import DeviceScript.Proofs.Execution.Mirroring
import DeviceScript.Proofs.Execution.Renumbering

/-!
# List literals

A list of lists has expressions as its leaves. A `dyn` with such a list evaluates the leaves one
after the other, from left to right, and keeps the list of the same shape with their values in it.
`Fills` says what it is to have that shape: the values of the leaves are put where the leaves stand.

That a leaf has a value in the state in which the statement begins is enough: what is evaluated
before it leaves the state as it is, and takes some numbers, on which its success does not depend.

Only the list without items is different. It counts as nothing at all, a call is looked for in its
place, and the statement fails.
-/

namespace DeviceScript.Execution

open Exec List Script Reading Token
open DeviceScript.Script.Tree (IsArithmetic IsItem itemTokens)

variable {leaf : Tree Value} {ts : List Token} {after : World}

/-! ## Leaves and shapes -/

/-- The leaves of nested lists, from left to right. -/
def leaves : List (Tree Value) → List (Tree Value)
  | [] => []
  | .list inner :: ts => leaves inner ++ leaves ts
  | t :: ts => t :: leaves ts

/-- The values are those of the leaves, in lists of the same shape. -/
inductive Fills : List (Tree Value) → (outcomes : List Value) → (vs : List Value) → Prop
  | nil : Fills [] [] []
  | leaf {t : Tree Value} {ts : List (Tree Value)} {v : Value}
      {outcomes vs : List Value} (isLeaf : ∀ inner, t ≠ .list inner)
      (rest : Fills ts outcomes vs) :
      Fills (t :: ts) (v :: outcomes) (v :: vs)
  | list {inner ts : List (Tree Value)} {first others xs vs : List Value}
      (nested : Fills inner first xs) (rest : Fills ts others vs) :
      Fills (.list inner :: ts) (first ++ others) (.list xs :: vs)

theorem leaves_cons_of_ne_list {t : Tree Value} (isLeaf : ∀ inner, t ≠ .list inner)
    (ts : List (Tree Value)) : leaves (t :: ts) = t :: leaves ts := by
  rw [leaves]
  exact isLeaf

/-- A leaf is one of the items or a leaf of one of them. -/
theorem mem_leaves {ts : List (Tree Value)} (mem : leaf ∈ leaves ts) :
    (leaf ∈ ts ∧ ∀ inner, leaf ≠ .list inner) ∨
      ∃ inner, .list inner ∈ ts ∧ leaf ∈ leaves inner := by
  fun_induction leaves ts with
  | case1 => cases mem
  | case2 inner =>
    rcases mem_append.mp mem with here | later
    · exact .inr ⟨inner, mem_cons_self, here⟩
    · grind
  | case3 _ _ isLeaf =>
    rcases mem_cons.mp mem with rfl | later
    · exact .inl ⟨mem_cons_self, isLeaf⟩
    · grind

/-- The leaves of a literal are expressions. -/
theorem isArithmetic_of_mem_leaves {t : Tree Value} (literal : Reading.Literal ts t)
    {xs : List (Tree Value)} (same : t = .list xs) (mem : leaf ∈ leaves xs) :
    IsArithmetic leaf := by
  induction literal generalizing xs leaf with
  | value _ takes =>
    subst same
    cases isArithmetic_of_takes takes
  | list _ _ literals ih =>
    cases same
    rcases mem_leaves mem with ⟨listed, isLeaf⟩ | ⟨_, listed, inside⟩
    · obtain ⟨item, among, rfl⟩ := mem_map.mp listed
      obtain ⟨ts, t⟩ := item
      cases literals _ among with
      | value _ takes => exact isArithmetic_of_takes takes
      | list => exact absurd rfl (isLeaf _)
    · obtain ⟨item, among, whole⟩ := mem_map.mp listed
      exact ih item among whole inside

/-! ## Leaves that have a value whenever they are evaluated -/

/-- In the state, the tree has a value in every world, and the same one wherever it stands. -/
def Steady (visit : Visitor) (m : Machine) (t : Tree Value) : Prop :=
  ∀ w, ∃ v w', ∀ site, (visit site t).perform m w = ((.ok v, m), w')

section Visits

variable {host : Host} {most d : Nat} {m : Machine} {t : Tree Value}

/-- What an expression does is independent of where it stands. -/
theorem visit_eq_of_isArithmetic (arithmetic : IsArithmetic t) (site site' : Site) :
    visit host ⟨most, d⟩ site t = visit host ⟨most, d⟩ site' t := by
  induction arithmetic generalizing d site site' with
  | @binary first second operator listed _ _ left right =>
    cases d with
    | zero => rfl
    | succ d =>
      have lefts : visitWithin host most d ((0, 0) :: site) first =
          visitWithin host most d ((0, 0) :: site') first := left _ _
      have rights : visitWithin host most d ((0, 1) :: site) second =
          visitWithin host most d ((0, 1) :: site') second := right _ _
      simp only [visit, visitWithin, step, lefts, rights]
  | _ => cases d <;> rfl

/-- An expression with a value in one world has one in every world. -/
theorem steady_of_visit (arithmetic : IsArithmetic t) {site : Site} {m' : Machine}
    {w : World} {v : Value}
    (evaluated : (visit host ⟨most, d⟩ site t).perform m w =
      ((.ok v, m'), after)) : Steady (visit host ⟨most, d⟩) m t := by
  intro w'
  have running := running_of_visitWithin_ok evaluated
  have conveyed : Conveys m (visit host ⟨most, d⟩ site t) (evaluation m t) :=
    conveys_visit arithmetic running (height_le_of_visit arithmetic evaluated)
  have faultless := (conveyed.ok_iff w).mp ⟨_, _, _, evaluated⟩
  rw [fault?_evaluation m arithmetic _ w'.serials] at faultless
  obtain ⟨v', _, w'', performed⟩ := (conveyed.ok_iff w').mpr faultless
  obtain rfl := (eq_of_visitWithin_ok arithmetic.isFormula performed).symm
  refine ⟨v', w'', fun site' => ?_⟩
  rw [visit_eq_of_isArithmetic arithmetic site' site]
  exact performed

end Visits

/-! ## Nested lists -/

/-- **Nested items come to the values of their leaves**, evaluated from left to right. The induction
is on the items as they are visited; the world goes on from one leaf to the next. -/
theorem nestedItems_fills {visit : Visitor} {m : Machine} (here site : Site) (i : Nat)
    {xs : List (Tree Value)} (steady : ∀ leaf ∈ leaves xs, Steady visit m leaf) (w : World) :
    ∃ outcomes vs w',
      ((leaves xs).mapM (visit here)).perform m w = ((.ok outcomes, m), w') ∧
      Fills xs outcomes vs ∧
      (nestedItems visit site i xs).perform m w = ((.ok vs, m), w') := by
  fun_induction nestedItems visit site i xs generalizing w with
  | case1 =>
    rw [leaves]
    exact ⟨[], [], w, rfl, .nil, rfl⟩
  | case2 _ _ _ _ nested rest =>
    rw [leaves] at steady ⊢
    obtain ⟨first, xs, w'', reached, filled, visited⟩ :=
      nested (fun leaf mem => steady leaf (mem_append_left _ mem)) w
    obtain ⟨others, vs, w', reached', filled', visited'⟩ :=
      rest (fun leaf mem => steady leaf (mem_append_right _ mem)) w''
    refine ⟨first ++ others, .list xs :: vs, w', ?_, .list filled filled', ?_⟩
    · rw [mapM_append, perform_bind_ok reached, perform_bind_ok reached']
      rfl
    · rw [perform_bind_ok visited, perform_bind_ok visited']
      rfl
  | case3 _ _ _ _ isLeaf rest =>
    rw [leaves_cons_of_ne_list isLeaf] at steady ⊢
    rw [forall_mem_cons] at steady
    obtain ⟨v, w'', reached⟩ := steady.1 w
    obtain ⟨others, vs, w', reached', filled, visited⟩ := rest steady.2 w''
    refine ⟨v :: others, v :: vs, w', ?_, .leaf isLeaf filled, ?_⟩
    · rw [mapM_cons, perform_bind_ok (reached here), perform_bind_ok reached']
      rfl
    · rw [perform_bind_ok (reached _), perform_bind_ok visited]
      rfl

/-! ## Declarations -/

/-- The tokens of a `dyn` with a list literal are read as it. -/
theorem takes_statement_gather {xs : List (Tree Value)} (x : String)
    (literal : Reading.Literal ts (.list xs)) :
    Reading.Takes Reading.statement
      (keyword "dyn" :: Token.name x :: equals :: ts)
      (.gather x (.list xs) .missing) anything := by
  have list := (takes_list_of_literal literal).map fun xs =>
    Script.Tree.gather x (.list xs) .missing
  refine Reading.Takes.inspect fun r _ => ?_
  refine Reading.Takes.look (takes_target rfl rfl rfl ?_)
  cases literal with
  | value _ takes => cases isArithmetic_of_takes takes
  | @list opener closer _ opens =>
    obtain ⟨_, _⟩ := opener
    cases opens
    exact Reading.Takes.look list

section Gathering

variable {host : Host} {most d : Nat} {site : Site} {m : Machine} {x : String}
  {xs : List (Tree Value)} {w : World}

/-- A list with items is kept under the name. -/
theorem visit_gather_list (running : m.stopped = false) {vs : List Value}
    (some : xs ≠ [])
    (visited : (nestedItems (visit host ⟨most, d + 1⟩) site 0 xs).perform m w =
      ((.ok vs, m), after)) :
    (visit host ⟨most, d + 2⟩ site (.gather x (.list xs) .missing)).perform m
        w = ((.ok (.list vs), m.write x (.list vs)), after) := by
  obtain ⟨_, _, rfl⟩ := exists_cons_of_ne_nil some
  have again : (visit host ⟨most, d + 1⟩ ((0, 0) :: site)
      (.literal (.list vs))).perform m after = ((.ok (.list vs), m), after) :=
    perform_unlessStopped_of_running running _ after
  refine (perform_unlessStopped_of_running running _ w).trans ?_
  exact (perform_bind_ok visited).trans (perform_bind_ok again)

/-- The list without items fails, and nothing is kept. -/
theorem visit_gather_nil (running : m.stopped = false) :
    ∃ e w',
      (visit host ⟨most, d + 1⟩ site (.gather x (.list []) .missing)).perform m w =
        ((.error (.failed e), m), w') := by
  have stepped : (visit host ⟨most, d + 1⟩ site
      (.gather x (.list []) .missing)).perform m w = _ :=
    perform_unlessStopped_of_running running _ w
  rw [stepped, step_gather_missing _ _ _ _ _ (.inr rfl), perform_ofAct_bind]
  rcases scriptNames.perform w with ⟨e | _, w'⟩
  · exact ⟨e, w', rfl⟩
  · exact ⟨_, w', rfl⟩

end Gathering

/-- **What a list literal comes to.** A `dyn` with a literal whose leaves have values is read as it
stands. Its leaves are evaluated from left to right, and the name is given the list of the same
shape with their values in it, if there is any item in the literal. For the list without items the
statement fails. -/
theorem visit_gather_literal (host : Host) (most depth : Nat) (site here : Site) (machine : Machine)
    (world : World) (name : String) (tokens : List Token) (items : List (Script.Tree Value))
    (literal : Reading.Literal tokens (.list items)) (running : machine.stopped = false)
    (evaluated : ∀ leaf ∈ leaves items, ∃ value later after,
      (visit host ⟨most, depth + 1⟩ here leaf).perform machine world =
        ((.ok value, later), after)) :
    let statement := Script.Tree.gather name (.list items) .missing
    Reading.Takes Reading.statement
      (keyword "dyn" :: Token.name name :: equals :: tokens) statement
      anything ∧
    (∃ outcomes values after,
      ((leaves items).mapM (visit host ⟨most, depth + 1⟩ here)).perform machine world =
        ((.ok outcomes, machine), after) ∧
      Fills items outcomes values ∧
      (items ≠ [] →
        (visit host ⟨most, depth + 2⟩ site statement).perform machine world =
          ((.ok (.list values), machine.write name (.list values)), after))) ∧
    (items = [] → ∃ failure after,
      (visit host ⟨most, depth + 2⟩ site statement).perform machine world =
        ((.error (.failed failure), machine), after)) := by
  intro statement
  have steady : ∀ leaf ∈ leaves items, Steady (visit host ⟨most, depth + 1⟩) machine leaf := by
    intro leaf member
    obtain ⟨value, later, after, performed⟩ := evaluated leaf member
    exact steady_of_visit (isArithmetic_of_mem_leaves literal rfl member) performed
  refine ⟨takes_statement_gather name literal, ?_, ?_⟩
  · obtain ⟨outcomes, values, after, reached, filled, visited⟩ :=
      nestedItems_fills here site 0 steady world
    exact ⟨outcomes, values, after, reached, filled, fun some =>
      visit_gather_list running some visited⟩
  · rintro rfl
    exact visit_gather_nil running

/-- A list of a text, the list without items and a list of a variable. -/
def mixedItems : List (Tree Value) :=
  [.string "a", .list [], .list [.variable "x"]]

theorem literal_mixedItems :
    Reading.Literal (itemTokens (.list mixedItems)) (.list mixedItems) := by
  have text : IsItem (.string "a" : Tree Value) := .expression (.string (by decide))
  have x : IsItem (.variable "x" : Tree Value) := .expression (.name (by decide))
  have none : IsItem (.list [] : Tree Value) := .list (forall_mem_nil _)
  have some : IsItem (.list [.variable "x"] : Tree Value) := .list (forall_mem_singleton.mpr x)
  refine literal_of_isItem (.list ?_)
  simp only [mixedItems, forall_mem_cons]
  exact ⟨text, none, some, forall_mem_nil _⟩

theorem evaluated_mixedItems : ∀ leaf ∈ leaves mixedItems, ∃ v m w,
    (visit Host.bare ⟨0, 1⟩ [] leaf).perform (Machine.initial Path.here) default =
      ((.ok v, m), w) := by
  have same : leaves mixedItems = [.string "a", .variable "x"] := by simp [mixedItems, leaves]
  rw [same]
  simp only [forall_mem_cons]
  exact ⟨⟨_, _, _, rfl⟩, ⟨_, _, _, rfl⟩, forall_mem_nil _⟩

theorem visit_gather_literal_mixedItems :
    Reading.Literal (itemTokens (.list mixedItems)) (.list mixedItems) ∧
    (∀ leaf ∈ leaves mixedItems, ∃ value later after,
      (visit Host.bare ⟨0, 1⟩ [] leaf).perform (Machine.initial Path.here) default =
        ((.ok value, later), after)) ∧
    ∃ outcomes values after, Fills mixedItems outcomes values ∧
      (visit Host.bare ⟨0, 2⟩ [] (.gather "l" (.list mixedItems) .missing)).perform
        (Machine.initial Path.here) default =
          ((.ok (.list values), (Machine.initial Path.here).write "l" (.list values)), after) := by
  obtain ⟨-, ⟨outcomes, values, after, -, filled, performed⟩, -⟩ :=
    visit_gather_literal Host.bare 0 0 [] [] (Machine.initial Path.here) default "l" _ mixedItems
      literal_mixedItems rfl evaluated_mixedItems
  exact ⟨literal_mixedItems, evaluated_mixedItems, outcomes, values, after, filled,
    performed (cons_ne_nil _ _)⟩

/-- The list without items is a literal, but it cannot be kept under a name. -/
theorem gather_emptyList_fails :
    Reading.Takes Reading.statement
      [keyword "dyn", Token.name "x", equals, openSquare, closeSquare]
      (.gather "x" (.list []) .missing : Script.Tree Value) anything ∧
    ((visit Host.bare ⟨0, 2⟩ [] (.gather "x" (.list []) .missing)).perform
      (Machine.initial Path.here) { (default : World) with settings := some Settings.initial }).1 =
        (.error (.failed (.noAttribute "NoneType" "func_name")), Machine.initial Path.here) := by
  have empty : Reading.Literal [openSquare, closeSquare]
      (.list [] : Script.Tree Value) := literal_of_isItem (.list (forall_mem_nil _))
  exact ⟨takes_statement_gather "x" empty, rfl⟩

end DeviceScript.Execution
