import DeviceScript.Proofs.Execution.Balance
import DeviceScript.Proofs.Execution.Rounds
import DeviceScript.Proofs.Execution.Variables

/-!
# Loops inside loops

A statement may stand inside several loops over items, with branches and other loops between them.
`Enters` says that the visit of a tree comes to the visit of a statement in one of its bodies, and
`Under` that it comes there through any number of bodies, with the items of the loops that it passes
through. The loops that are then active are these ones, on top of those from before (`Under.keeps`),
so every current item is there to be read.

But a name is looked up in the innermost loop only. The items of the loops around it are read just
if they happen to be what their names read as outside of all loops. In the same way the items of a
loop are worked out when the loop is already the innermost one, so that its own name and that of the
loop around it need not read as they do around the loop (`visit_nested_items_iff`).
-/

namespace DeviceScript.Execution

open Exec List Script Machine

variable {t : Tree Value} {x : String}

/-! ## Formulas in two states -/

/-- The computation leaves both states as they are and ends alike in them. -/
def Alike {α : Type} (exec : Exec α) (m m' : Machine) : Prop :=
  ∀ w, ∃ o w', exec.perform m w = ((o, m), w') ∧ exec.perform m' w = ((o, m'), w')

/-- A formula is alike in states in which its names read the same. -/
theorem alike_of_formula (formula : t.IsFormula) (host : Host) (most d : Nat) (p : Site)
    {m m' : Machine} (running : m.stopped = false) (running' : m'.stopped = false)
    (same : ∀ x ∈ mentions t, m.read x = m'.read x) : Alike (visitWithin host most d p t) m m' := by
  intro w
  obtain ⟨_, _, _, _, w', reached, reached', ⟨rfl, rfl⟩, alike⟩ :=
    simulates_formula running running' formula host most d p same m m' w ⟨rfl, rfl⟩
  cases alike with
  | ok equal =>
    subst equal
    exact ⟨_, w', reached, reached'⟩
  | error => exact ⟨_, w', reached, reached'⟩

/-! ## Around a loop -/

/-- While the items of a loop are worked out, the name reads as it does around the loop: the own
name of the loop, if the item that the loop remembers is the value that the name has around it, and
any other name, unless the loop around hides another value under it. -/
def Machine.KeepsAround (m : Machine) (site : Site) (own name : String) : Prop :=
  if own = name then (m.memory.lookup site).getD .none = m.read name
  else ∀ loop ∈ m.loops.head?, loop.name = name → loop.item = m.outside name

theorem read_enterLoop (m : Machine) (p : Site) (own x : String) :
    (m.enterLoop p own).read x =
      if own = x then (m.memory.lookup p).getD .none else m.outside x := by
  rfl

theorem read_enterLoop_iff (m : Machine) (p : Site) (own x : String) :
    (m.enterLoop p own).read x = m.read x ↔ m.KeepsAround p own x := by
  rw [read_enterLoop, Machine.KeepsAround]
  by_cases same : own = x
  · rw [if_pos same, if_pos same]
  · rw [if_neg same, if_neg same]
    cases stack : m.loops with
    | nil =>
      rw [read_of_loops_nil stack]
      exact iff_of_true rfl nofun
    | cons loop =>
      rw [read_of_loops_cons stack]
      by_cases hides : loop.name = x
      · simp [hides, eq_comm]
      · simp [hides]

theorem perform_visit_variable (host : Host) (p : Site) {m : Machine}
    (running : m.stopped = false) (x : String) (w : World) :
    (visit host ⟨0, 1⟩ p (.variable x)).perform m w = ((.ok (m.read x), m), w) := by
  show (unlessStopped _).perform m w = _
  rw [perform_unlessStopped_of_running running]
  rfl

/-- Formulas over some names come out around a loop as they do when its items are worked out, just
if each of the names reads the same. -/
theorem formulas_around_iff (host : Host) {m : Machine} (running : m.stopped = false)
    (p : Site) (own : String) (names : List String) :
    (∀ bound place t, t.IsFormula → (∀ x ∈ mentions t, x ∈ names) →
      Alike (visit host bound place t) (m.enterLoop p own) m) ↔
    ∀ x ∈ names, m.KeepsAround p own x := by
  constructor
  · intro alike x listed
    have entered : (m.enterLoop p own).stopped = false := running
    obtain ⟨_, _, inside, around⟩ := alike ⟨0, 1⟩ [] (.variable x) (.name x)
      (by simpa [mentions] using listed) default
    rw [perform_visit_variable host [] entered] at inside
    rw [perform_visit_variable host [] running] at around
    cases inside
    rw [← read_enterLoop_iff]
    exact (Except.ok.inj (congrArg (fun res => res.1.1) around)).symm
  · intro kept bound place t formula listed
    exact alike_of_formula formula host bound.rounds bound.depth place running running
      fun x mentioned => (read_enterLoop_iff m p own x).mpr
        (kept x (listed x mentioned))

/-! ## Inside loops -/

/-- A visit that is to be made: what is visited, how deep and where it stands, and in which
state. -/
structure Visit where
  depth : Nat
  site : Site
  tree : Tree Value
  machine : Machine
  world : World

/-- Makes a visit. -/
def Visit.perform (host : Host) (most : Nat) (start : Visit) :
    (Except Interrupt Value × Machine) × World :=
  (visitWithin host most start.depth start.site start.tree).perform start.machine start.world

/-- The first visit comes to the second one, which is that of a statement in a body of the first
tree. If the first tree is a loop over items, the statement is visited in the round of the given
item. -/
inductive Enters (host : Host) (most : Nat) : Visit → Option ItemLoop → Visit → Prop
  | branch {depth part : Nat} {site : Site} {condition statement : Tree Value}
      {body otherwise front rest : List (Tree Value)}
      {alts : List (Tree Value × List (Tree Value))} {v : Value}
      {m decided chosen m' : Machine} {w w₁ w₂ w₃ : World} :
      m.stopped = false →
      (visitWithin host most depth ((0, 0) :: site) condition).perform m w =
        ((.ok v, decided), w₁) →
      (chooseBranch (visitWithin host most depth) site
        (if v.truthy then (1, body) else (2, otherwise)) 0 alts).perform decided
        w₁ = ((.ok (part, front ++ statement :: rest), chosen), w₂) →
      (runBody (visitWithin host most depth) site part 0 front).perform chosen w₂ =
        ((.ok (), m'), w₃) →
        Enters host most
          ⟨depth + 1, site, .branch condition body alts otherwise, m, w⟩ none
          ⟨depth, (part, front.length) :: site, statement, m', w₃⟩
  | round {depth : Nat} {site : Site} {t statement : Tree Value}
      {front rest : List (Tree Value)} {course left : Course} {finish : Exec Value}
      {m started m' m'' : Machine} {w w₁ w₂ w₃ : World} :
      m.stopped = false → isScoped t = false →
      Starts (visitWithin host most depth) most site (front ++ statement :: rest) t m w
        course finish started w₁ →
      course.Begins (runRound (visitWithin host most depth) site 1 0 (front ++ statement :: rest))
        started w₁ left m' w₂ →
      (runRound (visitWithin host most depth) site 1 0 front).perform m' w₂ =
        ((.ok (), m''), w₃) →
        Enters host most ⟨depth + 1, site, t, m, w⟩ none
          ⟨depth, (1, front.length) :: site, statement, m'', w₃⟩
  | item {depth : Nat} {site : Site} {name : String} {t statement : Tree Value}
      {front rest : List (Tree Value)} {passed left : List Value} {current : Value}
      {finish : Exec Value} {m started m' m'' : Machine}
      {w w₁ w₂ w₃ : World} :
      m.stopped = false →
      Starts (visitWithin host most depth) most site (front ++ statement :: rest)
        (.each name t (front ++ statement :: rest)) m w
        (.items (passed ++ current :: left)) finish started w₁ →
      (Course.items (passed ++ current :: left)).Begins
        (runRound (visitWithin host most depth) site 1 0 (front ++ statement :: rest)) started
        w₁ (.items left) m' w₂ →
      (runRound (visitWithin host most depth) site 1 0 front).perform m' w₂ =
        ((.ok (), m''), w₃) →
        Enters host most
          ⟨depth + 1, site, .each name t (front ++ statement :: rest), m, w⟩
          (some ⟨name, current⟩) ⟨depth, (1, front.length) :: site, statement, m'', w₃⟩

/-- The first visit comes to the second one, through any number of bodies, in the rounds of the
given items of loops over items, the innermost first. -/
inductive Under (host : Host) (most : Nat) : Visit → List ItemLoop → Visit → Prop
  | here (start : Visit) : Under host most start [] start
  | inside {start next last : Visit} {loop : Option ItemLoop} {loops : List ItemLoop} :
      Enters host most start loop next → Under host most next loops last →
        Under host most start (loops ++ loop.toList) last

/-! ## What rounds keep -/

namespace Course

variable {property : Machine → Prop} {round : Exec Unit} {course left : Course}
variable {m later : Machine} {w after : World}

/-- Opening a round keeps a property of states. -/
def Keeps (P : Machine → Prop) : Course → Prop
  | .times _ => True
  | .rounds condition _ => ∀ m m' w w' v, condition.perform m w = ((.ok v, m'), w') → P m → P m'
  | .items _ => ∀ m x, P m → P (m.setItem x)

theorem Opens.keeps (opens : Opens course m w left later after) (keeps : course.Keeps property)
    (holds : property m) : property later ∧ left.Keeps property := by
  cases opens with
  | times => exact ⟨holds, trivial⟩
  | rounds _ reached => exact ⟨keeps _ _ _ _ _ reached holds, keeps⟩
  | items x => exact ⟨keeps _ x holds, keeps⟩

/-- What opening a round and doing it both keep holds at the beginning of every round. -/
theorem Begins.keeps (begins : Begins round course m w left later after)
    (rounds : ∀ m later w after,
      round.perform m w = ((.ok (), later), after) → property m → property later)
    (keeps : course.Keeps property) (holds : property m) : property later := by
  induction begins with
  | next opens => exact (opens.keeps keeps holds).1
  | later opens done _ ih =>
    obtain ⟨opened, rest⟩ := opens.keeps keeps holds
    exact ih rest (rounds _ _ _ _ done opened)

theorem Begins.exists_setItem {xs : List Value}
    (begins : Begins round (.items xs) m w left later after) :
    ∃ passed x rest, ∃ m' : Machine, xs = passed ++ x :: rest ∧
      left = .items rest ∧ later = m'.setItem x := by
  generalize same : Course.items xs = course at begins
  induction begins generalizing xs with
  | next opens =>
    cases opens with
    | times | rounds => cases same
    | items x rest =>
      cases same
      exact ⟨[], x, rest, _, rfl, rfl, rfl⟩
  | later opens _ _ ih =>
    cases opens with
    | times | rounds => cases same
    | items first =>
      cases same
      obtain ⟨passed, x, rest, m', rfl, ended, set⟩ := ih rfl
      exact ⟨first :: passed, x, rest, m', rfl, ended, set⟩

/-- At the beginning of a round of a loop over items the item has just been set: it is the one in
front of those that are left. -/
theorem Begins.eq_setItem {passed rest : List Value} {x : Value}
    (begins : Begins round (.items (passed ++ x :: rest)) m w (.items rest) later
      after) : ∃ m' : Machine, later = m'.setItem x := by
  obtain ⟨_, _, _, m', split, left, set⟩ := begins.exists_setItem
  cases left
  obtain ⟨_, same⟩ := append_inj' split rfl
  cases same
  exact ⟨m', set⟩

end Course

theorem loops_setItem {m : Machine} {loop : ItemLoop} {loops : List ItemLoop}
    (stack : m.loops = loop :: loops) (x : Value) :
    (m.setItem x).loops = ⟨loop.name, x⟩ :: loops := by
  simp only [setItem, stack]

/-- The item that has been set is that of the innermost loop. -/
theorem item_of_setItem {m : Machine} {current item : Value} {loops : List ItemLoop}
    (stack : (m.setItem current).loops = ⟨x, item⟩ :: loops) : item = current := by
  cases old : m.loops with
  | nil =>
    simp only [setItem, old] at stack
    cases stack
  | cons =>
    rw [loops_setItem old] at stack
    cases stack
    rfl

/-- These loops are active, and the functions have bodies that can be read. -/
def Machine.HasLoops (m : Machine) (loops : List ItemLoop) : Prop :=
  m.loops = loops ∧ m.Ready

/-- A loop over items of the given name is active inside these loops, whatever its item is. -/
def Machine.InLoop (m : Machine) (name : String) (loops : List ItemLoop) : Prop :=
  ∃ x, m.HasLoops (⟨name, x⟩ :: loops)

theorem hasLoops_setItem {m : Machine} {loops : List ItemLoop} (inside : m.InLoop x loops)
    (item : Value) : (m.setItem item).HasLoops (⟨x, item⟩ :: loops) := by
  obtain ⟨_, stack, ready⟩ := inside
  refine ⟨loops_setItem stack item, ?_⟩
  unfold setItem
  split <;> exact ready

section Keeping

variable {host : Host} {most d : Nat} {site p : Site} {part index : Nat}
variable {trees : List (Tree Value)} {loops : List ItemLoop}
variable {m later : Machine} {w after : World}

/-- What is balanced leaves the loops as they are. -/
theorem Twin.hasLoops {α : Type} {actual strict : Exec α} (twin : Twin Eq actual strict)
    (active : m.HasLoops loops) {v : α}
    (done : actual.perform m w = ((.ok v, later), after)) : later.HasLoops loops := by
  have accounts := twin m w active.2
  rw [done] at accounts
  exact ⟨(accounts.loops rfl).symm.trans active.1, accounts.ready⟩

theorem hasLoops_of_runBody (produced : ∀ t ∈ trees, t.IsProduced)
    (active : m.HasLoops loops)
    (done : (runBody (visitWithin host most d) p part index trees).perform m w =
      ((.ok (), later), after)) : later.HasLoops loops := by
  have visited : ∀ t ∈ trees, Visited t := fun t mem => .inl (produced t mem)
  have twin := runBody_related compatible_twin_eq.congruent
    (fun p _ => twin_visitWithin host most d p) p part index visited
  exact twin.hasLoops active done

theorem hasLoops_of_runRound (produced : ∀ t ∈ trees, t.IsProduced)
    (active : m.HasLoops loops)
    (done : (runRound (visitWithin host most d) p part index trees).perform m w =
      ((.ok (), later), after)) : later.HasLoops loops := by
  have visited : ∀ t ∈ trees, Visited t := fun t mem => .inl (produced t mem)
  have twin := runRound_related compatible_twin_eq.congruent
    (fun p _ => twin_visitWithin host most d p) p part index visited
  exact twin.hasLoops active done

/-- Choosing among alternatives leaves the state as it is, and what is chosen is one of them or what
there was before. -/
theorem chooseBranch_ok {chosen res : Nat × List (Tree Value)}
    {alts : List (Tree Value × List (Tree Value))}
    (formulas : ∀ alternative ∈ alts, alternative.1.IsFormula)
    (chose : (chooseBranch (visitWithin host most d) p chosen index alts).perform
      m w = ((.ok res, later), after)) :
    later = m ∧ (res = chosen ∨ ∃ alternative ∈ alts, res.2 = alternative.2) := by
  induction alts generalizing index w with
  | nil =>
    cases chose
    exact ⟨rfl, .inl rfl⟩
  | cons alternative _ ih =>
    obtain ⟨c, _⟩ := alternative
    rw [forall_mem_cons] at formulas
    rw [chooseBranch] at chose
    rcases reached : (visitWithin host most d ((2 * index + 3, 0) :: p) c).perform
      m w with ⟨⟨_ | _, _⟩, _⟩
    · rw [perform_bind_error reached] at chose
      cases chose
    · obtain rfl := (eq_of_visitWithin_ok formulas.1 reached).symm
      rw [perform_bind_ok reached] at chose
      split at chose
      · cases chose
        exact ⟨rfl, .inr ⟨_, mem_cons_self, rfl⟩⟩
      · obtain ⟨same, fromBefore | ⟨alternative, listed, found⟩⟩ := ih formulas.2 chose
        · exact ⟨same, .inl fromBefore⟩
        · exact ⟨same, .inr ⟨alternative, .tail _ listed, found⟩⟩

end Keeping

/-! ## What is active inside -/

section Inside

variable {host : Host} {most : Nat} {start next last : Visit}

/-- A branch chooses one of its own bodies, and leaves the state as it is. -/
theorem chooseBranch_produced {d : Nat} {p : Site} {c : Tree Value}
    {body otherwise : List (Tree Value)} {alts : List (Tree Value × List (Tree Value))}
    (produced : (Script.Tree.branch c body alts otherwise).IsProduced)
    {holds : Bool} {m m' : Machine} {w w' : World} {part : Nat}
    {chosen : List (Tree Value)}
    (chose : (chooseBranch (visitWithin host most d) p
      (if holds then (1, body) else (2, otherwise)) 0 alts).perform m w =
      ((.ok (part, chosen), m'), w')) :
    m' = m ∧ ∀ t ∈ chosen, t.IsProduced := by
  cases produced with
  | branch _ inBody conditions bodies inOtherwise =>
    obtain ⟨same, fromFirst | ⟨alternative, listed, found⟩⟩ := chooseBranch_ok conditions chose
    · refine ⟨same, ?_⟩
      cases holds <;> cases fromFirst
      · exact inOtherwise
      · exact inBody
    · obtain rfl : chosen = alternative.2 := found
      exact ⟨same, bodies alternative listed⟩

variable {d : Nat} {site p : Site} {body : List (Tree Value)} {loops : List ItemLoop}
variable {finish : Exec Value} {m started begun : Machine} {w w₁ w₂ : World}

/-- A loop with a number of rounds or with a condition leaves the loops over items as they are. -/
theorem Starts.keeps {course left : Course} (produced : t.IsProduced)
    (active : m.HasLoops loops) (unscoped : isScoped t = false)
    (starts : Starts (visitWithin host most d) most p body t m w course finish
      started w₁)
    (begins : course.Begins (runRound (visitWithin host most d) p 1 0 body) started w₁
      left begun w₂) :
    (∀ t ∈ body, t.IsProduced) ∧ begun.HasLoops loops := by
  cases starts with
  | loop counted =>
    cases produced with
    | loop isCount inBody =>
      obtain rfl := eq_of_visitWithin_ok isCount counted
      have kept : begun.HasLoops loops := begins.keeps
        (fun m' m'' _ _ done kept => hasLoops_of_runRound inBody kept done) trivial active
      exact ⟨inBody, kept⟩
  | whileLoop c =>
    cases produced with
    | whileLoop isCondition inBody =>
      have conditions : (Course.rounds (visitWithin host most d ((0, 0) :: p) c)
          most).Keeps fun m'' => m''.HasLoops loops := by
        intro m' m'' _ _ _ holds kept
        obtain rfl := eq_of_visitWithin_ok isCondition holds
        exact kept
      have kept : begun.HasLoops loops := begins.keeps
        (fun m' m'' _ _ done kept => hasLoops_of_runRound inBody kept done) conditions active
      exact ⟨inBody, kept⟩
  | each => cases unscoped

/-- In the round of an item its loop is the innermost one. -/
theorem Starts.item {passed left : List Value}
    {current : Value} (produced : (Script.Tree.each x t body).IsProduced)
    (active : m.HasLoops loops)
    (starts : Starts (visitWithin host most d) most p body (.each x t body) m
      w (.items (passed ++ current :: left)) finish started w₁)
    (begins : (Course.items (passed ++ current :: left)).Begins
      (runRound (visitWithin host most d) p 1 0 body) started w₁ (.items left) begun
      w₂) :
    (∀ t ∈ body, t.IsProduced) ∧ begun.HasLoops (⟨x, current⟩ :: loops) := by
  cases produced with
  | each _ isItems inBody =>
    cases starts with
    | each visited =>
      obtain rfl := eq_of_visitWithin_ok isItems visited
      -- Between the rounds the loop stays the innermost one, with one item or another; which item
      -- it has at the beginning of a round is seen only from the way in which that round begins.
      have rounds : ∀ m' m'' w w',
          (runRound (visitWithin host most d) p 1 0 body).perform m' w =
            ((.ok (), m''), w') → m'.InLoop x loops → m''.InLoop x loops := by
        rintro m' m'' _ _ done ⟨item, kept⟩
        exact ⟨item, hasLoops_of_runRound inBody kept done⟩
      have entered : (m.enterLoop p x).InLoop x loops :=
        ⟨_, congrArg (List.cons _) active.1, active.2⟩
      obtain ⟨item, kept⟩ : begun.InLoop x loops := begins.keeps rounds
        (fun m' item inside => ⟨item, hasLoops_setItem inside item⟩) entered
      obtain ⟨m', rfl⟩ := begins.eq_setItem
      obtain rfl := item_of_setItem kept.1
      exact ⟨inBody, kept⟩

/-- Entering a body makes the loop over items, if it is one, the innermost of the active loops. -/
theorem Enters.keeps {loop : Option ItemLoop} (enters : Enters host most start loop next)
    (produced : start.tree.IsProduced) (active : start.machine.HasLoops loops) :
    next.tree.IsProduced ∧ next.machine.HasLoops (loop.toList ++ loops) := by
  have statement_mem {front rest : List (Tree Value)} {s : Tree Value} :
      s ∈ front ++ s :: rest := mem_append_right _ mem_cons_self
  have front_mem {front rest : List (Tree Value)} {s : Tree Value}
      (inBody : ∀ t ∈ front ++ s :: rest, t.IsProduced) :
      ∀ t ∈ front, t.IsProduced :=
    fun t mem => inBody t (mem_append_left _ mem)
  cases enters with
  | branch _ decided chose before =>
    obtain ⟨rfl, inBody⟩ := chooseBranch_produced produced chose
    cases produced with
    | branch isCondition =>
      obtain rfl := eq_of_visitWithin_ok isCondition decided
      exact ⟨inBody _ statement_mem, hasLoops_of_runBody (front_mem inBody) active before⟩
  | round _ unscoped starts begins before =>
    obtain ⟨inBody, begun⟩ := starts.keeps produced active unscoped begins
    exact ⟨inBody _ statement_mem, hasLoops_of_runRound (front_mem inBody) begun before⟩
  | item _ starts begins before =>
    obtain ⟨inBody, begun⟩ := starts.item produced active begins
    exact ⟨inBody _ statement_mem, hasLoops_of_runRound (front_mem inBody) begun before⟩

/-- The active loops are those on the way, on top of those from before. -/
theorem Under.keeps {passed : List ItemLoop} (under : Under host most start passed last)
    (produced : start.tree.IsProduced) (active : start.machine.HasLoops loops) :
    last.machine.HasLoops (passed ++ loops) := by
  induction under generalizing loops with
  | here => exact active
  | inside enters _ ih =>
    obtain ⟨inBody, entered⟩ := enters.keeps produced active
    rw [append_assoc]
    exact ih inBody entered

end Inside

/-! ## What gets out again -/

section Failing

variable {visit : Visitor} {site p : Site} {part : Nat} {front rest : List (Tree Value)}
variable {s : Tree Value} {m middle later : Machine}
variable {w w' after : World} {i : Interrupt}

theorem runBody_append (visit : Visitor) (p : Site) (part i : Nat)
    (front rest : List (Tree Value)) :
    runBody visit p part i (front ++ rest) = (do
      runBody visit p part i front
      runBody visit p part (i + front.length) rest) := by
  induction front generalizing i with
  | nil => rfl
  | cons _ _ ih =>
    rw [cons_append, runBody, runBody, ih, bind_assoc, length_cons,
      Nat.add_right_comm, ← Nat.add_assoc]

theorem perform_runBody_of_error
    (before : (runBody visit p part 0 front).perform m w = ((.ok (), middle), w'))
    (failed : (visit ((part, front.length) :: p) s).perform middle w' =
      ((.error i, later), after)) :
    (runBody visit p part 0 (front ++ s :: rest)).perform m w = ((.error i, later), after) := by
  rw [runBody_append, perform_bind_ok before, Nat.zero_add]
  exact perform_bind_error failed

theorem caught_of_not_isSignal {signal : Interrupt} (sent : signal.isSignal = true)
    (silent : i.isSignal = false) : Exec.caught signal (.error i) = .error i := by
  have other : i ≠ signal := by
    rintro rfl
    exact Bool.false_ne_true (silent.symm.trans sent)
  exact if_neg other

theorem perform_catching_of_error {exec : Exec Unit} {signal : Interrupt}
    (sent : signal.isSignal = true) (silent : i.isSignal = false)
    (failed : exec.perform m w = ((.error i, later), after)) :
    (Exec.catching signal exec).perform m w = ((.error i, later), after) := by
  have passed : Exec.caught signal (.error i) = .error i :=
    caught_of_not_isSignal sent silent
  simp only [perform_catching, failed, passed]

theorem perform_runRound_of_error (silent : i.isSignal = false)
    (before : (runRound visit p part 0 front).perform m w = ((.ok (), middle), w'))
    (failed : (visit ((part, front.length) :: p) s).perform middle w' =
      ((.error i, later), after)) :
    (runRound visit p part 0 (front ++ s :: rest)).perform m w = ((.error i, later), after) := by
  have passed : (Exec.catchSkip (do let _ ← visit ((part, front.length) :: p) s)).perform
      middle w' = ((.error i, later), after) :=
    perform_catching_of_error rfl silent (perform_bind_error failed)
  rw [runRound_append, perform_bind_ok before, Nat.zero_add, runRound, perform_bind_error passed]

/-- A statement of a round that fails ends its loop. -/
theorem perform_step_of_error {host : Host} {most : Nat}
    {course left : Course} {finish : Exec Value} {started m' : Machine} {w₁ w₂ : World}
    (silent : i.isSignal = false)
    (starts : Starts visit most p (front ++ s :: rest) t m w course finish
      started w₁)
    (begins : course.Begins (runRound visit p 1 0 (front ++ s :: rest)) started w₁
      left m' w₂)
    (before : (runRound visit p 1 0 front).perform m' w₂ = ((.ok (), middle), w'))
    (failed : (visit ((1, front.length) :: p) s).perform middle w' = ((.error i, later), after)) :
    (step host visit most p t).perform m w = ((.error i, later), after) := by
  rw [perform_step_of_begins starts begins]
  exact perform_bind_error (perform_catching_of_error rfl silent
    (perform_bind_error (perform_runRound_of_error silent before failed)))

/-- A failure inside gets out. -/
theorem Enters.perform_error {host : Host} {most : Nat} {start next : Visit}
    {loop : Option ItemLoop} (enters : Enters host most start loop next)
    (silent : i.isSignal = false) (failed : next.perform host most = ((.error i, later), after)) :
    start.perform host most = ((.error i, later), after) := by
  cases enters with
  | branch running decided chose before =>
    rw [Visit.perform, visitWithin, perform_unlessStopped_of_running running, step,
      perform_bind_ok decided, perform_bind_ok chose]
    exact perform_bind_error (perform_runBody_of_error before failed)
  | round running _ starts begins before | item running starts begins before =>
    rw [Visit.perform, visitWithin, perform_unlessStopped_of_running running]
    exact perform_step_of_error silent starts begins before failed

theorem Under.perform_error {host : Host} {most : Nat} {start last : Visit} {loops : List ItemLoop}
    (under : Under host most start loops last) (silent : i.isSignal = false)
    (failed : last.perform host most = ((.error i, later), after)) :
    start.perform host most = ((.error i, later), after) := by
  induction under with
  | here => exact failed
  | inside enters _ ih => exact enters.perform_error silent (ih failed)

end Failing

/-! ## Reading the items -/

/-- Of several active loops with different names, the items of all but the innermost one are read
just if they are what their names read as outside of all loops. -/
theorem read_items_iff {m : Machine} {loops rest : List ItemLoop}
    (active : m.loops = loops ++ rest) (distinct : (loops.map ItemLoop.name).Nodup) :
    (∀ loop ∈ loops, m.read loop.name = loop.item) ↔
      ∀ loop ∈ loops.tail, m.outside loop.name = loop.item := by
  cases loops with
  | nil => exact iff_of_true nofun nofun
  | cons innermost loops =>
    rw [map_cons, nodup_cons] at distinct
    have reads := read_of_loops_cons active
    have first : m.read innermost.name = innermost.item := by rw [reads, if_pos rfl]
    have others : ∀ loop ∈ loops, m.read loop.name = m.outside loop.name := by
      intro loop listed
      rw [reads, if_neg]
      intro same
      exact distinct.1 (same ▸ mem_map_of_mem listed)
    rw [forall_mem_cons]
    constructor
    · intro all loop listed
      rw [← others loop listed]
      exact all.2 loop listed
    · intro outer
      refine ⟨first, fun loop listed => ?_⟩
      rw [others loop listed]
      exact outer loop listed

/-- **When nested loops keep their items in scope.** The visit of a statement that can be read comes
to a visit inside it, in the rounds of items of loops with different names; what fails there fails
the whole visit. Then these loops are active, on top of those from before. All their items are read
under their names just if each item but the innermost is what its name reads as outside of all
loops. If a loop is visited there, its items are worked out when it has been entered already, and
formulas over their names come out as around the loop just if each of the names keeps its value. -/
theorem visit_nested_items_iff (host : Host) (most : Nat) (start last : Visit)
    (loops : List ItemLoop) (produced : start.tree.IsProduced) (ready : start.machine.Ready)
    (under : Under host most start loops last) (distinct : (loops.map ItemLoop.name).Nodup) :
    (∀ interrupt later after, interrupt.isSignal = false →
      last.perform host most = ((.error interrupt, later), after) →
        start.perform host most = ((.error interrupt, later), after)) ∧
    last.machine.loops = loops ++ start.machine.loops ∧
    ((∀ loop ∈ loops, last.machine.read loop.name = loop.item) ↔
      ∀ loop ∈ loops.tail, last.machine.outside loop.name = loop.item) ∧
    (∀ own items body depth, last.tree = .each own items body → last.depth = depth + 1 →
      last.machine.stopped = false →
        last.perform host most = (do
          loopOver (visit host ⟨most, depth⟩) last.site items body
          modify fun later => later.leaveLoop last.site last.machine.loops.length
          return .none : Exec Value).perform (last.machine.enterLoop last.site own) last.world ∧
        ((∀ bound place tree, tree.IsFormula → (∀ name ∈ mentions tree, name ∈ mentions items) →
          Alike (visit host bound place tree) (last.machine.enterLoop last.site own) last.machine) ↔
          ∀ name ∈ mentions items, last.machine.KeepsAround last.site own name)) := by
  obtain ⟨active, _⟩ := under.keeps produced ⟨rfl, ready⟩
  refine ⟨fun interrupt later after silent failed => under.perform_error silent failed, active,
    read_items_iff active distinct, ?_⟩
  intro own items body depth isLoop deep running
  refine ⟨?_, formulas_around_iff host running last.site own (mentions items)⟩
  rw [Visit.perform, isLoop, deep, visitWithin, perform_unlessStopped_of_running running]
  exact perform_step_each host _ most last.site own items body last.machine last.world

/-- A statement that reads the item of the outer one of two loops. -/
def readsOuter : Tree Value := .assign "x" (.variable "a")

/-- A loop over the item of the inner one of two loops. -/
def countsInner : Tree Value := .each "c" (.variable "b") []

def innerLoop : Tree Value := .each "b" (.variable "m") [readsOuter, countsInner]

/-- Two loops over counts, one inside the other. -/
def nestedLoops : Tree Value := .each "a" (.variable "n") [innerLoop]

/-- A state with the counts of both loops. -/
def twoCounts : Machine :=
  { initial Path.here with globals := [("n", .int 2), ("m", .int 1)] }

/-- The item of the outer loop is one in the last round, and reads as zero there. -/
theorem outer_item_reads_as_zero :
    let result := (visit Host.bare ⟨0, 4⟩ [] nestedLoops).perform twoCounts default
    result.1.1 = .ok .none ∧ result.1.2.memory.lookup [] = some (.int 1) ∧
      result.1.2.globals.lookup "x" = some (.int 0) :=
  ⟨rfl, rfl, rfl⟩

/-- The state in the last round of the outer loop. -/
def lastRound : Machine :=
  { twoCounts with
    globals := [("n", .int 2), ("m", .int 1), ("x", .int 0)]
    loops := [⟨"a", .int 1⟩]
    memory := [([(1, 0)], .int 0), ([(1, 1), (1, 0)], .none)] }

/-- The state in the last round of both loops. -/
def lastRounds : Machine :=
  { lastRound with loops := [⟨"b", .int 0⟩, ⟨"a", .int 1⟩] }

theorem enters_outer :
    Enters Host.bare 0 ⟨4, [], nestedLoops, twoCounts, default⟩ (some ⟨"a", .int 1⟩)
      ⟨3, [(1, 0)], innerLoop, lastRound, default⟩ := by
  have starts : Starts (visitWithin Host.bare 0 3) 0 [] ([] ++ innerLoop :: [])
      (.each "a" (.variable "n") ([] ++ innerLoop :: [])) twoCounts default
      (.items ([.int 0] ++ .int 1 :: [])) _ (twoCounts.enterLoop [] "a") default :=
    .each rfl rfl rfl
  have begins : (Course.items ([.int 0] ++ .int 1 :: [])).Begins
      (runRound (visitWithin Host.bare 0 3) [] 1 0 ([] ++ innerLoop :: []))
      (twoCounts.enterLoop [] "a") default (.items []) lastRound default :=
    .later (.items (.int 0) [.int 1] _ default) rfl (.next (.items (.int 1) [] _ default))
  have enters := Enters.item rfl starts begins rfl
  exact enters

theorem enters_inner :
    Enters Host.bare 0 ⟨3, [(1, 0)], innerLoop, lastRound, default⟩ (some ⟨"b", .int 0⟩)
      ⟨2, [(1, 1), (1, 0)], countsInner, lastRounds, default⟩ := by
  have starts : Starts (visitWithin Host.bare 0 2) 0 [(1, 0)] ([readsOuter] ++ countsInner :: [])
      (.each "b" (.variable "m") ([readsOuter] ++ countsInner :: [])) lastRound default
      (.items ([] ++ .int 0 :: [])) _ (lastRound.enterLoop [(1, 0)] "b") default :=
    .each rfl rfl rfl
  have begins : (Course.items ([] ++ .int 0 :: [])).Begins
      (runRound (visitWithin Host.bare 0 2) [(1, 0)] 1 0 ([readsOuter] ++ countsInner :: []))
      (lastRound.enterLoop [(1, 0)] "b") default (.items []) lastRounds default :=
    .next (.items (.int 0) [] _ default)
  have enters := Enters.item rfl starts begins rfl
  exact enters

theorem isProduced_nestedLoops : nestedLoops.IsProduced := by
  have inner : innerLoop.IsProduced := by
    refine .each "b" (.name "m") ?_
    simp only [forall_mem_cons]
    exact ⟨.assign "x" (.name "a"), .each "c" (.name "b") nofun, nofun⟩
  refine .each "a" (.name "n") ?_
  simp only [forall_mem_cons]
  exact ⟨inner, nofun⟩

/-- Two loops are active where a third one is visited, and the item of the outer one does not read
as zero. -/
theorem visit_nested_items_iff_nestedLoops :
    let start : Visit := ⟨4, [], nestedLoops, twoCounts, default⟩
    let last : Visit := ⟨2, [(1, 1), (1, 0)], countsInner, lastRounds, default⟩
    let loops : List ItemLoop := [⟨"b", .int 0⟩, ⟨"a", .int 1⟩]
    nestedLoops.IsProduced ∧ twoCounts.Ready ∧ Under Host.bare 0 start loops last ∧
    (loops.map ItemLoop.name).Nodup ∧ loops.tail = [⟨"a", .int 1⟩] ∧
    last.machine.outside "a" = .int 0 ∧
    (∀ interrupt later after, interrupt.isSignal = false →
      last.perform Host.bare 0 = ((.error interrupt, later), after) →
        start.perform Host.bare 0 = ((.error interrupt, later), after)) ∧
    last.machine.loops = loops ++ start.machine.loops ∧
    ((∀ loop ∈ loops, last.machine.read loop.name = loop.item) ↔
      ∀ loop ∈ loops.tail, last.machine.outside loop.name = loop.item) ∧
    (∀ own items body depth, last.tree = .each own items body → last.depth = depth + 1 →
      last.machine.stopped = false →
        last.perform Host.bare 0 = (do
          loopOver (visit Host.bare ⟨0, depth⟩) last.site items body
          modify fun later => later.leaveLoop last.site last.machine.loops.length
          return .none : Exec Value).perform (last.machine.enterLoop last.site own) last.world ∧
        ((∀ bound place tree, tree.IsFormula → (∀ name ∈ mentions tree, name ∈ mentions items) →
          Alike (visit Host.bare bound place tree) (last.machine.enterLoop last.site own)
            last.machine) ↔
          ∀ name ∈ mentions items, last.machine.KeepsAround last.site own name)) := by
  intro start last loops
  have under : Under Host.bare 0 start loops last :=
    .inside enters_outer (.inside enters_inner (.here last))
  have distinct : (loops.map ItemLoop.name).Nodup := by decide
  exact ⟨isProduced_nestedLoops, nofun, under, distinct, rfl, rfl,
    visit_nested_items_iff Host.bare 0 start last loops isProduced_nestedLoops nofun under distinct⟩

end DeviceScript.Execution
