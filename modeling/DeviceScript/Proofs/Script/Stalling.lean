import DeviceScript.Proofs.Script.Bounds

/-!
# Where reading does not end

Reading a list goes on until the closing bracket is found. A comma and a nested list take tokens,
and so does an expression that begins with an operand or an operator; at any other token an
expression is left out and nothing is taken, so that the same token is met again and again, and
reading does not end whatever its bound is.

`ItemAt` and `Visits` say how reading gets from one place to another: from the start of a list
to each place where an item is looked for, and from the start of a statement to each place where a
statement inside it is begun. A statement stalls if such a way leads to a list, and on to a token
that the list does not go on with. Along the way every reading is the same within every bound that
is enough for it, so what stalls at the end of a way stalls at its start, whatever the bound.

Reading also gets stuck at a title: it gives the script the text of the leaf that stands behind it,
and where no leaf stands there the text is asked of a tree that has none (`Untitled`).
-/

namespace DeviceScript.Script.Reading

open Composed

variable {α β γ : Type} {r r' : Reader} {fault : ReadFault}
variable {reading : Reading β} {next : β → Reading γ} {within : Nat → Reading β}

/-! ## Ways through a text -/

/-- The reading gives something and leaves the reader at a later place. -/
def Passes (reading : Reading β) (r r' : Reader) : Prop :=
  ∃ v, reading.run.run r = (.ok v, r')

/-- Within some bound the reading gives something. -/
def PassesWithin (within : Nat → Reading β) (r r' : Reader) : Prop :=
  ∃ steps, Passes (within steps) r r'

/-- A list goes on with the kind: a bracket, a comma, an operand or an operator. -/
def continuesList (k : TokenKind) : Bool :=
  k = .closeBracket || k = .comma || beginsOperand k || isOperator k

theorem continuesList_eq_false_iff (k : TokenKind) :
    continuesList k = false ↔
      k ≠ .closeBracket ∧ k ≠ .comma ∧ beginsOperand k = false ∧ isOperator k = false := by
  simp [continuesList, and_assoc]

section Ways

variable (α)

/-- From one place where an item of a list is looked for, reading comes to another one, in the same
list or in a list inside it. -/
inductive ItemAt : Reader → Reader → Prop
  | here (r : Reader) : ItemAt r r
  | inner {r r' r'' : Reader} (entered : Passes (expect .openBracket) r r')
      (way : ItemAt r' r'') : ItemAt r r''
  | list {r r' r'' : Reader} (read : PassesWithin (listWithin (α := α)) r r')
      (way : ItemAt r' r'') : ItemAt r r''
  | comma {r r' r'' : Reader} (read : Passes (expect .comma) r r')
      (way : ItemAt r' r'') : ItemAt r r''
  | value {r r' r'' : Reader}
      (begins : beginsOperand r.kind = true ∨ isOperator r.kind = true)
      (separate : r.kind ≠ .openBracket)
      (read : Passes (expression (α := α)) r r') (way : ItemAt r' r'') :
      ItemAt r r''

/-- An item is looked for at a token that the list does not go on with. -/
def ItemsStall (r : Reader) : Prop :=
  ∃ r', ItemAt α r r' ∧ continuesList r'.kind = false

/-- The same for a list with its brackets. -/
def ListStalls (r : Reader) : Prop :=
  ∃ r', Passes (expect .openBracket) r r' ∧ ItemsStall α r'

end Ways

/-- A list stalls wherever a way leads on to a place where it stalls. -/
theorem ItemsStall.extend (ways : ∀ r'', ItemAt α r' r'' → ItemAt α r r'')
    (stalls : ItemsStall α r') : ItemsStall α r := by
  obtain ⟨r'', way, stuck⟩ := stalls
  exact ⟨r'', ways r'' way, stuck⟩

/-! ## Outcomes within different bounds -/

def Fails (reading : Reading β) (r : Reader) (fault : ReadFault) : Prop :=
  (reading.run.run r).1 = .error fault

theorem Fails.bind (fails : Fails reading r fault)
    (f : β → Reading γ) : Fails (reading >>= f) r fault := by
  rw [Fails] at fails ⊢
  rw [run_bind]
  rcases read : reading.run.run r with ⟨_ | _, _⟩
  · rw [read] at fails
    cases fails
    rfl
  · rw [read] at fails
    cases fails

theorem Fails.after (passes : Passes reading r r') (fails : ∀ v, Fails (next v) r' fault) :
    Fails (reading >>= next) r fault := by
  obtain ⟨v, read⟩ := passes
  rw [Fails, run_bind, read]
  exact fails v

def Endless (reading : Reading β) (r : Reader) : Prop :=
  (reading.run.run r).1 = .error .endless

theorem Endless.bind (endless : Endless reading r)
    (f : β → Reading γ) : Endless (reading >>= f) r := Fails.bind endless f

theorem Endless.after
    (passes : Passes reading r r') (endless : ∀ v, Endless (next v) r') :
    Endless (reading >>= next) r := Fails.after passes endless

/-- A reading that gives something within some bound gives the same within every bound that does
not run out. -/
theorem run_of_not_endless (longer : Lengthens within) {v : β} {n enough : Nat}
    (read : (within enough).run.run r = (.ok v, r')) (ends : ¬ Endless (within n) r) :
    (within n).run.run r = (.ok v, r') := by
  have fewer := longer (Nat.le_max_left n enough) r ends
  have more := longer (Nat.le_max_right n enough) r (by rw [read]; rintro ⟨⟩)
  rw [← fewer, more, read]

/-- A reading that passes within some bound either passes in the same way within another one, or
that bound runs out. -/
theorem endless_or_passes (longer : Lengthens within) (passes : PassesWithin within r r')
    (n : Nat) : Endless (within n) r ∨ Passes (within n) r r' := by
  obtain ⟨enough, v, read⟩ := passes
  by_cases endless : Endless (within n) r
  · exact .inl endless
  · exact .inr ⟨v, run_of_not_endless longer read endless⟩

/-- Where a part passes within some bound and what follows it is endless, the whole is endless. -/
theorem Endless.afterWithin (longer : Lengthens within) (passes : PassesWithin within r r')
    (n : Nat) (endless : ∀ v, Endless (next v) r') : Endless (within n >>= next) r := by
  rcases endless_or_passes longer passes n with out | passes
  · exact out.bind next
  · exact .after passes endless

/-- Within every bound that is large enough reading fails with the fault. -/
def Stops (within : Nat → Reading β) (r : Reader) (fault : ReadFault) : Prop :=
  ∃ least, ∀ steps, least ≤ steps → Fails (within steps) r fault

/-- Bounds that allow a step are enough to look at. -/
theorem Stops.of_succ (stops : Stops (fun n => within (n + 1)) r fault) : Stops within r fault := by
  obtain ⟨least, fails⟩ := stops
  refine ⟨least + 1, fun n le => ?_⟩
  obtain ⟨less, rfl⟩ : ∃ less, n = less + 1 := ⟨n - 1, by omega⟩
  exact fails less (by omega)

/-- What fails in the first part fails as a whole. -/
theorem Stops.bind {f : Nat → β → Reading γ} (stops : Stops within r fault) :
    Stops (fun n => within n >>= f n) r fault := by
  obtain ⟨least, fails⟩ := stops
  exact ⟨least, fun n le => (fails n le).bind _⟩

/-- What fails behind a part that passes fails as a whole. -/
theorem Stops.after {f : Nat → β → Reading γ} (passes : Passes reading r r')
    (stops : ∀ v, Stops (fun n => f n v) r' fault) : Stops (fun n => reading >>= f n) r fault := by
  obtain ⟨v, read⟩ := passes
  obtain ⟨least, fails⟩ := stops v
  refine ⟨least, fun n le => ?_⟩
  rw [Fails, run_bind, read]
  exact fails n le

theorem Stops.afterWithin {f : Nat → β → Reading γ} (longer : Lengthens within)
    (passes : PassesWithin within r r') (stops : ∀ v, Stops (fun n => f n v) r' fault) :
    Stops (fun n => within n >>= f n) r fault := by
  obtain ⟨enough, v, read⟩ := passes
  obtain ⟨least, fails⟩ := stops v
  refine ⟨max enough least, fun n le => ?_⟩
  have same := longer (Nat.le_trans (Nat.le_max_left ..) le) r
    (by rw [read]; simp)
  rw [Fails, run_bind, same, read]
  exact fails n (Nat.le_trans (Nat.le_max_right ..) le)

theorem stops_congr {within' : Nat → Reading β} (stops : Stops within' r fault)
    (same : ∀ n, (within n).run.run r = (within' n).run.run r) : Stops within r fault := by
  obtain ⟨least, fails⟩ := stops
  refine ⟨least, fun n le => ?_⟩
  rw [Fails, same]
  exact fails n le

/-- What is endless within every bound that is large enough is so within each. -/
theorem Stops.unending (longer : Lengthens within)
    (stops : Stops within r .endless) (n : Nat) : Endless (within n) r := by
  obtain ⟨least, fails⟩ := stops
  apply Classical.byContradiction
  intro ends
  have same := longer (Nat.le_max_left n least) r ends
  have endless := fails _ (Nat.le_max_right n least)
  rw [Fails, same] at endless
  exact ends endless

/-! ## Lists -/

theorem kind_of_passes_expect {wanted : TokenKind} (passes : Passes (expect wanted) r r') :
    r.kind = wanted := by
  obtain ⟨_, read⟩ := passes
  rw [expect, run_look] at read
  split at read
  · assumption
  · cases read

theorem kind_of_passes_listWithin {n : Nat}
    (passes : Passes (listWithin (α := α) n) r r') : r.kind = .openBracket := by
  obtain ⟨v, read⟩ := passes
  cases n with
  | zero => cases read
  | succ =>
    rw [listWithin, run_bind] at read
    rcases entered : (expect .openBracket).run.run r with ⟨_ | v, _⟩
    · rw [entered] at read
      cases read
    · exact kind_of_passes_expect ⟨v, entered⟩

theorem endless_listWithin_of_items (entered : Passes (expect .openBracket) r r')
    (items : ∀ n, Endless (itemsWithin (α := α) n) r') (n : Nat) :
    Endless (listWithin (α := α) n) r := by
  cases n with
  | zero => rfl
  | succ n => exact .after entered fun _ => (items n).bind _

/-- At a token that a list does not go on with, every turn leaves the reader where it is. -/
theorem endless_itemsWithin_of_stuck (stuck : continuesList r.kind = false) (n : Nat) :
    Endless (itemsWithin (α := α) n) r := by
  obtain ⟨notClosed, noComma, noOperand, noOperator⟩ := (continuesList_eq_false_iff _).mp stuck
  have missing := run_expression_missing (α := α) noOperand noOperator
  induction n with
  | zero => rfl
  | succ _ ih =>
    rw [Endless, itemsWithin, run_look]
    split
    · exact absurd ‹_› notClosed
    · rename_i bracket
      rw [bracket] at noOperand
      cases noOperand
    · exact absurd ‹_› noComma
    · exact Endless.after ⟨_, missing⟩ fun _ => ih.bind _

/-- **A list that stalls is endless**, whatever the bound. The induction is on the way to the token
that the list does not go on with. -/
theorem endless_itemsWithin (stalls : ItemsStall α r) :
    ∀ n, Endless (itemsWithin (α := α) n) r := by
  obtain ⟨r', way, stuck⟩ := stalls
  induction way with
  | here => exact endless_itemsWithin_of_stuck stuck
  | inner entered _ ih =>
    intro n
    cases n with
    | zero => rfl
    | succ n =>
      rw [Endless, itemsWithin, run_look, kind_of_passes_expect entered]
      exact (endless_listWithin_of_items entered (ih stuck) n).bind _
  | list read _ ih =>
    intro n
    cases n with
    | zero => rfl
    | succ n =>
      obtain ⟨_, passes⟩ := read
      rw [Endless, itemsWithin, run_look, kind_of_passes_listWithin passes]
      exact Endless.afterWithin (fun _ _ le => (lists le).2.extends) ⟨_, passes⟩ n
        fun _ => (ih stuck n).bind _
  | comma read _ ih =>
    intro n
    cases n with
    | zero => rfl
    | succ n =>
      rw [Endless, itemsWithin, run_look, kind_of_passes_expect read]
      exact Endless.after read fun _ => ih stuck n
  | @value r r'' r' begins separate read way ih =>
    intro n
    cases n with
    | zero => rfl
    | succ n =>
      rw [Endless, itemsWithin, run_look]
      split
      · rename_i closed
        rw [closed] at begins
        rcases begins with begins | begins <;> cases begins
      · exact absurd ‹_› separate
      · rename_i comma
        rw [comma] at begins
        rcases begins with begins | begins <;> cases begins
      · exact Endless.after read fun _ => (ih stuck n).bind _

theorem endless_listWithin (stalls : ListStalls α r) (n : Nat) :
    Endless (listWithin (α := α) n) r := by
  obtain ⟨_, entered, items⟩ := stalls
  exact endless_listWithin_of_items entered (endless_itemsWithin items) n

theorem endless_list (stalls : ListStalls α r) : Endless (list (α := α)) r := by
  rw [Endless, list, run_inspect]
  exact endless_listWithin stalls _

/-! ## Statements with bodies -/

def branchHead : Reading (Tree α) := do
  expect .condition
  expect .openBracket
  let head ← condition
  expect .closeBracket
  return head

/-- Reads an alternative up to its body; the last one may have no condition. -/
def alternativeHead : Reading (Option (Tree α)) := do
  expect .otherwise
  if (← currentKind) = .condition then return some (← branchHead)
  else return none

/-- Puts an alternative in front of those that follow it. -/
def joinAlternative (head : Option (Tree α)) (body : List (Tree α))
    (following : List (Tree α × List (Tree α)) × List (Tree α)) :
    List (Tree α × List (Tree α)) × List (Tree α) :=
  match head with
  | some head => ((head, body) :: following.1, following.2)
  | none => (following.1, body ++ following.2)

/-- How a statement with one body is read up to the body, by the kind that it begins with. -/
def bodyHead? : TokenKind → Option (Reading (List (Tree α) → Tree α))
  | .repeatTimes => some do
    expect .repeatTimes
    return .loop (← expression)
  | .repeatWhile => some do
    expect .repeatWhile
    return .whileLoop (← expression)
  | .function => some do
    expect .function
    let name ← identifier
    let params ←
      if (← currentKind) = .openBracket then do
        advance
        arguments
      else pure []
    return fun body => .function name body params
  | .each => some do
    expect .each
    expect .openBracket
    let item ← identifier
    expect .comma
    let items ← expression
    expect .closeBracket
    return .each item items
  | _ => none

theorem run_statementWithin_body {head : Reading (List (Tree α) → Tree α)}
    (found : bodyHead? r.kind = some head) (n : Nat) :
    (statementWithin (n + 1)).run.run r =
      (head >>= fun form => blockWithin n >>= fun body => pure (form body)).run.run r := by
  rw [statementWithin, run_look]
  generalize r.kind = k at found
  unfold bodyHead? at found
  split at found
  all_goals cases found
  all_goals simp only [bind_assoc, pure_bind]
  · refine congrArg (fun reading : Reading _ => reading.run.run r) ?_
    refine bind_congr fun _ => bind_congr fun name => bind_congr fun k => ?_
    split
    · simp only [bind_assoc, pure_bind]
    · simp only [pure_bind]

theorem run_statementWithin_branch (branch : r.kind = .condition) (n : Nat) :
    (statementWithin (α := α) (n + 1)).run.run r =
      (branchHead >>= fun head => blockWithin n >>= fun body =>
        alternativesWithin n >>= fun following =>
          pure (.branch head body following.1 following.2)).run.run r := by
  rw [statementWithin, run_look, branch, branchHead]
  simp only [bind_assoc, pure_bind]

theorem run_alternativesWithin (more : r.kind = .otherwise) (n : Nat) :
    (alternativesWithin (α := α) (n + 1)).run.run r =
      (alternativeHead >>= fun head => blockWithin n >>= fun body =>
        alternativesWithin n >>= fun following =>
          pure (joinAlternative head body following)).run.run r := by
  rw [alternativesWithin, run_look, if_pos more, alternativeHead, branchHead]
  simp only [bind_assoc]
  refine congrArg (fun reading : Reading _ => reading.run.run r) ?_
  refine bind_congr fun _ => bind_congr fun k => ?_
  split
  · simp only [bind_assoc, pure_bind]
    rfl
  · rfl

theorem run_statementsWithin (inside : r.kind ≠ .closeBrace ∧ r.kind ≠ .endOfText)
    (n : Nat) :
    (statementsWithin (α := α) (n + 1)).run.run r =
      (statementWithin n >>= fun first => statementsWithin n >>= fun others =>
        pure (first :: others)).run.run r := by
  rw [statementsWithin, run_look, if_neg (by simpa using inside)]

theorem run_blockWithin (r : Reader) (n : Nat) :
    (blockWithin (α := α) (n + 1)).run.run r =
      (expect .openBrace >>= fun _ => statementsWithin n >>= fun body =>
        expect .closeBrace >>= fun _ => pure body).run.run r := by
  rw [blockWithin]

/-- Reads an assignment of a list, or of what takes its place, up to the right side. -/
def gatherHead : Reading String := do
  expect .gather
  let name ← identifier
  expect .equals
  return name

/-- The parts of a text that statements stand in. -/
inductive Part
  | statement
  | statements
  | block
  | alternatives

section Ways

variable (α)

/-- Reading a part of a text from the first reader comes to begin a statement at the second one. -/
inductive Visits : Part → Reader → Reader → Prop
  | here (r : Reader) : Visits .statement r r
  | body {r r' r'' : Reader} {head : Reading (List (Tree α) → Tree α)}
      (found : bodyHead? r.kind = some head) (read : Passes head r r')
      (way : Visits .block r' r'') : Visits .statement r r''
  | branch {r r' r'' : Reader} (read : Passes (branchHead (α := α)) r r')
      (way : Visits .block r' r'') : Visits .statement r r''
  | alternatives {r r' r'' r''' : Reader}
      (read : Passes (branchHead (α := α)) r r')
      (body : PassesWithin (blockWithin (α := α)) r' r'')
      (way : Visits .alternatives r'' r''') : Visits .statement r r'''
  | first {r r' : Reader} (inside : r.kind ≠ .closeBrace ∧ r.kind ≠ .endOfText)
      (way : Visits .statement r r') : Visits .statements r r'
  | following {r r' r'' : Reader}
      (inside : r.kind ≠ .closeBrace ∧ r.kind ≠ .endOfText)
      (read : PassesWithin (statementWithin (α := α)) r r')
      (way : Visits .statements r' r'') : Visits .statements r r''
  | block {r r' r'' : Reader} (entered : Passes (expect .openBrace) r r')
      (way : Visits .statements r' r'') : Visits .block r r''
  | alternative {r r' r'' : Reader}
      (read : Passes (alternativeHead (α := α)) r r')
      (way : Visits .block r' r'') : Visits .alternatives r r''
  | further {r r' r'' r''' : Reader}
      (read : Passes (alternativeHead (α := α)) r r')
      (body : PassesWithin (blockWithin (α := α)) r' r'')
      (way : Visits .alternatives r'' r''') : Visits .alternatives r r'''

/-- A part of a text stalls if a statement is begun in it that assigns a list which stalls. -/
def PartStalls (part : Part) (r : Reader) : Prop :=
  ∃ r' r'', Visits α part r r' ∧ Passes gatherHead r' r'' ∧ ListStalls α r''

/-- A title stands here, and behind it no leaf that could give the script its name. -/
def Untitled (r : Reader) : Prop :=
  ∃ (r' r'' : Reader) (v : Tree α), Passes (expect .title) r r' ∧
    operand.run.run r' = (.ok v, r'') ∧ v.leafText? = none

/-- Reading the part comes to an untitled place. -/
def PartUntitled (part : Part) (r : Reader) : Prop :=
  ∃ r', Visits α part r r' ∧ Untitled α r'

/-- What a statement that is begun here gets stuck at: a list that stalls, or a title without a
text. -/
def StuckAt (r : Reader) : ReadFault → Prop
  | .endless => ∃ r', Passes gatherHead r r' ∧ ListStalls α r'
  | .failure _ => Untitled α r

/-- Reading the part comes to a place where it gets stuck. -/
def PartStuck (part : Part) (r : Reader) (fault : ReadFault) : Prop :=
  ∃ r', Visits α part r r' ∧ StuckAt α r' fault

/-- Within no bound does reading the part end. -/
def Part.Unending : Part → Reader → Prop
  | .statement, r => ∀ steps, Endless (statementWithin (α := α) steps) r
  | .statements, r => ∀ steps, Endless (statementsWithin (α := α) steps) r
  | .block, r => ∀ steps, Endless (blockWithin (α := α) steps) r
  | .alternatives, r => ∀ steps, Endless (alternativesWithin (α := α) steps) r

/-- Reading the part fails with the fault within every bound that is large enough. -/
def Part.Stops (part : Part) (r : Reader) (fault : ReadFault) : Prop :=
  match part with
  | .statement => Reading.Stops (statementWithin (α := α)) r fault
  | .statements => Reading.Stops (statementsWithin (α := α)) r fault
  | .block => Reading.Stops (blockWithin (α := α)) r fault
  | .alternatives => Reading.Stops (alternativesWithin (α := α)) r fault

end Ways

variable {part : Part}

/-- Reading a part gets stuck wherever a way leads on to a part that gets stuck. -/
theorem PartStuck.extend {part' : Part} (ways : ∀ r'', Visits α part' r' r'' → Visits α part r r'')
    (fault : ReadFault) (stuck : PartStuck α part' r' fault) : PartStuck α part r fault := by
  obtain ⟨r'', way, stands⟩ := stuck
  exact ⟨r'', ways r'' way, stands⟩

theorem partStuck_endless_iff : PartStuck α part r .endless ↔ PartStalls α part r := by
  constructor
  · rintro ⟨r', way, r'', head⟩
    exact ⟨r', r'', way, head⟩
  · rintro ⟨r', r'', way, head⟩
    exact ⟨r', way, r'', head⟩

/-! ## What stalls is endless -/

/-- A reading made of two passes where both parts pass. -/
theorem passes_bind {r'' : Reader} (passes : Passes (reading >>= next) r r'') :
    ∃ v r', reading.run.run r = (.ok v, r') ∧ Passes (next v) r' r'' := by
  obtain ⟨res, whole⟩ := passes
  rw [run_bind] at whole
  rcases read : reading.run.run r with ⟨_ | v, r'⟩
  · rw [read] at whole
    cases whole
  · rw [read] at whole
    exact ⟨v, r', rfl, res, whole⟩

theorem kind_of_passes_branchHead (passes : Passes (branchHead (α := α)) r r') :
    r.kind = .condition := by
  obtain ⟨v, _, read, _⟩ := passes_bind passes
  exact kind_of_passes_expect ⟨v, read⟩

theorem kind_of_passes_alternativeHead (passes : Passes (alternativeHead (α := α)) r r') :
    r.kind = .otherwise := by
  obtain ⟨v, _, read, _⟩ := passes_bind passes
  exact kind_of_passes_expect ⟨v, read⟩

theorem endless_gathering (head : Passes gatherHead r r') (stalls : ListStalls α r') :
    Endless (gathering (α := α)) r := by
  obtain ⟨_, _, gather, head⟩ := passes_bind head
  obtain ⟨_, _, name, head⟩ := passes_bind head
  obtain ⟨_, _, equals, head⟩ := passes_bind head
  obtain ⟨_, same⟩ := head
  cases same
  refine .after ⟨_, gather⟩ fun _ => .after ⟨_, name⟩ fun _ => .after ⟨_, equals⟩ fun _ => ?_
  have bracket : r'.kind = .openBracket := by
    obtain ⟨_, entered, _⟩ := stalls
    exact kind_of_passes_expect entered
  rw [Endless, run_look, bracket]
  exact (endless_list stalls).bind _

theorem unending_gathering (head : Passes gatherHead r r') (stalls : ListStalls α r') :
    Part.statement.Unending α r := by
  intro n
  cases n with
  | zero => rfl
  | succ =>
    obtain ⟨_, _, gather, _⟩ := passes_bind head
    rw [Endless, statementWithin, run_look, kind_of_passes_expect ⟨_, gather⟩]
    exact endless_gathering head stalls

/-- What stops reading where a statement is begun stops everything around it. -/
theorem stops_of_visits {r' : Reader} (way : Visits α part r r')
    (stops : Part.statement.Stops α r' fault) : part.Stops α r fault := by
  induction way with
  | here => exact stops
  | body found read _ ih =>
    refine .of_succ (stops_congr ?_ fun n => run_statementWithin_body found n)
    exact .after read fun _ => (ih stops).bind
  | branch read _ ih =>
    refine .of_succ (stops_congr ?_ fun n =>
      run_statementWithin_branch (kind_of_passes_branchHead read) n)
    exact .after read fun _ => (ih stops).bind
  | alternatives read body _ ih =>
    refine .of_succ (stops_congr ?_ fun n =>
      run_statementWithin_branch (kind_of_passes_branchHead read) n)
    refine .after read fun _ => ?_
    exact .afterWithin (fun _ _ le => (statements le).2.2.1.extends) body fun _ => (ih stops).bind
  | first inside _ ih =>
    refine .of_succ (stops_congr ?_ fun n => run_statementsWithin inside n)
    exact (ih stops).bind
  | following inside read _ ih =>
    refine .of_succ (stops_congr ?_ fun n => run_statementsWithin inside n)
    exact .afterWithin (fun _ _ le => (statements le).1.extends) read fun _ => (ih stops).bind
  | block entered _ ih =>
    refine .of_succ (stops_congr ?_ fun n => run_blockWithin _ n)
    exact .after entered fun _ => (ih stops).bind
  | alternative read _ ih =>
    refine .of_succ (stops_congr ?_ fun n =>
      run_alternativesWithin (kind_of_passes_alternativeHead read) n)
    exact .after read fun _ => (ih stops).bind
  | further read body _ ih =>
    refine .of_succ (stops_congr ?_ fun n =>
      run_alternativesWithin (kind_of_passes_alternativeHead read) n)
    refine .after read fun _ => ?_
    exact .afterWithin (fun _ _ le => (statements le).2.2.1.extends) body fun _ => (ih stops).bind

/-- What is unending where a statement is begun makes everything around it unending. -/
theorem unending_of_visits {r' : Reader} (way : Visits α part r r')
    (unending : Part.statement.Unending α r') : part.Unending α r := by
  have stops := stops_of_visits way ⟨0, fun n _ => unending n⟩
  cases part with
  | statement => exact stops.unending fun _ _ le => (statements le).1.extends
  | statements => exact stops.unending fun _ _ le => (statements le).2.1.extends
  | block => exact stops.unending fun _ _ le => (statements le).2.2.1.extends
  | alternatives => exact stops.unending fun _ _ le => (statements le).2.2.2.extends

end DeviceScript.Script.Reading
