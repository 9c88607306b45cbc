import DeviceScript.Proofs.Script.Stalling
import DeviceScript.Script.Program

/-!
# Reading ends or stalls

A list that stalls is the only way in which reading a text does not end. Everything else takes a
token at each step, so a bound that grows with the number of tokens is enough for it
(`comes_statements`); together with what stalls being endless, this settles for every place of a
text whether reading a statement from there ends (`settles_iff`), and for every text whether it is
read to its end or to a failure (`fault_ofReader_eq_endless_iff`).
-/

namespace DeviceScript.Script

open Program Nat Script.Tree

namespace Reading

variable {α β : Type}

/-! ## Lists -/

section Endless

variable {reading : Reading β} {r : Reader} {least : Nat} {gives : β → Prop}
variable {stuck : ReadFault → Prop}

/-- A reading that is endless gives nothing. -/
theorem Endless.comes (endless : Endless reading r) (holds : stuck .endless) :
    Comes reading r least gives stuck := by
  refine ⟨fun v r' given => ?_, fun fault r' failed => ?_⟩
  · rw [Endless, given] at endless
    cases endless
  · rw [Endless, failed] at endless
    cases endless
    exact .inr holds

/-- A reading is only endless where it is stuck. -/
theorem Comes.of_endless (comes : Comes reading r least gives stuck)
    (endless : Endless reading r) : stuck .endless := by
  rcases run : reading.run.run r with ⟨o, r'⟩
  rw [Endless, run] at endless
  cases endless
  exact (comes.2 _ r' run).resolve_left id

/-- Reading is only stuck by being endless. -/
def Endlessly (stuck : Prop) : ReadFault → Prop
  | .endless => stuck
  | .failure _ => False

theorem Endlessly.imp {stalls stalls' : Prop} (implies : stalls → stalls') :
    ∀ fault, Endlessly stalls fault → Endlessly stalls' fault
  | .endless => implies
  | .failure _ => id

end Endless

/-- A list ends within its bound, unless it stalls. -/
theorem comes_lists (n : Nat) :
    (∀ r, 2 * r.left + 2 ≤ n →
      Comes (itemsWithin (α := α) n) r 0 (fun xs => ∀ item ∈ xs, IsEntry item)
        (Endlessly (ItemsStall α r))) ∧
    (∀ r, 2 * r.left + 1 ≤ n →
      Comes (listWithin (α := α) n) r 1 (fun xs => ∀ item ∈ xs, IsEntry item)
        (Endlessly (ListStalls α r))) := by
  induction n with
  | zero =>
    constructor <;>
    · intro _ enough
      exact absurd enough (not_succ_le_zero _)
  | succ n ih =>
    obtain ⟨xs, list⟩ := ih
    constructor
    · intro r enough
      by_cases continues : continuesList r.kind = false
      · exact (endless_itemsWithin_of_stuck continues _).comes ⟨r, .here r, continues⟩
      refine .look ?_
      split
      · exact .pure (by simp)
      · have stalls : ListStalls α r → ItemsStall α r := by
          rintro ⟨r', entered, r'', way, stuck⟩
          exact ⟨r'', .inner entered way, stuck⟩
        have inner := (list r (by omega)).mono (le_refl 1) (Endlessly.imp stalls)
        refine inner.bind fun v r' read fewer inValue => ?_
        refine .map ((xs r' (by omega)).mono (zero_le _) ?_) fun _ inRest =>
          List.forall_mem_cons.mpr ⟨.list inValue, inRest⟩
        exact .imp (.extend fun _ => .list ⟨n, v, read⟩)
      · refine (comes_expect .comma).bind fun v r' read fewer _ => ?_
        refine (xs r' (by omega)).mono (zero_le _) ?_
        exact .imp (.extend fun _ => .comma ⟨v, read⟩)
      · rename_i notClosed separate noComma
        have begins : beginsOperand r.kind = true ∨ isOperator r.kind = true := by
          refine Classical.byContradiction fun none => continues ?_
          rw [not_or, Bool.not_eq_true, Bool.not_eq_true] at none
          exact (continuesList_eq_false_iff _).mpr ⟨notClosed, noComma, none⟩
        refine (comes_expression_of_begins begins).bind fun v r' read fewer isValue => ?_
        refine .map ((xs r' (by omega)).mono (zero_le _) ?_) fun _ inRest =>
          List.forall_mem_cons.mpr ⟨.formula isValue.isFormula, inRest⟩
        exact .imp (.extend fun _ => .value begins separate ⟨v, read⟩)
    · intro r enough
      refine .enclosed (by decide) (by decide) fun r' entered fewer => ?_
      refine (xs r' (by omega)).mono (zero_le _) (.imp fun stalls => ?_)
      exact ⟨r', ⟨_, entered⟩, stalls⟩

/-! ## Statements -/

theorem comes_list (r : Reader) :
    Comes (list (α := α)) r 1 (fun xs => ∀ item ∈ xs, IsEntry item)
      (Endlessly (ListStalls α r)) :=
  .inspect ((comes_lists _).2 r (by rw [stepBound_eq]; omega))

section Heads

variable {r : Reader} {stuck : ReadFault → Prop}

theorem comes_branchHead : Comes (branchHead (α := α)) r 1 IsFormula stuck :=
  (comes_expect .condition).bind fun _ _ _ _ _ =>
    Comes.some (.enclosed (by decide) (by decide) fun r' _ _ => comes_condition r')

theorem comes_alternativeHead : Comes (alternativeHead (α := α)) r 1
    (fun head => ∀ condition ∈ head, IsFormula condition) stuck := by
  refine (comes_expect .otherwise).bind fun _ r' _ _ _ => .look ?_
  by_cases branch : r'.kind = .condition
  · rw [if_pos branch]
    exact (Comes.some comes_branchHead).map fun head isHead => by simpa using isHead
  · rw [if_neg branch]
    exact .pure (by simp)

/-- With a body of statements, the form is a statement. -/
def Frames (form : List (Tree α) → Tree α) : Prop :=
  ∀ body, (∀ t ∈ body, IsProduced t) → IsProduced (form body)

theorem comes_bodyHead {head : Reading (List (Tree α) → Tree α)}
    (found : bodyHead? r.kind = some head) : Comes head r 1 Frames stuck := by
  unfold bodyHead? at found
  split at found <;> cases found
  · refine (comes_expect .repeatTimes).bind fun _ r' _ _ _ => ?_
    exact (comes_formula r').map fun _ isCount _ inBody => .loop isCount inBody
  · refine (comes_expect .repeatWhile).bind fun _ r' _ _ _ => ?_
    exact (comes_formula r').map fun _ isHead _ inBody => .whileLoop isHead inBody
  · refine (comes_expect .function).bind fun _ first _ _ _ => ?_
    refine (Comes.some comes_identifier).bind fun name r'' _ _ _ => .look ?_
    split
    · rename_i bracket
      refine (comes_advance (by rw [bracket]; decide)).some.bind fun _ third _ _ _ => ?_
      exact (comes_arguments third).map fun _ inParameters _ inBody =>
        .function name inBody inParameters
    · exact .pure fun _ inBody => .function name inBody (by simp)
  · refine (comes_expect .each).bind fun _ first _ _ _ => ?_
    refine (comes_expect .openBracket).some.bind fun _ r'' _ _ _ => ?_
    refine (Comes.some comes_identifier).bind fun item third _ _ _ => ?_
    refine (comes_expect .comma).some.bind fun _ fourth _ _ _ => ?_
    refine (comes_formula fourth).bind fun _ _ _ _ isItems => ?_
    exact (comes_expect .closeBracket).some.map fun _ _ _ inBody => .each item isItems inBody

end Heads

theorem comes_title (r : Reader) :
    Comes (title (α := α)) r 1 IsProduced (StuckAt α r) := by
  refine (comes_expect .title).bind fun _ r' entered _ _ => ?_
  refine (comes_operand r').bind fun v r'' read _ _ => ?_
  cases noLeaf : v.leafText? with
  | some _ =>
    refine ⟨?_, by rintro _ _ ⟨⟩⟩
    rintro _ _ ⟨⟩
    exact ⟨Nat.le_refl _, .title _⟩
  | none =>
    refine ⟨by rintro _ _ ⟨⟩, ?_⟩
    rintro _ _ ⟨⟩
    exact .inr ⟨r', r'', v, ⟨_, entered⟩, read, noLeaf⟩

theorem comes_assignment (r : Reader) {stuck : ReadFault → Prop} :
    Comes (assignment (α := α)) r 1 IsProduced stuck := by
  refine (comes_expect .assignment).bind fun _ first _ _ _ => ?_
  refine (Comes.some comes_identifier).bind fun name r' _ _ _ => ?_
  refine (comes_expect .equals).some.bind fun _ third _ _ _ => ?_
  exact (comes_formula third).map fun _ isValue => .assign name isValue

theorem comes_gathering (r : Reader) :
    Comes (gathering (α := α)) r 1 IsProduced (StuckAt α r) := by
  refine (comes_expect .gather).bind fun _ first gather _ _ => ?_
  refine (Comes.some comes_identifier).bind fun name r' named _ _ => ?_
  refine (comes_expect .equals).some.bind fun _ third equals _ _ => .look ?_
  split
  · have head : Passes gatherHead r third := by
      refine ⟨name, ?_⟩
      rw [gatherHead, run_bind, gather]
      dsimp only
      rw [run_bind, named]
      dsimp only
      rw [run_bind, equals]
      rfl
    refine .map ((comes_list third).mono (zero_le _) ?_) fun _ inItems => .gatherList name inItems
    rintro (_ | _) stalls
    · exact stalls.elim
    · exact ⟨third, head, stalls⟩
  · refine (comes_expect .call).some.bind fun _ fourth _ _ _ => (comes_callee fourth).some.map ?_
    rintro _ ⟨callee, _, rfl, inArguments⟩
    exact .gatherCall name callee inArguments
  · exact (comes_formula third).map fun _ isValue => .gatherValue name isValue
  · exact .pure .missing

/-- A statement without a body is only stuck at itself. -/
theorem comes_plain {r : Reader} (noBody : bodyHead? (α := α) r.kind = none)
    (noBranch : r.kind ≠ .condition) (n : Nat) :
    Comes (statementWithin (α := α) (n + 1)) r 1 IsProduced (StuckAt α r) := by
  refine .look ?_
  generalize same : r.kind = k at noBody noBranch
  split
  case h_1 => exact comes_title r
  case h_2 => exact comes_assignment r
  case h_3 => exact comes_gathering r
  case h_4 => exact absurd rfl noBranch
  case h_5 =>
    exact (comes_expect .print).bind fun _ r' _ _ _ =>
      (comes_inBrackets r').some.map fun _ isValue => .print isValue
  case h_6 | h_7 | h_10 | h_12 => cases noBody
  case h_8 => exact (comes_expect .leave).map fun _ _ => .leave
  case h_9 =>
    exact (comes_expect .sleep).bind fun _ r' _ _ _ =>
      (comes_inBrackets r').some.map fun _ isDuration => .sleep isDuration
  case h_11 =>
    refine (comes_expect .call).bind fun _ r' _ _ _ => (comes_callee r').some.imp ?_
    rintro _ ⟨name, _, rfl, inArguments⟩
    exact .call name inArguments
  case h_13 => exact (comes_expect .skip).map fun _ _ => .skip
  case h_14 => exact .fault _

/-- The branches after the first one, and what runs if none of them is taken, have the shapes of
statements. -/
def AreAlternatives (parts : List (Tree α × List (Tree α)) × List (Tree α)) : Prop :=
  (∀ alt ∈ parts.1, IsFormula alt.1) ∧
  (∀ alt ∈ parts.1, ∀ t ∈ alt.2, IsProduced t) ∧
  ∀ t ∈ parts.2, IsProduced t

theorem AreAlternatives.join {head : Option (Tree α)} {body : List (Tree α)}
    {following : List (Tree α × List (Tree α)) × List (Tree α)}
    (isHead : ∀ condition ∈ head, IsFormula condition) (inBody : ∀ t ∈ body, IsProduced t)
    (inRest : AreAlternatives following) :
    AreAlternatives (joinAlternative head body following) := by
  obtain ⟨heads, inBodies, inOtherwise⟩ := inRest
  cases head with
  | some head =>
    exact ⟨List.forall_mem_cons.mpr ⟨isHead head rfl, heads⟩,
      List.forall_mem_cons.mpr ⟨inBody, inBodies⟩, inOtherwise⟩
  | none => exact ⟨heads, inBodies, List.forall_mem_append.mpr ⟨inBody, inOtherwise⟩⟩

/-- The bounds of the parts of a text are enough for what does not get stuck. -/
theorem comes_statements (n : Nat) :
    (∀ r, 3 * r.left + 1 ≤ n →
      Comes (statementWithin (α := α) n) r 1 IsProduced (PartStuck α .statement r)) ∧
    (∀ r, 3 * r.left + 2 ≤ n →
      Comes (statementsWithin (α := α) n) r 0 (fun body => ∀ t ∈ body, IsProduced t)
        (PartStuck α .statements r)) ∧
    (∀ r, 3 * r.left + 1 ≤ n →
      Comes (blockWithin (α := α) n) r 1 (fun body => ∀ t ∈ body, IsProduced t)
        (PartStuck α .block r)) ∧
    (∀ r, 3 * r.left + 1 ≤ n →
      Comes (alternativesWithin (α := α) n) r 0 AreAlternatives
        (PartStuck α .alternatives r)) := by
  induction n with
  | zero =>
    refine ⟨?_, ?_, ?_, ?_⟩ <;>
    · intro _ enough
      exact absurd enough (not_succ_le_zero _)
  | succ n ih =>
    obtain ⟨statement, statements, block, alts⟩ := ih
    -- A body and what follows it in the part that a way leads on from.
    have bodyOf {part : Part} {r r' : Reader} (enough : 3 * r'.left + 1 ≤ n)
        (ways : ∀ r'', Visits α .block r' r'' → Visits α part r r'') :=
      ((block r' enough).mono (zero_le 1) (PartStuck.extend ways))
    have moreOf {part : Part} {r r' : Reader} (enough : 3 * r'.left + 1 ≤ n)
        (ways : ∀ r'', Visits α .alternatives r' r'' → Visits α part r r'') :=
      ((alts r' enough).mono (zero_le 0) (PartStuck.extend ways))
    refine ⟨fun r enough => ?_, fun r enough => ?_, fun r enough => ?_, fun r enough => ?_⟩
    · rcases body : bodyHead? r.kind with _ | head
      · by_cases branch : r.kind = .condition
        · rw [Comes, run_statementWithin_branch branch]
          refine Comes.bind comes_branchHead fun head r' read fewer isHead => ?_
          refine (bodyOf (by omega) fun _ => .branch ⟨head, read⟩).bind
            fun v r''' passed _ inBody => ?_
          refine (moreOf (by omega) fun _ => .alternatives ⟨head, read⟩ ⟨n, v, passed⟩).map
            fun parts inParts => ?_
          exact .branch isHead inBody inParts.1 inParts.2.1 inParts.2.2
        · exact (comes_plain body branch n).mono (le_refl _) fun _ stands =>
            ⟨r, .here r, stands⟩
      · rw [Comes, run_statementWithin_body body]
        refine (comes_bodyHead body).bind fun form r' read fewer frames => ?_
        exact (bodyOf (by omega) fun _ => .body body ⟨form, read⟩).map frames
    · by_cases ends : (r.kind = .closeBrace || r.kind = .endOfText) = true
      · refine .look ?_
        rw [if_pos ends]
        exact .pure (by simp)
      · have inside : r.kind ≠ .closeBrace ∧ r.kind ≠ .endOfText := by simpa using ends
        rw [Comes, run_statementsWithin inside]
        have first := (statement r (by omega)).mono (le_refl _)
          (PartStuck.extend fun _ => Visits.first inside)
        refine first.bind fun v r' read fewer isFirst => ?_
        refine .map ((statements r' (by omega)).mono (zero_le _) ?_) fun _ inRest =>
          List.forall_mem_cons.mpr ⟨isFirst, inRest⟩
        exact .extend fun _ => .following inside ⟨n, v, read⟩
    · refine .enclosed (by decide) (by decide) fun r' entered fewer => ?_
      refine (statements r' (by omega)).mono (le_refl _) ?_
      exact .extend fun _ => .block ⟨_, entered⟩
    · by_cases more : r.kind = .otherwise
      · rw [Comes, run_alternativesWithin more]
        refine Comes.bind comes_alternativeHead fun head r' read fewer isHead => ?_
        refine (bodyOf (by omega) fun _ => .alternative ⟨head, read⟩).bind
          fun v r''' passed _ inBody => ?_
        exact (moreOf (by omega) fun _ => .further ⟨head, read⟩ ⟨n, v, passed⟩).map
          fun _ => .join isHead inBody
      · refine .look ?_
        rw [if_neg more]
        exact .pure ⟨by simp, by simp, by simp⟩

/-- The tree is what some tokens are read as, when a statement is read. -/
def IsRead (t : Tree α) : Prop :=
  ∃ steps r r', (statementWithin steps).run.run r = (.ok t, r')

/-- **Statements are read as one of the shapes.** -/
theorem isProduced_of_isRead {t : Tree α} (read : IsRead t) : IsProduced t := by
  obtain ⟨n, r, r', given⟩ := read
  -- Within a bound that is enough, the same is read.
  have enough := Nat.le_max_left n (3 * r.left + 1)
  have longer := (Composed.statements enough).1.extends r (by rw [given]; rintro ⟨⟩)
  exact ((comes_statements _).1 r (Nat.le_max_right ..)).given (longer.trans given)

/-! ## Bounds do not matter -/

/-- Reading ends within the bound, and in the same way within every larger one. -/
def Settles (within : Nat → Reading β) (bound : Nat) (r : Reader) : Prop :=
  ¬ Endless (within bound) r ∧
    ∀ steps, bound ≤ steps → (within steps).run.run r = (within bound).run.run r

section Settling

variable {within : Nat → Reading β} {bound least : Nat} {r : Reader}
variable {gives : β → Prop} {stuck : ReadFault → Prop}

theorem settles_of_comes (longer : Lengthens within)
    (comes : Comes (within bound) r least gives fun _ => False) : Settles within bound r :=
  ⟨comes.of_endless, fun _ le => longer le r comes.of_endless⟩

/-- A reading that is endless exactly where it is stuck settles everywhere else. -/
theorem settles_iff (longer : Lengthens within) (comes : Comes (within bound) r least gives stuck)
    (unending : stuck .endless → ∀ n, Endless (within n) r) :
    (Settles within bound r ↔ ¬ stuck .endless) ∧
      ((∀ n, Endless (within n) r) ↔ stuck .endless) := by
  refine ⟨⟨fun settles holds => settles.1 (unending holds bound), fun free => ?_⟩,
    fun endless => comes.of_endless (endless bound), unending⟩
  have ends : ¬ Endless (within bound) r := fun endless => free (comes.of_endless endless)
  exact ⟨ends, fun n le => longer le r ends⟩

end Settling

theorem settles_operandWithin (r : Reader) :
    Settles (operandWithin (α := α)) (stepBound r.source) r :=
  settles_of_comes (fun _ _ le => (Composed.expressions le).1.extends)
    ((comes_expressions _).1 r (by rw [stepBound_eq]; omega))

theorem settles_expressionWithin (r : Reader) :
    Settles (expressionWithin (α := α)) (stepBound r.source) r :=
  settles_of_comes (fun _ _ le => (Composed.expressions le).2.2.extends)
    ((comes_expressions _).2.2 r (by rw [stepBound_eq]; omega))

theorem settles_argumentsWithin (r : Reader) :
    Settles (argumentsWithin (α := α)) (stepBound r.source) r :=
  settles_of_comes (fun _ _ le => (Composed.argumentsWithin le).extends)
    (comes_argumentsWithin _ r (by rw [stepBound_eq]; omega))

theorem settles_listWithin_iff (r : Reader) :
    (Settles (listWithin (α := α)) (stepBound r.source) r ↔ ¬ ListStalls α r) ∧
      ((∀ n, Endless (listWithin (α := α) n) r) ↔ ListStalls α r) :=
  settles_iff (fun _ _ le => (Composed.lists le).2.extends)
    ((comes_lists _).2 r (by rw [stepBound_eq]; omega)) endless_listWithin

theorem unending_of_stalls {part : Part} {r : Reader} (stalls : PartStalls α part r) :
    part.Unending α r := by
  obtain ⟨_, _, way, head, list⟩ := stalls
  exact unending_of_visits way (unending_gathering head list)

theorem settles_statementWithin_iff (r : Reader) :
    (Settles (statementWithin (α := α)) (3 * r.left + 3) r ↔ ¬ PartStalls α .statement r) ∧
    ((∀ n, Endless (statementWithin (α := α) n) r) ↔ PartStalls α .statement r) := by
  rw [← partStuck_endless_iff]
  exact settles_iff (fun _ _ le => (Composed.statements le).1.extends)
    ((comes_statements _).1 r (by omega)) fun stuck =>
      unending_of_stalls (partStuck_endless_iff.1 stuck)

theorem run_statement (r : Reader) :
    (statement (α := α)).run.run r = (statementWithin (3 * r.left + 3)).run.run r := by
  rw [statement, run_inspect, Reader.left]

theorem comes_statement (r : Reader) :
    Comes (statement (α := α)) r 1 IsProduced (PartStuck α .statement r) := by
  rw [Comes, run_statement]
  exact (comes_statements _).1 r (by omega)

theorem endless_statement_iff (r : Reader) :
    Endless (statement (α := α)) r ↔ PartStalls α .statement r := by
  rw [← partStuck_endless_iff]
  refine ⟨(comes_statement r).of_endless, fun stuck => ?_⟩
  rw [Endless, run_statement]
  exact unending_of_stalls (partStuck_endless_iff.1 stuck) _

/-! ## Statements that are begun -/

/-- What is counted from where the reading leaves the reader, if it gives something. -/
def beyond (reading : Reading β) (r : Reader) (count : Reader → Nat) : Nat :=
  match reading.run.run r with
  | (.ok _, r') => count r'
  | (.error _, _) => 0

/-- The number of statements that are begun when the part is read, with those inside of others. -/
def Part.begun (α : Type) : Part → Nat → Reader → Nat
  | _, 0, _ => 0
  | .statement, n + 1, r => 1 +
    match bodyHead? (α := α) r.kind with
    | some head => beyond head r (begun α .block n)
    | none => beyond (branchHead (α := α)) r fun r' =>
      begun α .block n r' + beyond (blockWithin (α := α) n) r' (begun α .alternatives n)
  | .statements, n + 1, r =>
    if r.kind = .closeBrace || r.kind = .endOfText then 0
    else begun α .statement n r + beyond (statementWithin (α := α) n) r (begun α .statements n)
  | .block, n + 1, r => beyond (expect .openBrace) r (begun α .statements n)
  | .alternatives, n + 1, r => beyond (alternativeHead (α := α)) r fun r' =>
    begun α .block n r' + beyond (blockWithin (α := α) n) r' (begun α .alternatives n)

/-- The tokens pay for the number: there are so many, and so many are taken if the reading gives
something. -/
def Affords (reading : Reading β) (r : Reader) (k : Nat) : Prop :=
  k ≤ r.left ∧ ∀ v r', reading.run.run r = (.ok v, r') → k + r'.left ≤ r.left

section Affording

variable {γ : Type} {reading : Reading β} {next : β → Reading γ} {r : Reader} {k : Nat}
variable {count : Reader → Nat} {gives : β → Prop}

theorem beyond_eq_zero (fails : ∀ r', ¬ Passes reading r r') : beyond reading r count = 0 := by
  rw [beyond]
  rcases read : reading.run.run r with ⟨_ | v, r'⟩
  · rfl
  · exact absurd ⟨v, read⟩ (fails r')

theorem Comes.affords (comes : Comes reading r k gives fun _ => True) (enough : k ≤ r.left) :
    Affords reading r k := by
  refine ⟨enough, fun v r' read => ?_⟩
  have fewer := comes.fewer read
  omega

namespace Affords

theorem nothing {v : β} (same : reading.run.run r = (.ok v, r)) : Affords reading r 0 := by
  refine ⟨zero_le _, fun _ _ read => ?_⟩
  rw [same] at read
  cases read
  omega

theorem beyond_le (first : Affords reading r k)
    (rest : ∀ v r', reading.run.run r = (.ok v, r') → count r' ≤ r'.left) :
    k + beyond reading r count ≤ r.left := by
  rw [beyond]
  rcases read : reading.run.run r with ⟨_ | v, r'⟩
  · exact first.1
  · have fewer := first.2 v r' read
    have enough := rest v r' read
    dsimp only
    omega

/-- What is begun in the second of two readings is paid for by what the first one leaves. -/
theorem bind (first : Affords reading r k)
    (second : ∀ v r', reading.run.run r = (.ok v, r') → Affords (next v) r' (count r')) :
    Affords (reading >>= next) r (k + beyond reading r count) := by
  refine ⟨first.beyond_le fun v r' read => (second v r' read).1, fun res r'' => ?_⟩
  rw [run_bind, beyond]
  rcases read : reading.run.run r with ⟨_ | v, r'⟩
  · rintro ⟨⟩
  · intro given
    have fewer := first.2 v r' read
    have rest := (second v r' read).2 res r'' given
    dsimp only
    omega

/-- Nothing is begun behind the reading. -/
theorem last (first : Affords reading r k)
    (second : ∀ v r', Comes (next v) r' 0 (fun _ => True) fun _ => True) :
    Affords (reading >>= next) r k := by
  have none : beyond reading r (fun _ => 0) = 0 := by
    rw [beyond]
    split <;> rfl
  rw [← Nat.add_zero k, ← none]
  exact first.bind fun v r' _ => (second v r').affords (zero_le _)

end Affords

end Affording

/-- **Every statement that is begun has a token of its own.** -/
theorem affords_begun (n : Nat) :
    (∀ r, r.kind ≠ .endOfText →
      Affords (statementWithin (α := α) n) r (Part.begun α .statement n r)) ∧
    (∀ r, Affords (statementsWithin (α := α) n) r (Part.begun α .statements n r)) ∧
    (∀ r, Affords (blockWithin (α := α) n) r (Part.begun α .block n r)) ∧
    (∀ r, Affords (alternativesWithin (α := α) n) r (Part.begun α .alternatives n r)) := by
  induction n with
  | zero =>
    refine ⟨?_, ?_, ?_, ?_⟩ <;>
    · intros
      exact ⟨zero_le _, by rintro _ _ ⟨⟩⟩
  | succ n ih =>
    obtain ⟨statement, statements, block, alts⟩ := ih
    refine ⟨fun r inside => ?_, fun r => ?_, fun r => ?_, fun r => ?_⟩
    · have pos := Reader.left_pos inside
      rw [Part.begun]
      rcases body : bodyHead? (α := α) r.kind with _ | head
      · by_cases branch : r.kind = .condition
        · rw [Affords, run_statementWithin_branch branch]
          refine (comes_branchHead.affords pos).bind fun head r' _ => ?_
          exact (block r').bind fun _ r'' _ => (alts r'').last fun _ _ => .pure trivial
        · dsimp only
          rw [beyond_eq_zero fun _ passes => branch (kind_of_passes_branchHead passes)]
          exact ((comes_plain body branch n).mono (le_refl _) fun _ _ => trivial).affords pos
      · rw [Affords, run_statementWithin_body body]
        refine ((comes_bodyHead body).affords pos).bind fun form r' _ => ?_
        exact (block r').last fun _ _ => .pure trivial
    · rw [Part.begun]
      split
      · rename_i ends
        exact .nothing (by rw [statementsWithin, run_look, if_pos ends]; rfl)
      · rename_i ends
        have inside : r.kind ≠ .closeBrace ∧ r.kind ≠ .endOfText := by simpa using ends
        rw [Affords, run_statementsWithin inside]
        exact (statement r inside.2).bind fun _ r' _ =>
          (statements r').last fun _ _ => .pure trivial
    · rw [Part.begun, ← Nat.zero_add (beyond _ _ _), Affords, run_blockWithin]
      refine ((comes_expect .openBrace).some.affords (zero_le _)).bind fun _ r' _ => ?_
      exact (statements r').last fun _ _ => (comes_expect .closeBrace).some.map fun _ => id
    · rw [Part.begun]
      by_cases more : r.kind = .otherwise
      · rw [← Nat.zero_add (beyond _ _ _), Affords, run_alternativesWithin more]
        refine (comes_alternativeHead.some.affords (zero_le _)).bind fun head r' _ => ?_
        exact (block r').bind fun _ r'' _ => (alts r'').last fun _ _ => .pure trivial
      · rw [beyond_eq_zero fun _ passes => more (kind_of_passes_alternativeHead passes)]
        exact .nothing (by rw [alternativesWithin, run_look, if_neg more]; rfl)

end Reading

/-! ## Whole texts -/

open Reading

section Texts

variable (α : Type)

/-- Reading a text statement by statement comes to begin a statement at the second reader. -/
inductive Arrives : Reader → Reader → Prop
  | here {r : Reader} (inside : r.atEnd = false) : Arrives r r
  | following {r r' r'' : Reader} (inside : r.atEnd = false)
      (read : Passes (statement (α := α)) r r') (way : Arrives r' r'') :
      Arrives r r''

end Texts

variable {α : Type}

/-- A text stops with a fault exactly if a statement is begun in it that fails with it. -/
theorem fault_ofReader_eq_some_iff (fault : ReadFault) (n : Nat) :
    ∀ r, r.left < n →
      ((ofReader (α := α) n r).fault = some fault ↔
        ∃ r', Arrives α r r' ∧ Fails (statement (α := α)) r' fault) := by
  induction n with
  | zero => exact fun _ enough => absurd enough (not_lt_zero _)
  | succ _ ih =>
    intro r enough
    rw [ofReader]
    cases atEnd : r.atEnd with
    | true =>
      refine ⟨by rintro ⟨⟩, ?_⟩
      rintro ⟨r', inside | ⟨inside, _, _⟩, _⟩
      all_goals
        rw [atEnd] at inside
        cases inside
    | false =>
      rw [if_neg Bool.false_ne_true]
      rcases read : (statement).run.run r with ⟨_ | v, r''⟩
      · rw [Option.some.injEq]
        constructor
        · rintro rfl
          exact ⟨r, .here atEnd, by rw [Fails, read]⟩
        · rintro ⟨r', _ | ⟨_, passes, _⟩, fails⟩
          · rw [Fails, read] at fails
            cases fails
            rfl
          · obtain ⟨_, passes⟩ := passes
            rw [read] at passes
            cases passes
      · have fewer := (comes_statement r).fewer read
        have rest := ih r'' (by omega)
        dsimp only [cons]
        rw [rest]
        constructor
        · rintro ⟨r', way, fails⟩
          exact ⟨r', .following atEnd ⟨v, read⟩ way, fails⟩
        · rintro ⟨r', _ | ⟨_, passes, way⟩, fails⟩
          · rw [Fails, read] at fails
            cases fails
          · obtain ⟨_, passes⟩ := passes
            rw [read] at passes
            cases passes
            exact ⟨r', way, fails⟩

/-- A text is endless exactly if a statement is begun in it that stalls. -/
theorem fault_ofReader_eq_endless_iff (n : Nat) (r : Reader)
    (enough : r.left < n) :
    (ofReader (α := α) n r).fault = some .endless ↔
      ∃ r', Arrives α r r' ∧ PartStalls α .statement r' := by
  simp only [fault_ofReader_eq_some_iff _ _ r enough, ← endless_statement_iff]
  rfl

/-- The number of statements that are begun when a text is read, with those inside of others. -/
def begun (α : Type) : Nat → Reader → Nat
  | 0, _ => 0
  | n + 1, r =>
    if r.atEnd then 0
    else Part.begun α .statement (3 * r.left + 3) r +
      beyond (statement (α := α)) r (begun α n)

theorem begun_le (n : Nat) : ∀ r, begun α n r ≤ r.left := by
  induction n with
  | zero => exact fun _ => zero_le _
  | succ n ih =>
    intro r
    rw [begun]
    split
    · exact zero_le _
    · rename_i inside
      have inside : r.kind ≠ .endOfText := fun ends => inside (decide_eq_true ends)
      have first := (affords_begun (α := α) (3 * r.left + 3)).1 r inside
      rw [Affords, ← run_statement] at first
      exact Affords.beyond_le first fun _ r' _ => ih r'

/-- **Reading ends unless a list stalls.** From every place of a text, operands, expressions and
arguments are read to an end; so is a list, and so is a statement, within a bound and in the same
way within every larger one, exactly unless a list in it stalls; if one does, reading is endless
whatever the bound. A statement that is read takes a token. A text is endless exactly if a
statement is begun in it that stalls, and not more statements are begun, with those inside of
others, than there are tokens. -/
theorem reading_ends_iff_not_stalls :
    (∀ reader : Reader,
      Settles (operandWithin (α := α)) (stepBound reader.source) reader ∧
      Settles (expressionWithin (α := α)) (stepBound reader.source) reader ∧
      Settles (argumentsWithin (α := α)) (stepBound reader.source) reader ∧
      (Settles (listWithin (α := α)) (stepBound reader.source) reader ↔ ¬ ListStalls α reader) ∧
      ((∀ steps, Endless (listWithin (α := α) steps) reader) ↔ ListStalls α reader) ∧
      (Settles (statementWithin (α := α)) (3 * reader.left + 3) reader ↔
        ¬ PartStalls α .statement reader) ∧
      ((∀ steps, Endless (statementWithin (α := α) steps) reader) ↔
        PartStalls α .statement reader) ∧
      ∀ value later, (statement (α := α)).run.run reader = (.ok value, later) →
        later.left < reader.left) ∧
    ∀ text : String,
      ((ofText (α := α) text).fault = some .endless ↔
        ∃ reader place, Reader.ofText text = .ok reader ∧ Arrives α reader place ∧
          PartStalls α .statement place) ∧
      ∀ reader, Reader.ofText text = .ok reader →
        begun α (reader.left + 1) reader ≤ reader.left := by
  refine ⟨fun reader => ?_, fun text => ?_⟩
  · obtain ⟨list, endlessList⟩ := settles_listWithin_iff (α := α) reader
    obtain ⟨statement, endlessStatement⟩ := settles_statementWithin_iff (α := α) reader
    exact ⟨settles_operandWithin reader, settles_expressionWithin reader,
      settles_argumentsWithin reader, list, endlessList, statement, endlessStatement,
      fun _ _ read => (comes_statement reader).fewer read⟩
  · rw [ofText]
    rcases begun : Reader.ofText text with failure | reader
    · refine ⟨⟨nofun, ?_⟩, nofun⟩
      rintro ⟨_, _, same, _⟩
      cases same
    · refine ⟨(fault_ofReader_eq_endless_iff _ reader (lt_succ_self _)).trans ?_, ?_⟩
      · constructor
        · rintro ⟨place, way, stalls⟩
          exact ⟨reader, place, rfl, way, stalls⟩
        · rintro ⟨_, place, same, way, stalls⟩
          cases same
          exact ⟨place, way, stalls⟩
      · rintro _ ⟨⟩
        exact begun_le _ reader

example : (ofText (α := Unit) "loop 2 { dyn a = (1, if) }").fault = some .endless := by
  decide +kernel

end DeviceScript.Script
