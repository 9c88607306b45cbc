import DeviceScript.Execution.Script
import DeviceScript.Proofs.Execution.Perform
import DeviceScript.Proofs.Script.Taken

/-!
# Reading first and running afterwards

A script is read and run statement by statement, and reading is always one token ahead of what is
run. That makes no difference: a run is the visits of the statements that the text is read as, one
after another until one does not end normally, and only if all of them do is the fault that ended
reading the end of the run (`run_eq_play`).

The statements are kept with the title that the script has given itself by then (`Transcript`),
because the state of a running script knows it. `Passage` is reading some statements from one place
of a text to another. A text in which the same tokens stand in front of a token of the same kind has
the same passage (`Passage.again`), so what comes behind that token has no influence on what these
statements do.
-/

namespace DeviceScript.Execution

open Script Script.Reading

variable {r later : Reader} {t : Tree Value}

/-- A statement with the title that the script has once it is read. -/
abbrev Entry := Tree Value × String

/-- What a text is read as: statements, and the fault that ended reading, if there was one. -/
structure Transcript where
  entries : List Entry
  fault : Option ReadFault

namespace Transcript

/-- Puts a statement in front. -/
def cons (entry : Entry) (transcript : Transcript) : Transcript :=
  { transcript with entries := entry :: transcript.entries }

/-- Reads statements up to the end of the text, but at most the given number. -/
def ofReader : Nat → Reader → Transcript
  | 0, _ => ⟨[], some .endless⟩
  | n + 1, r =>
    if r.atEnd then ⟨[], none⟩
    else
      match (statement (α := Value)).run.run r with
      | (.error fault, _) => ⟨[], some fault⟩
      | (.ok t, r') => cons (t, r'.title) (ofReader n r')

/-- The statements without the titles. -/
def program (t : Transcript) : Program Value :=
  ⟨t.entries.map Prod.fst, t.fault⟩

/-- The statements are those of the program that the text is read as. -/
theorem program_ofReader (n : Nat) : ∀ r, (ofReader n r).program = Program.ofReader n r := by
  induction n with
  | zero => exact fun _ => rfl
  | succ _ ih =>
    intro r
    rw [ofReader, Program.ofReader]
    split
    · rfl
    · rcases (statement (α := Value)).run.run r with ⟨_ | _, r'⟩
      · rfl
      · dsimp only
        rw [← ih r']
        rfl

end Transcript

/-! ## Visiting statements in turn -/

/-- Visits a statement under its title. -/
def visitEntry (host : Host) (bound : Bound) (e : Entry) : Exec Value := do
  modify fun m => { m with title := e.2 }
  visitStatement host bound e.1

/-- Visits statements in turn, as long as they end normally. -/
def visitInTurn (host : Host) (bound : Bound) : List Entry → Exec Unit
  | [] => return ()
  | e :: entries => do
    let _ ← visitEntry host bound e
    visitInTurn host bound entries

/-- How a run ends whose statement is interrupted: a break ends it without a failure. -/
def Interrupt.ending : Interrupt → Ending
  | .leave => .finished
  | .skip => .strayContinue
  | .failed e => .failed e
  | .exhausted => .exhausted

/-- How a run ends that has visited all statements. -/
def endingOf : Option ReadFault → Ending
  | none => .finished
  | some .endless => .endless
  | some (.failure e) => .failed e

/-- How a run ends, and what it leaves behind. -/
abbrev Outcome := Ending × Machine × World

/-- Visits statements in turn and goes on behind them, unless one of them is interrupted. -/
def visitThen (host : Host) (bound : Bound) (entries : List Entry)
    (onward : Machine → World → Outcome) (m : Machine) (w : World) : Outcome :=
  match (visitInTurn host bound entries).perform m w with
  | ((.ok _, m), w) => onward m w
  | ((.error i, m), w) => (i.ending, m, w)

/-- Visits the statements of a transcript; its fault is met behind all of them. -/
def Transcript.play (host : Host) (bound : Bound) (t : Transcript) (m : Machine)
    (w : World) : Outcome :=
  visitThen host bound t.entries
    (fun m w => (endingOf t.fault, m, w)) m w

/-- What a run leaves behind, apart from where reading stands. -/
def outcome (result : Ending × Session × World) : Outcome :=
  (result.1, result.2.1.machine, result.2.2)

/-- Reads and runs what is left of a text. -/
def runRest (host : Host) (bound : Bound) (r : Reader) (m : Machine) (w : World) :
    Outcome :=
  outcome (runStatements host bound (r.left + 1) ⟨r, m⟩ w)

section Sequence

variable (host : Host) (bound : Bound)

/-- The first statement is visited first. -/
theorem visitThen_cons (e : Entry) (es : List Entry) (onward : Machine → World → Outcome) :
    visitThen host bound (e :: es) onward =
      visitThen host bound [e] (visitThen host bound es onward) := by
  funext m w
  rw [visitThen, visitThen, visitInTurn, visitInTurn, Exec.perform_bind, Exec.perform_bind]
  rcases (visitEntry host bound e).perform m w with
    ⟨⟨i | v, m'⟩, w'⟩
  · rfl
  · rfl

/-! ## Runs -/

/-- One turn of a run: a statement is read and visited, and the run goes on behind it. -/
theorem outcome_runStatements_succ (n : Nat) (inside : r.atEnd = false)
    (read : (statement (α := Value)).run.run r = (.ok t, later)) (m : Machine)
    (w : World) :
    outcome (runStatements host bound (n + 1) ⟨r, m⟩ w) =
      visitThen host bound [(t, later.title)]
        (fun m w => outcome (runStatements host bound n ⟨later, m⟩ w))
        m w := by
  rw [runStatements, if_neg (by simp [inside]), read]
  rw [visitThen, visitInTurn, visitEntry, Exec.perform_bind, Exec.perform_modify_bind]
  dsimp only
  rcases (visitStatement host bound t).perform { m with title := later.title } w with
    ⟨⟨i | v, m'⟩, w'⟩
  · cases i <;> rfl
  · rfl

theorem outcome_runStatements_atEnd (n : Nat) (atEnd : r.atEnd = true) (m : Machine)
    (w : World) : outcome (runStatements host bound (n + 1) ⟨r, m⟩ w) = (.finished, m, w) := by
  rw [runStatements, if_pos atEnd]
  rfl

theorem outcome_runStatements_fault (n : Nat) {cause : ReadFault}
    (inside : r.atEnd = false)
    (read : (statement (α := Value)).run.run r = (.error cause, later)) (m : Machine)
    (w : World) :
    outcome (runStatements host bound (n + 1) ⟨r, m⟩ w) = (endingOf (some cause), m, w) := by
  rw [runStatements, if_neg (by simp [inside]), read]
  cases cause <;> rfl

/-- Every statement takes a token, so a larger bound on their number changes nothing. -/
theorem outcome_runStatements_congr (n : Nat) : ∀ (other : Nat) (r : Reader),
    r.left < n → r.left < other → ∀ (m : Machine) (w : World),
      outcome (runStatements host bound n ⟨r, m⟩ w) =
        outcome (runStatements host bound other ⟨r, m⟩ w) := by
  induction n with
  | zero => exact fun _ _ enough => absurd enough (Nat.not_lt_zero _)
  | succ n ih =>
    rintro (_ | other) r enough enough' m w
    · exact absurd enough' (Nat.not_lt_zero _)
    · cases atEnd : r.atEnd with
      | true =>
        rw [outcome_runStatements_atEnd host bound n atEnd,
          outcome_runStatements_atEnd host bound other atEnd]
      | false =>
        rcases read : (statement (α := Value)).run.run r with ⟨_ | t, r'⟩
        · rw [outcome_runStatements_fault host bound n atEnd read,
            outcome_runStatements_fault host bound other atEnd read]
        · have fewer := (comes_statement r).fewer read
          have same : (fun m w =>
                outcome (runStatements host bound n ⟨r', m⟩ w)) =
              fun m w =>
                outcome (runStatements host bound other ⟨r', m⟩ w) := by
            funext m w
            exact ih other r' (by omega) (by omega) m w
          rw [outcome_runStatements_succ host bound n atEnd read,
            outcome_runStatements_succ host bound other atEnd read, same]

/-- One turn of what is left of a text. -/
theorem runRest_of_statement (inside : r.atEnd = false)
    (read : (statement (α := Value)).run.run r = (.ok t, later)) :
    runRest host bound r = visitThen host bound [(t, later.title)] (runRest host bound later) := by
  funext m w
  have fewer := (comes_statement r).fewer read
  rw [runRest, outcome_runStatements_succ host bound r.left inside read]
  refine congrArg (fun onward => visitThen host bound [(t, later.title)] onward m w) ?_
  funext m w
  exact outcome_runStatements_congr host bound _ _ later (by omega) (by omega) m w

end Sequence

/-! ## Passages -/

/-- Reading some statements from one place of a text to another. -/
inductive Passage : Reader → List Entry → Reader → Prop
  | here (r : Reader) : Passage r [] r
  | following {r r' r'' : Reader} {t : Tree Value} {entries : List Entry}
      (inside : r.atEnd = false)
      (read : (statement (α := Value)).run.run r = (.ok t, r'))
      (way : Passage r' entries r'') : Passage r ((t, r'.title) :: entries) r''

/-- What is left of a text begins with the statements of every passage. -/
theorem Passage.runRest_eq (host : Host) (bound : Bound) {r' : Reader} {es : List Entry}
    (passage : Passage r es r') :
    runRest host bound r = visitThen host bound es (runRest host bound r') := by
  induction passage with
  | here => rfl
  | following inside read _ ih =>
    rw [runRest_of_statement host bound inside read, ih, ← visitThen_cons]

/-- Every text is read by a passage of its statements, to its end or to its fault. -/
theorem exists_passage (host : Host) (bound : Bound) (n : Nat) : ∀ r,
    r.left < n →
      ∃ r', Passage r (Transcript.ofReader n r).entries r' ∧
        ∀ m w, runRest host bound r' m w = (endingOf (Transcript.ofReader n r).fault, m, w) := by
  induction n with
  | zero => exact fun _ enough => absurd enough (Nat.not_lt_zero _)
  | succ _ ih =>
    intro r enough
    rw [Transcript.ofReader]
    cases atEnd : r.atEnd with
    | true =>
      refine ⟨r, .here r, fun m w => ?_⟩
      exact outcome_runStatements_atEnd host bound _ atEnd m w
    | false =>
      rcases read : (statement (α := Value)).run.run r with ⟨_ | t, r''⟩
      · refine ⟨r, .here r, fun m w => ?_⟩
        exact outcome_runStatements_fault host bound _ atEnd read m w
      · have fewer := (comes_statement r).fewer read
        obtain ⟨r', way, ends⟩ := ih r'' (by omega)
        exact ⟨r', .following atEnd read way, ends⟩

/-- What is left of a text is run as the statements that it is read as. -/
theorem runRest_eq_play (host : Host) (bound : Bound) (r : Reader) (m : Machine) (w : World) :
    runRest host bound r m w = (Transcript.ofReader (r.left + 1) r).play host bound m w := by
  obtain ⟨r', passage, ends⟩ := exists_passage host bound _ r (Nat.lt_succ_self _)
  have onward : runRest host bound r' = fun m w =>
      (endingOf (Transcript.ofReader (r.left + 1) r).fault, m, w) := by
    funext m w
    exact ends m w
  rw [passage.runRest_eq host bound, onward]
  rfl

/-- **The same tokens in front of a token of the same kind have the same passage.** -/
theorem Passage.again {r r' : Reader} {es : List Entry} (passage : Passage r es r') :
    ∃ taken, r.source = ⟨taken ++ r'.source.lexemes, r'.source.ending⟩ ∧
      ∀ (read rest : List Lexeme) (e : Script.Ending),
        read.map (·.token) = taken.map (·.token) → Source.fault? ⟨rest, e⟩ = none →
          (Source.current ⟨rest, e⟩).kind = r'.kind →
            Passage ⟨⟨read ++ rest, e⟩, r.title⟩ es
              ⟨⟨rest, e⟩, r'.title⟩ := by
  induction passage with
  | here =>
    refine ⟨[], rfl, fun read rest e same _ _ => ?_⟩
    rw [List.map_nil, List.map_eq_nil_iff] at same
    subst same
    exact .here _
  | @following r r'' r' t es inside read way ih =>
    obtain ⟨-, front, source, -, again⟩ := took_statement r t r'' read
    obtain ⟨back, source', again'⟩ := ih
    refine ⟨front ++ back, ?_, fun others rest e same sound k => ?_⟩
    · rw [source, source', List.append_assoc]
    · rw [List.map_append] at same
      obtain ⟨inFront, inBack, rfl, sameFront, sameBack⟩ := List.map_eq_append_iff.mp same
      have met := kind_retaken source' sameBack k ""
      have first := again inFront (inBack ++ rest) e sameFront (Source.fault?_append sound) met
      have begins := kind_retaken source sameFront met r.title
      have goesOn : Reader.atEnd ⟨⟨inFront ++ (inBack ++ rest), e⟩, r.title⟩ = false := by
        refine decide_eq_false fun ended => of_decide_eq_false inside ?_
        exact begins.symm.trans ended
      have whole := Passage.following goesOn first (again' inBack rest e sameBack sound k)
      rw [List.append_assoc]
      exact whole

/-! ## Main statement -/

/-- **Running a script is visiting the statements that it is read as.** From every place of a text
and every state, the run visits the statements that are read from there in order, until one does
not end normally; a break then ends the run without a failure, and anything else is the end of the
run. If all end normally, the run ends with the fault that ended reading, if there was one. What
stands behind the token that follows some of these statements has no influence on them: wherever
their tokens stand in front of a token of the same kind, the same statements are visited first, and
the run goes on behind them only if none of them is interrupted. -/
theorem run_eq_play (host : Host) (bound : Bound) (reader : Reader) (machine : Machine)
    (world : World) :
    let transcript := Transcript.ofReader (reader.left + 1) reader
    transcript.program = Program.ofReader (reader.left + 1) reader ∧
    runRest host bound reader machine world = transcript.play host bound machine world ∧
    ∀ entries last, Passage reader entries last →
      ∃ taken, reader.source = ⟨taken ++ last.source.lexemes, last.source.ending⟩ ∧
        ∀ (read rest : List Lexeme) (ending : Script.Ending),
          read.map (·.token) = taken.map (·.token) → Source.fault? ⟨rest, ending⟩ = none →
            (Source.current ⟨rest, ending⟩).kind = last.kind →
              runRest host bound ⟨⟨read ++ rest, ending⟩, reader.title⟩ machine world =
                visitThen host bound entries (runRest host bound ⟨⟨rest, ending⟩, last.title⟩)
                  machine world := by
  intro transcript
  refine ⟨Transcript.program_ofReader _ reader, runRest_eq_play host bound reader machine world, ?_⟩
  intro entries last passage
  obtain ⟨taken, source, again⟩ := passage.again
  refine ⟨taken, source, fun read rest ending same sound kind => ?_⟩
  rw [(again read rest ending same sound kind).runRest_eq host bound]

end DeviceScript.Execution
