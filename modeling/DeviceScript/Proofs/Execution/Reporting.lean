import DeviceScript.Main
import DeviceScript.Proofs.Execution.Breaks
import DeviceScript.Proofs.Execution.Titles

/-!
# How the end of a script is reported

A script is meant to report every error in the same way: the words of the error are written to the
output, and what is returned begins with them. Nothing is returned just about a script that finishes
(`play_finished_iff`). Three kinds of errors are not reported so. The title that a script is given
is read together with the first token of the script, so that a fault there is found before the
script is run, and it is only returned. A continue outside of all loops has no words, and the
attempt to tell them fails. And of some failures other words are told than those of their message.

Main statement: an error is reported exactly if it is none of these (`run_reported_iff`).
-/

namespace DeviceScript.Execution

open Script Script.Reading CommandLine

variable {e : Failure} {words : String} {ending : Ending}

/-- What a script is read as under its title. Where its first token cannot be read, there is nothing
but that fault. -/
def Transcript.ofScript (name script : String) : Transcript :=
  match (behindTitle name script).fault? with
  | some cause => ⟨[], some (.failure (.lexical (behindTitle name script).line cause))⟩
  | none => ofReader ((behindTitle name script).lexemes.length + 1) ⟨behindTitle name script, name⟩

theorem Transcript.ofScript_eq {x : String} (unquoted : '"' ∉ x.toList) (script : String) :
    ofScript x script = ofNamed x script := by
  rw [ofNamed, (shownName_eq_iff x).mpr unquoted]
  rfl

/-! ## Reports -/

/-- The host keeps what it is given to write. -/
def Host.Records (host : Host) : Prop :=
  host.Takes fun s w w' => w'.written = w.written.push s

/-- Writing to the log leaves the output as it is. -/
theorem written_log (level : Level) (s : String) (w : World) :
    ∃ w', (Act.log level s).perform w = (.ok (), w') ∧ w'.written = w.written := by
  refine ⟨_, rfl, ?_⟩
  dsimp only
  split
  · rfl
  · rfl

theorem written_report {host : Host} (records : host.Records) (s : String) (w : World) :
    ∃ w', (host.report s).perform w = (.ok (), w') ∧ w'.written = w.written.push s := by
  obtain ⟨_, given, keeps⟩ := records
  obtain ⟨_, w', emitted, written⟩ := keeps s w
  refine ⟨w', ?_, written⟩
  rw [Host.report, given]
  rw [perform_act_bind, emitted]
  rfl

/-- What is returned about the end of a script, and the world after it. -/
def told (host : Host) (name : String) (line : Nat) (ending : Ending) (w : World) :
    Value × World :=
  failureAsResult (reportEnding host name line ending) w

section Told

variable (host : Host) (x : String) (line : Nat) (w : World)

theorem told_finished : (told host x line .finished w).1 = .none := by
  rw [told]
  rfl

/-- Neither is a failure that has nothing to tell. -/
theorem told_failed_of_none (silent : e.headline = none) :
    told host x line (.failed e) w = w.keepFailure (.indexOut "tuple") := by
  rw [told, reportEnding, silent]
  rfl

/-- What a failure of the script tells first is written and returned. -/
theorem told_failed_of_script {host : Host} (records : host.Records)
    (headline : e.headline = some words) (ofScript : e.kind = .script) :
    (told host x line (.failed e) w).1 = .text words ∧
      (told host x line (.failed e) w).2.written = w.written.push ("发生错误 " ++ words ++ "\n") := by
  obtain ⟨logged, first, kept⟩ := written_log .error ("发生错误 " ++ words) w
  obtain ⟨_, reported, written⟩ := written_report records ("发生错误 " ++ words ++ "\n") logged
  rw [told, failureAsResult, reportEnding, headline]
  rw [perform_act_bind, first]
  dsimp only
  rw [if_pos ofScript, perform_act_bind, reported]
  exact ⟨rfl, by rw [← kept]; exact written⟩

/-- What a failure tells first is written and returned, and the line comes behind it if the failure
is not one of the script. -/
theorem told_failed_of_some {host : Host} (records : host.Records)
    (headline : e.headline = some words) : ∃ more rest,
      (told host x line (.failed e) w).1 = .text (words ++ rest) ∧
      (told host x line (.failed e) w).2.written.toList =
        w.written.toList ++ ("发生错误 " ++ words ++ "\n") :: more := by
  by_cases ofScript : e.kind = .script
  · obtain ⟨result, written⟩ := told_failed_of_script x line w records headline ofScript
    exact ⟨[], "", by rw [result, String.append_empty], by rw [written, Array.toList_push]⟩
  · obtain ⟨logged, first, kept⟩ := written_log .error ("发生错误 " ++ words) w
    rw [told, failureAsResult, reportEnding, headline]
    rw [perform_act_bind, first]
    dsimp only
    rw [if_neg ofScript]
    obtain ⟨logged', second, kept'⟩ := written_log .debug ("错误来源 行数: " ++ toString line) logged
    obtain ⟨w', reported, written⟩ := written_report records ("发生错误 " ++ words ++ "\n") logged'
    obtain ⟨w'', located, written'⟩ := written_report records ("错误来源 行数: " ++ toString line) w'
    rw [perform_act_bind, second]
    dsimp only
    rw [perform_act_bind, reported]
    dsimp only
    rw [perform_act_bind, located]
    refine ⟨["错误来源 行数: " ++ toString line], "\n行数: " ++ toString line, ?_, ?_⟩
    · show Value.text (words ++ "\n行数: " ++ toString line) = _
      rw [String.append_assoc]
    · show w''.written.toList = _
      rw [written', written, kept', kept, Array.toList_push, Array.toList_push, List.append_assoc]
      rfl

end Told

/-! ## Runs -/

/-- The world in which the statements of a script are visited. -/
def begun (name : String) (w : World) : World :=
  ((Act.log .debug ("脚本 " ++ name ++ " 执行开始")).perform w).2

/-- What a script does, and how it ends. -/
def played (host : Host) (bound : Bound) (script name : String) (file : Path) (w : World) :
    Outcome :=
  (Transcript.ofScript name script).play host bound (Machine.initial file.parent) (begun name w)

section Running

variable (host : Host) (bound : Bound) {script x : String} (file : Path) (runner : Runner)
  (w : World) {r later : Reader}

/-- What a run returns, and the world after it. -/
def returned (host : Host) (bound : Bound) (script name : String) (file : Path) (runner : Runner)
    (w : World) : Value × World :=
  ((runner.run host bound script name file w).1, (runner.run host bound script name file w).2.2)

/-- A script whose first token cannot be read is not run. -/
theorem run_of_fault {cause : LexicalFault}
    (fault : (behindTitle x script).fault? = some cause) :
    let e : Failure := .lexical (behindTitle x script).line cause
    ∃ session, runner.run host bound script x file w =
      ((w.keepFailure e).1, { runner with session }, (w.keepFailure e).2) := by
  obtain ⟨_, opened, read⟩ := reads_title x script
  simp only [fault] at read
  unfold Runner.run
  simp only [opened, read]
  exact ⟨_, rfl⟩

/-- What any other script does is what the statements behind the title do, and its end is told. -/
theorem run_of_sound (sound : (behindTitle x script).fault? = none) :
    let o := (Transcript.ofNamed x script).play host bound (Machine.initial file.parent)
      (begun x w)
    ∃ line r, runner.run host bound script x file w =
      ((told host x line o.1 o.2.2).1,
        ⟨shownName x, some ⟨r, o.2.1⟩⟩,
        (told host x line o.1 o.2.2).2) := by
  intro o
  have same : o = runRest host bound ⟨behindTitle x script, shownName x⟩
      (Machine.initial file.parent) (begun x w) := by
    rw [runRest_eq_play]
    unfold o Transcript.ofNamed Transcript.behind
    simp only [sound, Reader.left]
  obtain ⟨r, opened, read⟩ := reads_title x script
  simp only [sound] at read
  rw [same]
  unfold Runner.run runRest
  simp only [opened, read, Reader.left, begun]
  generalize runStatements host bound _ _ _ = ended
  exact ⟨_, _, rfl⟩

/-- A script whose first token cannot be read has ended with that fault before it is run. -/
theorem returned_of_fault {cause : LexicalFault}
    (fault : (behindTitle x script).fault? = some cause) :
    (played host bound script x file w).1 = .failed (.lexical (behindTitle x script).line cause) ∧
      returned host bound script x file runner w =
        w.keepFailure (.lexical (behindTitle x script).line cause) := by
  obtain ⟨_, run⟩ := run_of_fault host bound file runner w fault
  refine ⟨?_, ?_⟩
  · unfold played Transcript.ofScript
    simp only [fault]
    rfl
  · rw [returned, run]

/-- Any other script is run as the statements that it is read as. -/
theorem returned_of_sound (unquoted : '"' ∉ x.toList)
    (sound : (behindTitle x script).fault? = none) :
    ∃ line, returned host bound script x file runner w =
      told host x line (played host bound script x file w).1
        (played host bound script x file w).2.2 := by
  obtain ⟨line, _, run⟩ := run_of_sound host bound file runner w sound
  refine ⟨line, ?_⟩
  rw [returned, run, played, Transcript.ofScript_eq unquoted]

end Running

/-! ## Ends -/

/-- The words of the error that a run has ended with, if it has. A continue has none. -/
def Ending.error? : Ending → Option String
  | .failed e => some e.message
  | .strayContinue => some ""
  | .finished => none
  | .endless => none
  | .exhausted => none

/-- The end is a failure that tells its whole message first. -/
def Ending.Speaks : Ending → Prop
  | .failed e => e.headline = some e.message
  | _ => False

/-- The error is reported: a line with its words is the first thing that is written behind what the
script has written, and what is returned begins with its words. -/
def Reported (words : String) (written : Array String) (result : Value) (w : World) : Prop :=
  (∃ more, w.written.toList = written.toList ++ ("发生错误 " ++ words ++ "\n") :: more) ∧
    ∃ rest, result = .text (words ++ rest)

/-- A failure that is only returned is not reported. -/
theorem not_reported_keepFailure (words : String) (w : World) (e : Failure) :
    ¬ Reported words w.written (w.keepFailure e).1 (w.keepFailure e).2 := by
  rintro ⟨-, _, same⟩
  cases same

theorem append_words_injective {other : String}
    (same : "发生错误 " ++ words ++ "\n" = "发生错误 " ++ other ++ "\n") : words = other := by
  have letters := congrArg String.toList same
  simp only [String.toList_append, List.append_cancel_right_eq, List.append_cancel_left_eq]
    at letters
  exact String.toList_inj.mp letters

/-- **Which errors are reported** among those that end a run. -/
theorem reported_told_iff {host : Host} (records : host.Records) (x : String) (line : Nat)
    (w : World) (error : ending.error? = some words) :
    Reported words w.written (told host x line ending w).1
      (told host x line ending w).2 ↔ ending.Speaks := by
  cases ending with
  | finished | endless | exhausted => cases error
  | strayContinue => exact iff_of_false (not_reported_keepFailure _ _ _) id
  | failed e =>
    cases error
    cases headline : e.headline with
    | none =>
      rw [told_failed_of_none host x line w headline]
      refine iff_of_false (not_reported_keepFailure _ _ _) fun speaks => ?_
      rw [Ending.Speaks, headline] at speaks
      cases speaks
    | some first =>
      obtain ⟨more, rest, result, written⟩ := told_failed_of_some x line w records headline
      constructor
      · rintro ⟨⟨_, lines⟩, -⟩
        rw [written, List.append_cancel_left_eq] at lines
        have same : first = e.message := append_words_injective (List.cons.inj lines).1
        rw [Ending.Speaks, headline, same]
      · intro speaks
        rw [Ending.Speaks, headline] at speaks
        cases speaks
        exact ⟨⟨more, written⟩, rest, result⟩

/-- All statements are read, and all of them end normally. -/
def RunsToEnd (host : Host) (bound : Bound) (t : Transcript) (m : Machine)
    (w : World) : Prop :=
  t.fault = none ∧ ∃ m' w', (visitInTurn host bound t.entries).perform m w = ((.ok (), m'), w')

/-- The statements are visited up to one that ends with a break: one that stands outside of all
loops and functions, or the one that ends a script that has been asked to stop. -/
def BrokenOff (host : Host) (bound : Bound) (t : Transcript) (m : Machine)
    (w : World) : Prop :=
  ∃ front e back m' reached m'' w',
    t.entries = front ++ e :: back ∧
    (visitInTurn host bound front).perform m w = ((.ok (), m'), reached) ∧
    (visitEntry host bound e).perform m' reached = ((.error .leave, m''), w') ∧
    (HasBreak e.1 ∨ m''.stopped = true)

section Finishing

variable (host : Host) (bound : Bound)

theorem visitInTurn_error_iff {i : Interrupt} {m' : Machine} {w' : World}
    (es : List Entry) : ∀ (m : Machine) (w : World),
      (visitInTurn host bound es).perform m w = ((.error i, m'), w') ↔
        ∃ front e back m'' reached, es = front ++ e :: back ∧
          (visitInTurn host bound front).perform m w = ((.ok (), m''), reached) ∧
          (visitEntry host bound e).perform m'' reached = ((.error i, m'), w') := by
  induction es with
  | nil =>
    intro m w
    refine iff_of_false (fun ended => ?_) ?_
    · cases ended
    · rintro ⟨front, e, back, -, -, same, -⟩
      cases front <;> cases same
  | cons first es ih =>
    intro m w
    rcases visited : (visitEntry host bound first).perform m w with
      ⟨⟨found | v, m'''⟩, w''⟩
    · rw [visitInTurn, Exec.perform_bind_error visited]
      constructor
      · intro ended
        cases ended
        exact ⟨[], first, es, m, w, rfl, rfl, visited⟩
      · rintro ⟨_ | ⟨e, front⟩, e', back, m'', reached, same, passed, ended⟩
        · cases same
          cases passed
          rw [visited] at ended
          cases ended
          rfl
        · cases same
          rw [visitInTurn, Exec.perform_bind_error visited] at passed
          cases passed
    · rw [visitInTurn, Exec.perform_bind_ok visited, ih m''' w'']
      constructor
      · rintro ⟨front, e, back, m'', reached, rfl, passed, ended⟩
        refine ⟨first :: front, e, back, m'', reached, rfl, ?_, ended⟩
        rw [visitInTurn, Exec.perform_bind_ok visited, passed]
      · rintro ⟨_ | ⟨e, front⟩, e', back, m'', reached, same, passed, ended⟩
        · cases same
          cases passed
          rw [visited] at ended
          cases ended
        · cases same
          rw [visitInTurn, Exec.perform_bind_ok visited] at passed
          exact ⟨front, e', back, m'', reached, rfl, passed, ended⟩

/-- A statement ends with a break only if it has one, or if the script has been asked to stop. -/
theorem hasBreak_or_stopped {e : Entry} {m m' : Machine} {w w' : World}
    (ended : (visitEntry host bound e).perform m w = ((.error .leave, m'), w')) :
    HasBreak e.1 ∨ m'.stopped = true := by
  refine or_iff_not_imp_left.mpr fun unbroken => ?_
  have leaves : Exec.LeavesStopped (visitEntry host bound e) := by
    refine .bind (.of_avoids (avoids_modify _)) fun _ =>
      .bind (.of_avoids (avoids_modify _)) fun _ => ?_
    exact leavesStopped_visitWithin host bound.rounds bound.depth [] e.1 unbroken
  have stopped := leaves m w
  rw [ended] at stopped
  exact stopped rfl

/-- **A run finishes** by visiting all statements, or by a break that nothing catches. -/
theorem play_finished_iff (t : Transcript) (m : Machine) (w : World) :
    (t.play host bound m w).1 = .finished ↔
      RunsToEnd host bound t m w ∨ BrokenOff host bound t m w := by
  have broken : BrokenOff host bound t m w ↔ ∃ m' w',
      (visitInTurn host bound t.entries).perform m w = ((.error .leave, m'), w') := by
    constructor
    · rintro ⟨front, e, back, m'', reached, m', w', same, passed, ended, -⟩
      refine ⟨m', w', (visitInTurn_error_iff host bound _ m w).mpr ?_⟩
      exact ⟨front, e, back, m'', reached, same, passed, ended⟩
    · rintro ⟨m', w', ended⟩
      obtain ⟨front, e, back, m'', reached, same, passed, ended⟩ :=
        (visitInTurn_error_iff host bound _ m w).mp ended
      exact ⟨front, e, back, m'', reached, m', w', same, passed, ended,
        hasBreak_or_stopped host bound ended⟩
  rw [broken, RunsToEnd, Transcript.play, visitThen]
  rcases (visitInTurn host bound t.entries).perform m w with
    ⟨⟨i | ⟨⟩, m'⟩, w'⟩
  · cases i <;> simp [Interrupt.ending]
  · rcases t.fault with _ | _ | _ <;> simp [endingOf]

end Finishing

/-! ## Main statement -/

/-- Nothing is returned just about a run that finishes. -/
theorem told_eq_none_iff {host : Host} (records : host.Records) (x : String) (line : Nat)
    (w : World) (ends : ending ≠ .endless) (bounded : ending ≠ .exhausted) :
    (told host x line ending w).1 = .none ↔ ending = .finished := by
  cases ending with
  | endless => exact absurd rfl ends
  | exhausted => exact absurd rfl bounded
  | finished => exact iff_of_true (told_finished host x line w) rfl
  | strayContinue => exact iff_of_false (by rintro ⟨⟩) (by rintro ⟨⟩)
  | failed e =>
    refine iff_of_false (fun none => ?_) (by rintro ⟨⟩)
    cases headline : e.headline with
    | none =>
      rw [told_failed_of_none host x line w headline] at none
      cases none
    | some =>
      obtain ⟨_, _, result, -⟩ := told_failed_of_some x line w records headline
      rw [result] at none
      cases none

theorem Ending.exists_error (ends : ending ≠ .endless) (bounded : ending ≠ .exhausted)
    (unfinished : ending ≠ .finished) : ∃ words, ending.error? = some words := by
  cases ending with
  | endless => exact absurd rfl ends
  | exhausted => exact absurd rfl bounded
  | finished => exact absurd rfl unfinished
  | strayContinue | failed => exact ⟨_, rfl⟩

/-- What is returned about a script whose first token cannot be read, and about any other one. -/
theorem reported_iff_of_returned {host : Host} (records : host.Records) {x : String}
    {source : Source} {w : World} {o : Outcome} {ran : Value × World}
    (ends : o.1 ≠ .endless) (bounded : o.1 ≠ .exhausted)
    (unreadable : ∀ cause, source.fault? = some cause →
      o.1 = .failed (.lexical source.line cause) ∧ ran = w.keepFailure (.lexical source.line cause))
    (readable : source.fault? = none → ∃ line, ran = told host x line o.1 o.2.2) :
    (ran.1 = .none ↔ o.1 = .finished) ∧
    (ran.1 ≠ .none → ∃ words, o.1.error? = some words ∧
      (Reported words o.2.2.written ran.1 ran.2 ↔ source.fault? = none ∧ o.1.Speaks)) := by
  cases fault : source.fault? with
  | some cause =>
    obtain ⟨ending, rfl⟩ := unreadable cause fault
    rw [ending]
    refine ⟨iff_of_false (by rintro ⟨⟩) (by rintro ⟨⟩), fun _ => ⟨_, rfl, ?_⟩⟩
    refine iff_of_false ?_ ?_
    · rintro ⟨-, _, same⟩
      cases same
    · rintro ⟨same, -⟩
      cases same
  | none =>
    obtain ⟨line, rfl⟩ := readable fault
    have finished := told_eq_none_iff records x line o.2.2 ends bounded
    refine ⟨finished, fun other => ?_⟩
    obtain ⟨words, error⟩ := Ending.exists_error ends bounded fun same => other (finished.mpr same)
    refine ⟨words, error, ?_⟩
    rw [reported_told_iff records x line o.2.2 error]
    exact ⟨fun speaks => ⟨rfl, speaks⟩, And.right⟩

/-- **Which errors of a script are reported.** A run that comes to an end returns nothing exactly if
all statements of the script are read and end normally, or if a break ends it that stands outside of
all loops and functions. In all other cases there is an error. It is written to the output and
returned exactly if the first token of the script can be read, the error is not a continue outside
of all loops, and what the failure tells first is its whole message. -/
theorem run_reported_iff {host : Host} (records : host.Records) (bound : Bound) {name : String}
    (unquoted : '"' ∉ name.toList) (script : String) (file : Path) (runner : Runner) (world : World)
    (ends : (played host bound script name file world).1 ≠ .endless)
    (bounded : (played host bound script name file world).1 ≠ .exhausted) :
    let source := behindTitle name script
    let transcript := Transcript.ofScript name script
    let machine := Machine.initial file.parent
    let outcome := played host bound script name file world
    let ran := runner.run host bound script name file world
    source.tokens = (Source.ofText script).tokens ∧
    (ran.1 = .none ↔ RunsToEnd host bound transcript machine (begun name world) ∨
      BrokenOff host bound transcript machine (begun name world)) ∧
    (ran.1 ≠ .none → ∃ words, outcome.1.error? = some words ∧
      (Reported words outcome.2.2.written ran.1 ran.2.2 ↔
        source.fault? = none ∧ outcome.1.Speaks)) := by
  have facts := reported_iff_of_returned records ends bounded
    (fun cause fault => returned_of_fault host bound file runner world fault)
    (returned_of_sound host bound file runner world unquoted)
  have finished := play_finished_iff host bound (Transcript.ofScript name script)
    (Machine.initial file.parent) (begun name world)
  exact ⟨(tokens_behindTitle unquoted script).1, facts.1.trans finished, facts.2⟩

theorem records_commandLine (folder : Path) : (CommandLine.host folder).Records :=
  ⟨_, rfl, fun _ _ => ⟨_, _, rfl, rfl⟩⟩

/-- A call with too few arguments is reported behind what the script has printed. -/
theorem run_reported_iff_functionArity :
    let script := "print(\"a\")\nfunc f(p) { }\ncall f()"
    let file := Path.ofText "scripts/demo.txt"
    let host := host file.parent
    let outcome := played host ⟨1, 9⟩ script "demo" file world
    let ran := Runner.initial.run host ⟨1, 9⟩ script "demo" file world
    outcome.1 ≠ .endless ∧ outcome.1 ≠ .exhausted ∧ outcome.2.2.written = #["a\n"] ∧
      Reported "函数 f 参数数量不匹配，期望 1，实际 0" outcome.2.2.written ran.1 ran.2.2 := by
  intro script file host outcome ran
  have ending : outcome.1 = .failed (.functionArity "f" 1 0) := by decide +kernel
  have written : outcome.2.2.written = #["a\n"] := by decide +kernel
  have sound : (behindTitle "demo" script).fault? = none := by decide +kernel
  have message : Failure.message (.functionArity "f" 1 0) =
      "函数 f 参数数量不匹配，期望 1，实际 0" := by decide
  have ends : outcome.1 ≠ .endless := by simp [ending]
  have bounded : outcome.1 ≠ .exhausted := by simp [ending]
  have finished : outcome.1 = .finished ↔ _ :=
    play_finished_iff host ⟨1, 9⟩ (Transcript.ofScript "demo" script)
      (Machine.initial file.parent) (begun "demo" world)
  obtain ⟨-, nothing, reported⟩ := run_reported_iff (records_commandLine file.parent) ⟨1, 9⟩
    (by decide) script file Runner.initial world ends bounded
  refine ⟨ends, bounded, written, ?_⟩
  -- From here on it does not matter what the run is, only how it has ended.
  change ran.1 = .none ↔ _ at nothing
  change ran.1 ≠ .none → ∃ words, outcome.1.error? = some words ∧
    (Reported words outcome.2.2.written ran.1 ran.2.2 ↔ _ ∧ outcome.1.Speaks) at reported
  clear_value outcome ran
  rw [← finished, ending] at nothing
  obtain ⟨words, error, iff⟩ := reported (by simp [nothing])
  rw [ending] at error iff
  rw [← message, Option.some.inj error]
  exact iff.mpr ⟨sound, rfl⟩

/-- Where the first token cannot be read, nothing is written, and what is returned is no text. -/
theorem unreadable_start_is_not_reported :
    let file := Path.ofText "scripts/demo.txt"
    let host := host file.parent
    let outcome := played host ⟨1, 9⟩ "$" "demo" file world
    let ran := Runner.initial.run host ⟨1, 9⟩ "$" "demo" file world
    outcome.1.error? = some "非法字符: $ 在第 2 行" ∧ ran.2.2.written = #[] ∧
      ran.1 = .failure world.serials (.lexical 2 (.illegalCharacter '$')) ∧
      ¬ Reported "非法字符: $ 在第 2 行" outcome.2.2.written ran.1 ran.2.2 := by
  intro file host outcome ran
  have fault : (behindTitle "demo" "$").fault? = some (.illegalCharacter '$') := by decide +kernel
  have line : (behindTitle "demo" "$").line = 2 := by decide +kernel
  obtain ⟨ending, returned⟩ :=
    returned_of_fault host ⟨1, 9⟩ file Runner.initial world fault
  rw [line] at ending returned
  have result : ran.1 = .failure world.serials (.lexical 2 (.illegalCharacter '$')) :=
    congrArg Prod.fst returned
  have later : ran.2.2 =
      (world.keepFailure (.lexical 2 (.illegalCharacter '$'))).2 :=
    congrArg Prod.snd returned
  refine ⟨?_, ?_, result, ?_⟩
  · change outcome.1 = _ at ending
    rw [ending]
    decide
  · rw [later]
    rfl
  · rintro ⟨-, rest, same⟩
    rw [result] at same
    cases same

end DeviceScript.Execution
