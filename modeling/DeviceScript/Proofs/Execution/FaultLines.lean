import DeviceScript.Proofs.Execution.Reporting

/-!
# The lines that faults are told on

A character at which no token can be read is told with a line, and that is meant to be a line of the
script. But the line is counted in the text with the title in front, which has a line of its own. On
the other hand line breaks inside of strings are not counted. So the line that is told is one too
large, less the line breaks in the strings that have been read.

Main statement: the line is right exactly if the strings in front of the fault have one line break
among them (`run_faultLine_iff`).
-/

namespace DeviceScript.Execution

open Script Script.Reading

variable {line : Nat} {fault : LexicalFault} {host : Host} {bound : Bound} {w : World}

variable {x script : String} {transcript : Transcript} {m : Machine} {e : Failure}

/-! ## Faults behind the title -/

/-- A fault in the characters behind a title is what ended the text. -/
theorem Transcript.ending_of_behind {title : String} {source : Source}
    (faulty : (behind title source).fault = some (.failure (.lexical line fault))) :
    ∃ stop, source.ending = .broken fault line stop := by
  rw [behind] at faulty
  cases found : source.fault? with
  | none =>
    simp only [found] at faulty
    have read : (Program.ofReader (α := Value) (source.lexemes.length + 1) ⟨source, title⟩).fault =
        some (.failure (.lexical line fault)) := by
      rw [← program_ofReader]
      exact faulty
    exact Program.ending_of_lexical _ read
  | some =>
    simp only [found] at faulty
    obtain ⟨ls, e⟩ := source
    cases faulty
    cases ls <;> cases e <;> cases found
    exact ⟨_, rfl⟩

/-- Under a name without a quote, the text breaks off just where the script does. Its line is larger
by the line of the title. -/
theorem exists_breaksBehind_titled (unquoted : '"' ∉ x.toList) {stop : Option Nat}
    (broken : (behindTitle x script).ending = .broken fault line stop) :
    ∃ own rest, script.toList = own ++ rest ∧ BreaksBehind fault own rest ∧
      BreaksBehind fault ((titled x "").toList ++ own) rest ∧
      line + breaksInStrings (Source.ofText script).tokens = 2 + own.count '\n' := by
  obtain ⟨_, second, titleRead⟩ := ofText_titleLine unquoted
  have finished : (Source.ofText (titleLine x)).ending = .finished 1 second := by rw [titleRead]
  rw [behindTitle_of_unquoted unquoted] at broken
  cases ended : (Source.ofText script).ending with
  | finished =>
    rw [Source.shift, ended] at broken
    cases broken
  | broken =>
    rw [Source.shift, ended] at broken
    cases broken
    obtain ⟨own, rest, letters, breaks, _, -⟩ := exists_breaksBehind ended
    have title : (titled x "").toList ++ own = (titleLine x).toList ++ '\n' :: own := by
      simp [titled_eq, String.toList_append]
    refine ⟨own, rest, letters, breaks, ?_, by omega⟩
    rw [title]
    exact (breaksBehind_append_line_iff finished _ own rest).mpr breaks

/-! ## Runs -/

/-- All statements that can be read end normally, and then there is a failure to read. -/
def MeetsFailure (host : Host) (bound : Bound) (t : Transcript) (m : Machine)
    (w : World) (e : Failure) : Prop :=
  t.fault = some (.failure e) ∧ ∃ m' w',
    (visitInTurn host bound t.entries).perform m w = ((.ok (), m'), w')

theorem MeetsFailure.of_isOk (fault : transcript.fault = some (.failure e))
    (passed : ((visitInTurn host bound transcript.entries).perform m w).1.1.isOk = true) :
    MeetsFailure host bound transcript m w e := by
  refine ⟨fault, ?_⟩
  generalize (visitInTurn host bound transcript.entries).perform m w = visited at passed ⊢
  obtain ⟨⟨_ | ⟨⟩, m'⟩, w'⟩ := visited
  · cases passed
  · exact ⟨m', w', rfl⟩

theorem MeetsFailure.play_eq (meets : MeetsFailure host bound transcript m w e) :
    (transcript.play host bound m w).1 = .failed e := by
  obtain ⟨fault, _, _, visited⟩ := meets
  rw [Transcript.play, visitThen, visited, fault]
  rfl

/-- The failure is returned: its message, or the failure itself. -/
def Tells (e : Failure) (result : Value) : Prop :=
  result = .text e.message ∨ ∃ serial, result = .failure serial e

/-- A run that meets a fault in the characters of its text tells it. -/
theorem tells_of_meetsFailure (records : host.Records) {file : Path} (runner : Runner)
    (meets : MeetsFailure host bound (Transcript.ofNamed x script) (Machine.initial file.parent)
      (begun x w) (.lexical line fault)) :
    Tells (.lexical line fault) (runner.run host bound script x file w).1 := by
  cases found : (behindTitle x script).fault? with
  | none =>
    obtain ⟨at', _, run⟩ := run_of_sound host bound file runner w found
    rw [run, meets.play_eq]
    exact .inl (told_failed_of_script x at' _ records rfl rfl).1
  | some =>
    obtain ⟨_, run⟩ := run_of_fault host bound file runner w found
    have faulty := meets.1
    rw [Transcript.ofNamed_of_fault found] at faulty
    cases faulty
    rw [run]
    exact .inr ⟨_, rfl⟩

/-! ## Main statement -/

/-- The line of the script itself on which a place of its text is, given what stands in front of
that place: the title is no part of the script. -/
def lineWithin (name : String) (front : List Char) : Nat :=
  1 + (front.drop (titled name "").length).count '\n'

/-- **When a fault is told on its line.** A run that meets a character at which no token can be read
tells it on the line of the text with the title, less the line breaks inside of strings. That is the
line of the script on which the character stands exactly if there are as many line breaks in the
strings in front of it as there are outside of the script. If the name has no quote, then the script
alone breaks off at the same character, and the line is right exactly if there is one line break in
the strings of the script. -/
theorem run_faultLine_iff {host : Host} (records : host.Records) (bound : Bound)
    (name script : String) (file : Path) (runner : Runner) (world : World) {line : Nat}
    {fault : LexicalFault}
    (meets : MeetsFailure host bound (Transcript.ofNamed name script) (Machine.initial file.parent)
      (begun name world) (.lexical line fault)) :
    let title := (titled name "").length
    Tells (.lexical line fault) (runner.run host bound script name file world).1 ∧
    ∃ front rest, (titled name script).toList = front ++ rest ∧ BreaksBehind fault front rest ∧
      line + breaksInStrings (Source.ofText (titled name script)).tokens = 1 + front.count '\n' ∧
      (line = lineWithin name front ↔
        breaksInStrings (Source.ofText (titled name script)).tokens =
          (front.take title).count '\n') ∧
      ('"' ∉ name.toList → BreaksBehind fault (front.drop title) rest ∧
        (line = lineWithin name front ↔ breaksInStrings (Source.ofText script).tokens = 1)) := by
  intro title
  obtain ⟨stop, broken⟩ := Transcript.ending_of_behind meets.1
  obtain ⟨front, rest, letters, breaks, lines, -⟩ :
      ∃ front rest, (titled name script).toList = front ++ rest ∧ BreaksBehind fault front rest ∧
        line + breaksInStrings (Source.ofText (titled name script)).tokens =
          1 + front.count '\n' ∧ stop = fault.place front.length :=
    exists_breaksBehind broken
  refine ⟨tells_of_meetsFailure records runner meets, front, rest, letters, breaks, lines, ?_, ?_⟩
  · have parted : front.count '\n' =
        (front.take title).count '\n' + (front.drop title).count '\n' := by
      rw [← List.count_append, List.take_append_drop]
    rw [show lineWithin name front = 1 + (front.drop title).count '\n' from rfl]
    omega
  · intro unquoted
    obtain ⟨own, rest', ownLetters, ownBreaks, wholeBreaks, ownLines⟩ :=
      exists_breaksBehind_titled unquoted broken
    have same : front ++ rest = ((titled name "").toList ++ own) ++ rest' := by
      rw [← letters, List.append_assoc, ← ownLetters]
      simp [titled, String.toList_append]
    obtain ⟨-, rfl, rfl⟩ := breaks.unique wholeBreaks same
    have behind : ((titled name "").toList ++ own).drop title = own :=
      List.drop_left' (String.length_toList ..)
    rw [lineWithin, behind]
    exact ⟨ownBreaks, by omega⟩

/-- A line break inside of a string makes up for the line of the title. -/
theorem run_faultLine_iff_brokenString :
    let script := "print(\"a\nb\")\nprint(\"c\")\n$"
    let file := Path.ofText "scripts/demo.txt"
    let host := CommandLine.host file.parent
    let ran := Runner.initial.run host ⟨1, 9⟩ script "demo" file CommandLine.world
    MeetsFailure host ⟨1, 9⟩ (Transcript.ofNamed "demo" script) (Machine.initial file.parent)
      (begun "demo" CommandLine.world) (.lexical 4 (.illegalCharacter '$')) ∧
    Tells (.lexical 4 (.illegalCharacter '$')) ran.1 ∧
    ∃ front rest, (titled "demo" script).toList = front ++ rest ∧
      BreaksBehind (.illegalCharacter '$') front rest ∧ lineWithin "demo" front = 4 := by
  intro script file host ran
  have meets : MeetsFailure host ⟨1, 9⟩ (Transcript.ofNamed "demo" script)
      (Machine.initial file.parent) (begun "demo" CommandLine.world)
      (.lexical 4 (.illegalCharacter '$')) :=
    .of_isOk (by decide +kernel) (by decide +kernel)
  obtain ⟨tells, front, rest, letters, breaks, -, -, unquoted⟩ := run_faultLine_iff
    (records_commandLine file.parent) ⟨1, 9⟩ "demo" script file Runner.initial CommandLine.world
    meets
  have once : breaksInStrings (Source.ofText script).tokens = 1 := by decide +kernel
  exact ⟨meets, tells, front, rest, letters, breaks,
    (((unquoted (by decide)).2).mpr once).symm⟩

/-- The second line of a script is told as the third. -/
theorem fault_told_one_line_too_far :
    let front := "print(\"a\")\n"
    let file := Path.ofText "scripts/demo.txt"
    let host := CommandLine.host file.parent
    let ran := Runner.initial.run host ⟨1, 9⟩ (front ++ "$") "demo" file CommandLine.world
    BreaksBehind (.illegalCharacter '$') front.toList ['$'] ∧ 1 + front.toList.count '\n' = 2 ∧
      ran.1 = .text "非法字符: $ 在第 3 行" := by
  intro front file host ran
  refine ⟨?_, by decide, ?_⟩
  · have broken : (Source.ofText (front ++ "$")).ending =
        .broken (.illegalCharacter '$') 2 (some front.length) := by decide +kernel
    obtain ⟨front', rest, letters, breaks, -, place⟩ := exists_breaksBehind broken
    have length : front.toList.length = front'.length := by
      rw [String.length_toList]
      exact Option.some.inj place
    rw [String.toList_append] at letters
    obtain ⟨rfl, rfl⟩ := List.append_inj letters length
    exact breaks
  · have meets : MeetsFailure host ⟨1, 9⟩ (Transcript.ofNamed "demo" (front ++ "$"))
        (Machine.initial file.parent) (begun "demo" CommandLine.world)
        (.lexical 3 (.illegalCharacter '$')) :=
      .of_isOk (by decide +kernel) (by decide +kernel)
    have sound : (behindTitle "demo" (front ++ "$")).fault? = none := by decide +kernel
    have message : Failure.message (.lexical 3 (.illegalCharacter '$')) =
        "非法字符: $ 在第 3 行" := by decide
    obtain ⟨line, reader, run⟩ :=
      run_of_sound host ⟨1, 9⟩ file Runner.initial CommandLine.world sound
    have result : ran.1 = _ := congrArg Prod.fst run
    rw [result, meets.play_eq, ← message]
    exact (told_failed_of_script "demo" line _ (records_commandLine file.parent) rfl rfl).1

end DeviceScript.Execution
