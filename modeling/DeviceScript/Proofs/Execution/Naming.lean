import DeviceScript.Proofs.Execution.Reporting

/-!
# What the name of a script can do to it

A script is run under the name of its file, and the name is meant to be no more than that. It is
written in front of the script as it is, and a quote in it ends the title. What stands behind that
quote is then read in front of the script (`program_ofNamed_of_quoted`), so that a name can add
statements, or can make a part of the script or all of it unreadable.

Main statement: the statements that are visited are those of the script alone and the name that is
kept is the given one, exactly if there is no quote in the name (`run_named_iff`).
-/

namespace DeviceScript.Execution

open Script Script.Reading Transcript Program CommandLine

/-! ## What is read -/

/-- Behind a title stand the statements of a text of the same tokens, up to the same fault. -/
theorem program_behind (title s : String) (lines characters : Nat) :
    let read := (behind title ((Source.ofText s).shift lines characters)).program
    read.statements = (ofText s).statements ∧
      (read.fault = none ↔ (ofText (α := Value) s).fault = none) := by
  have alike : Reader.Alike ⟨(Source.ofText s).shift lines characters, title⟩
      ⟨Source.ofText s, ""⟩ := ⟨tokens_shift _ _ _, fault?_shift _ _ _⟩
  have length := alike.length
  have first := alike.fault?
  unfold behind ofText Reader.ofText
  cases found : (Source.ofText s).fault? with
  | some =>
    simp only [first, found]
    exact ⟨rfl, iff_of_false (Option.some_ne_none _) (Option.some_ne_none _)⟩
  | none =>
    simp only [first, found, program_ofReader, length]
    exact ofReader_alike _ alike

/-- A script that can be read alone is read as the same statements under a name without a quote. -/
theorem program_ofNamed_of_unquoted {x script : String} (unquoted : '"' ∉ x.toList)
    (reads : (Program.ofText (α := Value) script).fault = none) :
    (Transcript.ofNamed x script).program = Program.ofText script := by
  obtain ⟨statements, fault⟩ := program_behind (shownName x) script 1
    ((titleLine x).length + 1)
  rw [← behindTitle_of_unquoted unquoted, ← Transcript.ofNamed] at statements fault
  have faultless := fault.mpr reads
  generalize (Transcript.ofNamed x script).program = read at statements faultless ⊢
  generalize Program.ofText script = alone at statements reads ⊢
  obtain ⟨_, _⟩ := read
  obtain ⟨_, _⟩ := alone
  cases statements
  cases faultless
  cases reads
  rfl

/-- **A quote in a name** lets the rest of the name be read in front of the script. -/
theorem program_ofNamed_of_quoted {title : String} (unquoted : '"' ∉ title.toList)
    (more script : String) :
    (ofNamed (title ++ "\"" ++ more) script).program.statements =
      (ofText (more ++ "\"\n" ++ script)).statements := by
  obtain ⟨_, moved⟩ := behindTitle_of_quoted unquoted more script
  rw [ofNamed, moved]
  exact (program_behind _ _ _ _).1

/-! ## Runs -/

/-- A run does what the visits of the statements do that a text is read as, and its end is told.
Where not even the first token can be read, only that is told. -/
def Follows (host : Host) (bound : Bound) (name : String) (file : Path) (w : World)
    (t : Transcript) (ran : Value × Runner × World) : Prop :=
  let outcome := t.play host bound (Machine.initial file.parent) (begun name w)
  (∃ line r, ran.2.1.session = some ⟨r, outcome.2.1⟩ ∧
    (ran.1, ran.2.2) = told host name line outcome.1 outcome.2.2) ∨
  t.entries = [] ∧ ∃ e, t.fault = some (.failure e) ∧ (ran.1, ran.2.2) = w.keepFailure e

section Running

variable (host : Host) (bound : Bound) (x script : String) (file : Path) (runner : Runner)
  (w : World)

theorem run_follows : Follows host bound x file w (ofNamed x script)
    (runner.run host bound script x file w) := by
  cases found : (behindTitle x script).fault? with
  | none =>
    obtain ⟨line, r, run⟩ := run_of_sound host bound file runner w found
    rw [run, Follows]
    -- The same play stands in the run and in the statement; what it does is not looked at.
    generalize play host bound _ _ _ = o
    exact .inl ⟨line, r, rfl, rfl⟩
  | some =>
    obtain ⟨_, run⟩ := run_of_fault host bound file runner w found
    rw [run, ofNamed_of_fault found]
    exact .inr ⟨rfl, _, rfl, rfl⟩

/-- The name is kept up to its first quote, unless not even the first token can be read. -/
theorem name_run : let ran := runner.run host bound script x file w
    ran.2.1.name = shownName x ∨
      (ofNamed x script).entries = [] ∧
        (ofNamed x script).fault ≠ none ∧ ran.2.1.name = runner.name := by
  cases found : (behindTitle x script).fault? with
  | none =>
    obtain ⟨_, _, run⟩ := run_of_sound host bound file runner w found
    exact .inl (congrArg (·.2.1.name) run)
  | some =>
    obtain ⟨_, run⟩ := run_of_fault host bound file runner w found
    rw [ofNamed_of_fault found]
    exact .inr ⟨rfl, Option.some_ne_none _, congrArg (·.2.1.name) run⟩

/-- No run leaves a name with a quote behind. -/
theorem not_mem_name_run (kept : '"' ∉ runner.name.toList) :
    '"' ∉ (runner.run host bound script x file w).2.1.name.toList := by
  rcases name_run host bound x script file runner w with shown | ⟨-, -, same⟩
  · rw [shown]
    exact not_mem_shownName x
  · rw [same]
    exact kept

end Running

/-! ## Main statement -/

/-- **When a name changes nothing.** A run does what the statements do that are read behind the
title. They are those that the script alone is read as, and the name that is kept is the given one,
exactly if the name has no quote. If it has one, then the name that is kept ends there, and what
follows in the name is read in front of the script. -/
theorem run_named_iff (host : Host) (bound : Bound) {script : String}
    (reads : (ofText (α := Value) script).fault = none) (name : String) (file : Path)
    (runner : Runner) (kept : '"' ∉ runner.name.toList) (world : World) :
    let read := Transcript.ofNamed name script
    let ran := runner.run host bound script name file world
    Follows host bound name file world read ran ∧ '"' ∉ ran.2.1.name.toList ∧
    (read.program = ofText script ∧ ran.2.1.name = name ↔ '"' ∉ name.toList) ∧
    ∀ title more, '"' ∉ title.toList → name = title ++ "\"" ++ more →
      read.program.statements = (ofText (more ++ "\"\n" ++ script)).statements ∧
      (ran.2.1.name = title ∨ read.entries = [] ∧ ran.2.1.name = runner.name) := by
  intro read ran
  have named := name_run host bound name script file runner world
  have keeps : '"' ∉ ran.2.1.name.toList :=
    not_mem_name_run host bound name script file runner world kept
  refine ⟨run_follows host bound name script file runner world, keeps, ⟨?_, ?_⟩, ?_⟩
  · rintro ⟨-, same⟩
    rwa [same] at keeps
  · intro unquoted
    have program := program_ofNamed_of_unquoted unquoted reads
    refine ⟨program, ?_⟩
    rcases named with shown | ⟨-, faulty, -⟩
    · exact shown.trans ((shownName_eq_iff name).mpr unquoted)
    · exact absurd ((congrArg Program.fault program).trans reads) faulty
  · rintro title more unquoted rfl
    refine ⟨program_ofNamed_of_quoted unquoted more script, ?_⟩
    rcases named with shown | ⟨nothing, -, same⟩
    · exact .inl (shown.trans (shownName_of_quoted unquoted more))
    · exact .inr ⟨nothing, same⟩

/-- A name may have line breaks and comments in it. -/
theorem run_named_iff_brokenName :
    let script := "print(\"x\")"
    let name := "a\n# b"
    let file := Path.ofText "scripts/demo.txt"
    let ran := Runner.initial.run (host file.parent) ⟨1, 9⟩ script name file
      world
    (ofText (α := Value) script).fault = none ∧
      (ofNamed name script).program = ofText script ∧ ran.2.1.name = name := by
  intro script name file ran
  have reads : (ofText (α := Value) script).fault = none := by decide +kernel
  obtain ⟨-, -, same, -⟩ := run_named_iff (host file.parent) ⟨1, 9⟩ reads name file
    Runner.initial (by decide) world
  exact ⟨reads, same.mpr (by decide)⟩

/-- A name with a quote lets a statement be visited that is not in the script. -/
theorem name_adds_statement :
    let script := "print(\"x\")"
    let name := "a\" print(\"y\") #"
    let file := Path.ofText "scripts/demo.txt"
    let ran := Runner.initial.run (host file.parent) ⟨1, 9⟩ script name file
      world
    (ofText (α := Value) script).fault = none ∧
      (ofText (α := Value) script).statements.length = 1 ∧
      (ofNamed name script).program.statements.length = 2 ∧
      ran.2.2.written = #["y\n", "x\n"] ∧ ran.2.1.name = "a" := by
  decide +kernel

end DeviceScript.Execution
