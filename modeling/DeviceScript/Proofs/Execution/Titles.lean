import DeviceScript.Proofs.Execution.Transcript
import DeviceScript.Proofs.Script.Composed
import DeviceScript.Proofs.Script.Lines

/-!
# The title that a script is given

The name of a script is written in front of it, in quotes and on a line of its own. What comes of
that depends on the name. In every case a title and a string are read first, and the string is the
name up to its first quote (`ofText_titled`). If the name has no quote, then the line ends behind
the string, and the script is read behind it as it is read alone (`behindTitle_of_unquoted`). If it
has one, then the rest of the name is read as a part of the script (`behindTitle_of_quoted`).
-/

namespace DeviceScript.Execution

open List Script Script.Reading

variable (x script : String)

/-! ## The text behind the title -/

/-- What a script is read from, behind the title that it is given. -/
def behindTitle (name script : String) : Source :=
  (Source.ofText (titled name script)).advance.advance

/-- The title that comes of a name: what stands in front of its first quote. -/
def shownName (name : String) : String := String.ofList (name.toList.takeWhile (· ≠ '"'))

theorem not_mem_shownName : '"' ∉ (shownName x).toList := by
  rw [shownName, String.toList_ofList]
  intro mem
  simpa using mem_takeWhile_imp mem

theorem shownName_eq_iff : shownName x = x ↔ '"' ∉ x.toList := by
  constructor
  · intro same
    rw [← same]
    exact not_mem_shownName x
  · intro unquoted
    have whole : x.toList.takeWhile (· ≠ '"') = x.toList := by
      refine takeWhile_eq_self_iff.mpr fun c mem => ?_
      exact decide_eq_true fun same => unquoted (same ▸ mem)
    rw [shownName, whole, String.ofList_toList]

theorem shownName_of_quoted {title : String} (unquoted : '"' ∉ title.toList) (more : String) :
    shownName (title ++ "\"" ++ more) = title := by
  have inside : ∀ c ∈ title.toList, decide (c ≠ '"') = true :=
    fun c mem => decide_eq_true fun same => unquoted (same ▸ mem)
  rw [shownName, String.toList_append, String.toList_append, append_assoc,
    takeWhile_append_of_pos inside]
  simp

/-- The name stands in quotes, and the first quote behind it is its own first one, if it has one. -/
theorem exists_behind_quote (more : List Char) :
    ∃ rest, x.toList ++ '"' :: more = (shownName x).toList ++ '"' :: rest := by
  rw [shownName, String.toList_ofList]
  cases left : x.toList.dropWhile (· ≠ '"') with
  | nil =>
    refine ⟨more, ?_⟩
    have whole := takeWhile_append_dropWhile (p := (· ≠ '"')) (l := x.toList)
    rw [left, append_nil] at whole
    rw [whole]
  | cons quote others =>
    have outside := head?_dropWhile_eq_false (· ≠ '"') x.toList quote (by rw [left]; rfl)
    obtain rfl : quote = '"' := by simpa using outside
    refine ⟨others ++ '"' :: more, ?_⟩
    rw [← cons_append, ← left, ← append_assoc, takeWhile_append_dropWhile]

/-- A title and a string without a quote are read one after the other. -/
theorem readFrom_title {title : String} (unquoted : '"' ∉ title.toList) (rest : List Char) :
    ∃ first second,
      readFrom 1 0 ("name".toList ++ ' ' :: '"' :: (title.toList ++ '"' :: rest)) =
        (readFrom 1 second rest).after
          [⟨⟨.title, "name"⟩, 1, first⟩, ⟨⟨.string, title⟩, 1, second⟩] := by
  have word : readStart ("name".toList ++ ' ' :: '"' :: (title.toList ++ '"' :: rest)) =
      .token ⟨.title, "name"⟩ (' ' :: '"' :: (title.toList ++ '"' :: rest)) := by
    have isTitle : wordKind "name" = .title := by decide
    rw [readStart_word (by decide), isTitle]
    simp
    decide +kernel
  have string : readStart ('"' :: (title.toList ++ '"' :: rest)) = .token ⟨.string, title⟩ rest :=
    readStart_string unquoted
  rw [readFrom_token word, readFrom_pass (readStart_blank _), readFrom_token string]
  exact ⟨_, _, rfl⟩

/-- **A title and a string** are read first, whatever the name is. -/
theorem ofText_titled : ∃ first second, Source.ofText (titled x script) =
      .cons ⟨⟨.title, "name"⟩, 1, first⟩
        (.cons ⟨⟨.string, shownName x⟩, 1, second⟩ (behindTitle x script)) := by
  obtain ⟨rest, cut⟩ := exists_behind_quote x ('\n' :: script.toList)
  have letters : (titled x script).toList =
      "name".toList ++ ' ' :: '"' :: ((shownName x).toList ++ '"' :: rest) := by
    rw [← cut]
    simp [titled, String.toList_append]
  obtain ⟨first, second, read⟩ := readFrom_title (not_mem_shownName x) rest
  refine ⟨first, second, ?_⟩
  rw [behindTitle, ofText_eq_readFrom, letters, read]
  rfl

/-- **Behind a title with a quote** the rest of the name is read in front of the script. -/
theorem behindTitle_of_quoted {title : String} (unquoted : '"' ∉ title.toList)
    (more script : String) : ∃ characters,
      behindTitle (title ++ "\"" ++ more) script =
        (Source.ofText (more ++ "\"\n" ++ script)).shift 0 characters := by
  have letters : (titled (title ++ "\"" ++ more) script).toList =
      "name".toList ++ ' ' :: '"' ::
        (title.toList ++ '"' :: (more ++ "\"\n" ++ script).toList) := by
    simp [titled, String.toList_append]
  obtain ⟨_, second, read⟩ := readFrom_title unquoted (more ++ "\"\n" ++ script).toList
  have moved := readFrom_shift 0 second 1 0 (more ++ "\"\n" ++ script).toList
  rw [Nat.zero_add] at moved
  refine ⟨second, ?_⟩
  rw [behindTitle, ofText_eq_readFrom, letters, read, ofText_eq_readFrom, ← moved]
  rfl

/-! ## Names without a quote -/

def titleLine (name : String) : String := "name \"" ++ name ++ "\""

theorem titled_eq : titled x script = titleLine x ++ "\n" ++ script := by
  rw [titled, titleLine, ← String.toList_inj]
  simp [String.toList_append]

theorem ofText_titleLine {x : String} (unquoted : '"' ∉ x.toList) : ∃ first second,
    Source.ofText (titleLine x) =
      ⟨[⟨⟨.title, "name"⟩, 1, first⟩, ⟨⟨.string, x⟩, 1, second⟩], .finished 1 second⟩ := by
  have letters : (titleLine x).toList = "name".toList ++ ' ' :: '"' :: (x.toList ++ '"' :: []) := by
    simp [titleLine, String.toList_append]
  obtain ⟨first, second, read⟩ := readFrom_title unquoted []
  refine ⟨first, second, ?_⟩
  rw [ofText_eq_readFrom, letters, read]
  rfl

/-- **Behind a title without a quote** the script is read as alone, one line further down. -/
theorem behindTitle_of_unquoted {x : String} (unquoted : '"' ∉ x.toList) (script : String) :
    behindTitle x script = (Source.ofText script).shift 1 ((titleLine x).length + 1) := by
  obtain ⟨_, second, line⟩ := ofText_titleLine unquoted
  have finished : (Source.ofText (titleLine x)).ending = .finished 1 second := by rw [line]
  rw [behindTitle, titled_eq, ofText_append_line finished, line]
  rfl

theorem fault?_shift (lines characters : Nat) (e : Script.Ending) :
    (e.shift lines characters).fault? = e.fault? := by
  cases e <;> rfl

/-- Behind the title stand the tokens of the script, up to the same fault. -/
theorem tokens_behindTitle {x : String} (unquoted : '"' ∉ x.toList) (script : String) :
    (behindTitle x script).tokens = (Source.ofText script).tokens ∧
      (behindTitle x script).ending.fault? = (Source.ofText script).ending.fault? := by
  rw [behindTitle_of_unquoted unquoted]
  exact ⟨tokens_shift _ _ _, fault?_shift _ _ _⟩

/-! ## Reading the title -/

/-- What a text is read as behind a title. Where its first token cannot be read, there is nothing
but that fault. -/
def Transcript.behind (title : String) (source : Source) : Transcript :=
  match source.fault? with
  | some cause => ⟨[], some (.failure (.lexical source.line cause))⟩
  | none => ofReader (source.lexemes.length + 1) ⟨source, title⟩

/-- What a script is read as under a name. -/
def Transcript.ofNamed (name script : String) : Transcript :=
  behind (shownName name) (behindTitle name script)

theorem Transcript.ofNamed_of_fault {x script : String} {cause : LexicalFault}
    (fault : (behindTitle x script).fault? = some cause) :
    ofNamed x script = ⟨[], some (.failure (.lexical (behindTitle x script).line cause))⟩ := by
  unfold ofNamed behind
  simp only [fault]

/-- A title of one string is read, unless no token can be read behind it. -/
theorem run_statement_titled (first second : Lexeme) (source : Source) (title word x : String)
    (isTitle : first.token = ⟨.title, word⟩) (isString : second.token = ⟨.string, x⟩) :
    (statement (α := Value)).run.run ⟨.cons first (.cons second source), title⟩ =
      match source.fault? with
      | none => (.ok (.title x), ⟨source, x⟩)
      | some cause => (.error (.failure (.lexical source.line cause)), ⟨source, title⟩) := by
  obtain ⟨_, line, _⟩ := first
  obtain ⟨_, _, _⟩ := second
  obtain ⟨ls, e⟩ := source
  subst isTitle isString
  cases ls <;> cases e <;> rfl

/-- Under the name that a script is given, its first statement is a title. -/
theorem reads_title : ∃ r, Reader.ofText (titled x script) = .ok r ∧
      (statement (α := Value)).run.run r =
        match (behindTitle x script).fault? with
        | none => (.ok (.title (shownName x)), ⟨behindTitle x script, shownName x⟩)
        | some cause =>
          (.error (.failure (.lexical (behindTitle x script).line cause)),
            ⟨behindTitle x script, ""⟩) := by
  obtain ⟨_, _, same⟩ := ofText_titled x script
  refine ⟨⟨Source.ofText (titled x script), ""⟩, ?_, ?_⟩
  · rw [Reader.ofText, same]
    rfl
  · rw [same]
    exact run_statement_titled _ _ _ "" "name" (shownName x) rfl rfl

end DeviceScript.Execution
