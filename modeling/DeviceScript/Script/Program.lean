import DeviceScript.Script.Grammar

/-!
# Whole scripts

Reading a script statement by statement gives the statements up to the end of the text, or up to
the first one that cannot be read together with the fault that was found there.
-/

namespace DeviceScript.Script

/-- What a script is read as: statements, and the fault that ended reading, if there was one. -/
structure Program (α : Type) where
  statements : List (Tree α)
  fault : Option ReadFault
  deriving Inhabited

namespace Program

variable {α : Type}

/-- A program with a statement before it. -/
def cons (statement : Tree α) (program : Program α) : Program α :=
  { program with statements := statement :: program.statements }

/-- Reads statement after statement. -/
def ofReader : Nat → Reader → Program α
  | 0, _ => ⟨[], some .endless⟩
  | count + 1, r =>
    if r.atEnd then ⟨[], none⟩
    else
      match (Reading.statement (α := α)).run.run r with
      | (.error fault, _) => ⟨[], some fault⟩
      | (.ok statement, rest) => cons statement (ofReader count rest)

/-- Reads a text. No statement is read without a token, so the bound is not reached. -/
def ofText (s : String) : Program α :=
  match Reader.ofText s with
  | .error e => ⟨[], some (.failure e)⟩
  | .ok r => ofReader (r.source.lexemes.length + 1) r

end Program

end DeviceScript.Script
