import DeviceScript.Proofs.Script.Settling

/-!
# How texts are refused

Reading fails where no token can be read and where the tokens do not fit the grammar; both are
failures of the script. There is one more way. At an `Untitled` place the script asks for a name
that is not there, which is a failure of another kind. A statement fails with a failure that is not
one of the script exactly if reading it comes to an untitled place (`refuses_statement`,
`fails_statement_of_untitled`), and so does a whole text (`fault_ofReader_kind_iff`).
-/

namespace DeviceScript.Script

namespace Reading

variable {α : Type}

/-- **A statement fails as the script does, or at an untitled place.** -/
theorem refuses_statement (r : Reader) (e : Failure) (r' : Reader)
    (run : (statement (α := α)).run.run r = (.error (.failure e), r')) :
    e.kind = .script ∨ PartUntitled α .statement r :=
  (comes_statement r).2 _ r' run

/-! ## Untitled places are not read past -/

/-- A title without a text stops reading. -/
theorem stops_of_untitled {r : Reader} (untitled : Untitled α r) :
    ∃ sort, Part.statement.Stops α r (.failure (.noAttribute sort "token")) := by
  obtain ⟨_, _, v, entered, read, noLeaf⟩ := untitled
  refine ⟨v.sort, .of_succ ⟨0, fun n _ => ?_⟩⟩
  dsimp only
  rw [Fails, statementWithin, run_look, kind_of_passes_expect entered]
  refine Fails.after entered fun _ => ?_
  rw [Fails, run_bind, read]
  simp only [noLeaf]
  rfl

/-- **A statement that comes to an untitled place fails**, and not as the script does. -/
theorem fails_statement_of_untitled {r : Reader}
    (untitled : PartUntitled α .statement r) :
    ∃ sort, Fails (statement (α := α)) r (.failure (.noAttribute sort "token")) := by
  obtain ⟨_, way, stands⟩ := untitled
  obtain ⟨sort, stops⟩ := stops_of_untitled stands
  obtain ⟨least, fails⟩ := stops_of_visits way stops
  refine ⟨sort, ?_⟩
  have enough := fails (max least (3 * r.left + 3)) (Nat.le_max_left ..)
  -- A stalling statement is endless within every bound, so this one does not stall.
  have ends : ¬ Endless (statementWithin (α := α) (3 * r.left + 3)) r := by
    intro endless
    have stalls := (endless_statement_iff r).mp (by rw [Endless, run_statement]; exact endless)
    have unending := unending_of_stalls stalls (max least (3 * r.left + 3))
    rw [Endless, enough] at unending
    cases unending
  rw [Fails, run_statement, ← (Composed.statements (Nat.le_max_right least _)).1.extends r ends]
  exact enough

end Reading

/-! ## Whole texts -/

open Reading

variable {α : Type}

/-- **A text is refused with a failure that is not one of the script exactly if reading it comes to
an untitled place.** -/
theorem fault_ofReader_kind_iff (r : Reader) :
    (∃ e, (Program.ofReader (α := α) (r.left + 1) r).fault = some (.failure e) ∧ e.kind ≠ .script) ↔
      ∃ r', Arrives α r r' ∧ PartUntitled α .statement r' := by
  constructor
  · rintro ⟨e, refused, other⟩
    obtain ⟨r', way, fails⟩ :=
      (fault_ofReader_eq_some_iff _ _ r (Nat.lt_succ_self _)).mp refused
    rcases run : (statement).run.run r' with ⟨_, r''⟩
    rw [Fails, run] at fails
    cases fails
    exact ⟨r', way, (refuses_statement r' e r'' run).resolve_left other⟩
  · rintro ⟨r', way, untitled⟩
    obtain ⟨_, fails⟩ := fails_statement_of_untitled untitled
    refine ⟨_, (fault_ofReader_eq_some_iff _ _ r (Nat.lt_succ_self _)).mpr
      ⟨r', way, fails⟩, ?_⟩
    simp [Failure.kind]

end DeviceScript.Script
