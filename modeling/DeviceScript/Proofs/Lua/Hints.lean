import DeviceScript.Lua.Session

/-!
# The hints that a Lua script shows

What a device gives back to a Lua script is divided into hints, which are written, and the rest,
which the script gets. `perform_callDevice` says so about every result: there is a line for each
hint and nothing more, in the order in which they stand in the result.
-/

namespace DeviceScript

open List

namespace ActOn

variable {σ α β : Type}

/-- What comes next is performed only if what comes first has a value. -/
theorem perform_bind (first : ActOn σ α) (f : α → ActOn σ β) (thing : σ) (w : World) :
    (first >>= f).perform thing w =
      match first.perform thing w with
      | (.ok v, thing, w) => (f v).perform thing w
      | (.error e, thing, w) => (.error e, thing, w) := by
  simp only [perform, ExceptT.run_bind, StateT.run_bind]
  rcases (first.run.run thing).run w with ⟨⟨_ | _, _⟩, _⟩ <;> rfl

theorem perform_ofAct (act : Act α) (thing : σ) (w : World) :
    (ofAct act).perform thing w = ((act.perform w).1, thing, (act.perform w).2) := rfl

end ActOn

namespace Lua

/-! ## Lines -/

/-- The line that is written for a value: only a hint has one. -/
def hintLine? : Value → Option String
  | .tip _ s => some (s ++ "\n")
  | _ => none

/-- The lines that are written for some values. -/
def hintLines (vs : List Value) : List String := vs.filterMap hintLine?

theorem hintLine?_eq_none_iff (v : Value) : hintLine? v = none ↔ v.isTip = false := by
  cases v <;> simp [hintLine?, Value.isTip]

theorem hintLines_eq_nil_iff (vs : List Value) : hintLines vs = [] ↔ ∀ v ∈ vs, v.isTip = false := by
  simp only [hintLines, filterMap_eq_nil_iff, hintLine?_eq_none_iff]

theorem hintLines_filter (vs : List Value) : hintLines (vs.filter Value.isTip) = hintLines vs := by
  rw [hintLines, filterMap_filter]
  congr 1
  funext v
  cases v <;> rfl

/-! ## Calls -/

theorem isTip_of_mem_hints {res hint : Value} (member : hint ∈ hints res) : hint.isTip = true := by
  cases res with
  | tuple => exact (mem_filter.mp member).2
  | tip =>
    rw [mem_singleton.mp member]
    rfl
  | _ => cases member

variable {σ : Type}

/-- What is done to the session of a program is what becomes of its session. -/
def Host.Lawful (host : Host σ) : Prop :=
  ∀ f state, host.session (host.update f state) = f (host.session state)

section Calling

variable {host : Host σ} (lawful : host.Lawful)
include lawful

theorem perform_writeLine (line : String) (state : σ) (w : World) :
    ∃ later, (host.writeLine line).perform state w = (.ok (), later, w) ∧
      (host.session later).buffer.content =
        (host.session state).buffer.content ++ [.text (line ++ "\n")] := by
  refine ⟨_, rfl, ?_⟩
  rw [lawful]
  rfl

/-- Hints are written one after another. -/
theorem perform_writeValues (vs : List Value) : (∀ v ∈ vs, v.isTip = true) →
    ∀ (state : σ) (w : World), ∃ later,
      (forIn vs PUnit.unit fun v _ => do
        host.writeValue v
        return ForInStep.yield PUnit.unit : ActOn σ PUnit).perform state w =
          (.ok PUnit.unit, later, w) ∧
      (host.session later).buffer.content =
        (host.session state).buffer.content ++ (hintLines vs).map Value.text := by
  induction vs with
  | nil => exact fun _ state w => ⟨state, rfl, (append_nil _).symm⟩
  | cons v _ ih =>
    intro tips state w
    obtain ⟨tip, others⟩ := forall_mem_cons.mp tips
    cases v with
    | tip serial s =>
      obtain ⟨middle, first, content⟩ := perform_writeLine lawful s state w
      obtain ⟨later, second, content'⟩ := ih others middle w
      have written : (host.writeValue (.tip serial s)).perform state w =
          (.ok (), middle, w) := first
      refine ⟨later, ?_, ?_⟩
      · rw [forIn_cons, bind_assoc, ActOn.perform_bind, written]
        exact second
      · rw [content', content, append_assoc]
        rfl
    | _ => cases tip

/-- **What a Lua script shows** are the hints of a result, and it gets the rest of it. -/
theorem perform_callDevice {member : Member} {vs : List Value} {res : Value}
    {called w' : World}
    (returned : (member.callLoosely (.tuple vs)).perform called = (.ok res, w'))
    (state : σ) : ∃ later,
      (host.callDevice member vs).perform state called = (.ok (delivered res), later, w') ∧
      (host.session later).buffer.content =
        (host.session state).buffer.content ++ (hintLines (hints res)).map Value.text := by
  obtain ⟨later, written, content⟩ := perform_writeValues lawful (hints res)
    (fun _ member => isTip_of_mem_hints member) state w'
  refine ⟨later, ?_, content⟩
  rw [Host.callDevice, ActOn.perform_bind, ActOn.perform_ofAct, returned]
  dsimp only
  rw [ActOn.perform_bind, written]
  rfl

end Calling

end Lua

end DeviceScript
