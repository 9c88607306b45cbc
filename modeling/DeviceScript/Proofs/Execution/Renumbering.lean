import DeviceScript.Proofs.Execution.Evaluation
import DeviceScript.Proofs.Value.Erasure

/-!
# Evaluation and the numbers of undefined outcomes

An expression takes numbers for the outcomes that are told apart by one, and which numbers it takes
depends on what has been evaluated before. Nothing else does: from any number on, an expression
evaluates to the same value up to these numbers, or fails with the same failure
(`renumbers_evaluation`). So an expression that has a value in some world has one in every world
(`fault?_evaluation`).
-/

namespace DeviceScript.Execution

open List Script Value Calculation
open DeviceScript.Script.Tree (IsArithmetic)
open DeviceScript.Value (erase)

/-- From any numbers on, the calculations fail alike or give values that look the same. -/
def Renumbers {α β : Type} (view : α → β) (calculation calculation' : Calculation α) : Prop :=
  ∀ serials serials', (calculation.run serials).map (fun result => view result.1) =
    (calculation'.run serials').map fun result => view result.1

namespace Renumbers

variable {α β γ δ : Type} {view : α → β} {view' : γ → δ}
variable {calculation calculation' other : Calculation α}

theorem pure {v v' : α} (same : view v = view v') : Renumbers view (Pure.pure v) (Pure.pure v') :=
  fun _ _ => congrArg Except.ok same

theorem of {o o' : Except Failure α} (same : o.map view = o'.map view) :
    Renumbers view (of o) (of o') := by
  intro _ _
  cases o <;> cases o' <;> exact same

theorem symm (renumbers : Renumbers view calculation calculation') :
    Renumbers view calculation' calculation :=
  fun serials serials' => (renumbers serials' serials).symm

theorem trans (first : Renumbers view calculation calculation')
    (second : Renumbers view calculation' other) : Renumbers view calculation other :=
  fun serials serials' => (first serials 0).trans (second 0 serials')

theorem bind {f f' : α → Calculation γ} (first : Renumbers view calculation calculation')
    (second : ∀ v v', view v = view v' → Renumbers view' (f v) (f' v')) :
    Renumbers view' (calculation >>= f) (calculation' >>= f') := by
  intro serials serials'
  have begun := first serials serials'
  rw [StateT.run_bind, StateT.run_bind]
  rcases a : calculation.run serials with _ | ⟨v, later⟩ <;>
    rcases b : calculation'.run serials' with _ | ⟨v', later'⟩ <;>
    rw [a, b] at begun
  · cases begun
    rfl
  · cases begun
  · cases begun
  · exact second v v' (Except.ok.inj begun) later later'

theorem mapM {ι κ : Type} (key : ι → κ) {each each' : ι → Calculation α}
    (alike : ∀ x x', key x = key x' → Renumbers view (each x) (each' x')) :
    ∀ {xs xs' : List ι}, xs.map key = xs'.map key →
      Renumbers (List.map view) (xs.mapM each) (xs'.mapM each') := by
  intro xs
  induction xs with
  | nil =>
    intro xs' same
    obtain rfl := map_eq_nil_iff.mp same.symm
    exact pure rfl
  | cons x _ ih =>
    intro xs' same
    obtain ⟨x', _, rfl, first, rest⟩ := map_eq_cons_iff.mp same.symm
    rw [mapM_cons, mapM_cons]
    refine (alike x x' first.symm).bind fun v v' vs => ?_
    refine (ih rest.symm).bind fun outcomes outcomes' lists => pure ?_
    rw [map_cons, map_cons, vs, lists]

/-- Calculations that come to the same fail alike. -/
theorem fault?_eq (renumbers : Renumbers view calculation calculation') (serials serials' : Nat) :
    fault? (calculation.run serials) = fault? (calculation'.run serials') := by
  have same := congrArg fault? (renumbers serials serials')
  rwa [fault?_map, fault?_map] at same

end Renumbers

/-! ## Operators -/

section Operators

variable {k : TokenKind} {a b v v' : Value}

theorem written_erase (a b : Value) : written (erase a) (erase b) = written a b := by
  rw [written, written, display_erase, display_erase]

theorem worked_erase (arithmetic : isArithmetic k = true) (a b : Value) :
    worked k (erase a) (erase b) = (worked k a b).map erase := by
  cases k <;> cases arithmetic
  · exact add_erase a b
  · exact subtract_erase a b
  · exact multiply_erase a b
  · rw [worked, worked, equal_zero_erase]
    split
    · simp [Except.map, erase]
    · exact divide_erase a b

theorem renewed_of_not_float (other : ∀ x, v ≠ .float x) : renewed v = pure v := by
  cases v with
  | float x => exact absurd rfl (other x)
  | _ => rfl

theorem eq_float_of_erase {x : Float} (same : erase v = .float x) : v = .float x := by
  cases v <;> simp_all [erase]

theorem eq_text_of_erase {s : String} (same : erase v = .text s) : v = .text s := by
  cases v <;> simp_all [erase]

theorem eq_none_of_erase (same : erase v = .none) : v = .none := by
  cases v <;> simp_all [erase]

theorem renumbers_renewed (same : erase v = erase v') :
    Renumbers erase (renewed v) (renewed v') := by
  by_cases real : ∃ x, v = .float x
  · obtain ⟨x, rfl⟩ := real
    obtain rfl := eq_float_of_erase same.symm
    intro serials serials'
    show Except.ok (erase (ofReal serials x)) = Except.ok (erase (ofReal serials' x))
    unfold ofReal
    split <;> simp [erase]
  · have other : ∀ x, v ≠ .float x := fun x isReal => real ⟨x, isReal⟩
    have other' : ∀ x, v' ≠ .float x := by
      rintro x rfl
      exact other x (eq_float_of_erase same)
    rw [renewed_of_not_float other, renewed_of_not_float other']
    exact .pure same

theorem renumbers_work (arithmetic : isArithmetic k = true) (a b : Value) :
    Renumbers erase (work k a b) (work k (erase a) (erase b)) := by
  refine Renumbers.bind (Renumbers.of ?_) fun _ _ => renumbers_renewed
  rw [worked_erase arithmetic]
  cases worked k a b <;> simp [Except.map]

/-- An outcome that needs no numbers is the same from all of them on. -/
theorem renumbers_same {α : Type} (o : Except Failure α) :
    Renumbers id (of o) (of o) := .of rfl

theorem renumbers_single (arithmetic : isArithmetic k = true) (a b : Value) :
    Renumbers erase (single k a b) (single k (erase a) (erase b)) := by
  rw [single, single, written_erase]
  exact (renumbers_same _).bind fun _ _ _ => renumbers_work arithmetic a b

theorem isVector_erase (v : Value) : isVector (erase v) = isVector v := by
  cases v <;> simp [erase, isVector]

theorem items_erase (sequence : isVector v = true) :
    (erase v).items = v.items.map (List.map erase) := by
  cases v <;> simp_all [isVector, items, Except.map, erase, eraseAll_eq_map]

theorem renumbers_itemwise (arithmetic : isArithmetic k = true)
    (vectors : isVector a = true ∧ isVector b = true) :
    Renumbers erase (itemwise k a b) (itemwise k (erase a) (erase b)) := by
  have items : ∀ {v : Value}, isVector v = true → Renumbers (List.map erase)
      (of v.items) (of (erase v).items) := by
    intro v sequence
    refine .of ?_
    rw [items_erase sequence]
    cases v.items <;> simp [Except.map, Function.comp_def]
  have pairs : ∀ p p',
      Prod.map erase erase p = Prod.map erase erase p' →
        Renumbers erase (work k p.1 p.2) (work k p'.1 p'.2) := by
    intro p p' same
    obtain ⟨first, second⟩ := Prod.mk.inj same
    have erased := renumbers_work arithmetic p.1 p.2
    rw [first, second] at erased
    exact erased.trans (renumbers_work arithmetic p'.1 p'.2).symm
  refine (items vectors.1).bind fun lefts lefts' sameLefts => ?_
  refine (items vectors.2).bind fun rights rights' sameRights => ?_
  have zipped : (lefts.zip rights).map (Prod.map erase erase) =
      (lefts'.zip rights').map (Prod.map erase erase) := by
    rw [← zip_map, ← zip_map, sameLefts, sameRights]
  refine (Renumbers.mapM (Prod.map erase erase) pairs zipped).bind fun outcomes outcomes' same => ?_
  rw [written_erase]
  refine (renumbers_same _).bind fun _ _ _ => .pure ?_
  rw [erase_list, erase_list, same]

theorem operated_none (noText : ∀ s, a ≠ .text s) :
    operated k a .none =
      if a.truthy then
        pure (.bool (((a.sequence?.map fun xs => xs.all truthy)).getD true))
      else single k a .none := by
  rw [operated]
  exact noText

theorem operated_some (noText : ∀ s, a ≠ .text s) (something : b ≠ .none) :
    operated k a b = if isVector a && isVector b then itemwise k a b else single k a b := by
  rw [operated]
  · exact noText
  · exact something

theorem renumbers_operated (arithmetic : isArithmetic k = true) (a b : Value) :
    Renumbers erase (operated k a b) (operated k (erase a) (erase b)) := by
  by_cases text : ∃ text, a = .text text
  · obtain ⟨text, rfl⟩ := text
    rw [erase, operated, operated, display_erase]
    · exact .of rfl
    all_goals simp
  have noText : ∀ text, a ≠ .text text := fun s same => text ⟨s, same⟩
  have noText' : ∀ text, erase a ≠ .text text :=
    fun s same => noText s (eq_text_of_erase same)
  by_cases nothing : b = .none
  · subst nothing
    have same : erase .none = .none := by simp only [erase]
    have singles := renumbers_single arithmetic a .none
    rw [same] at singles ⊢
    rw [operated_none noText, operated_none noText', truthy_erase, sequence?_erase]
    split
    · refine .pure ?_
      cases a.sequence? <;> simp [all_map, Function.comp_def]
    · exact singles
  · have something : erase b ≠ .none := fun same => nothing (eq_none_of_erase same)
    rw [operated_some noText nothing, operated_some noText' something, isVector_erase,
      isVector_erase]
    split
    · rename_i vectors
      exact renumbers_itemwise arithmetic (Bool.and_eq_true_iff.mp vectors)
    · exact renumbers_single arithmetic a b

end Operators

/-! ## Expressions -/

/-- **Evaluation does not depend on the numbers that it takes.** -/
theorem renumbers_evaluation (m : Machine) {t : Tree Value} (arithmetic : IsArithmetic t) :
    Renumbers erase (evaluation m t) (evaluation m t) := by
  induction arithmetic with
  | missing | string | name => exact .pure rfl
  | number => exact .of rfl
  | binary listed _ _ a b =>
    refine a.bind fun first first' same => b.bind fun second second' same' => ?_
    have erased := renumbers_operated listed first second
    rw [same, same'] at erased
    exact erased.trans (renumbers_operated listed first' second').symm

/-- An expression that has a value has one from all numbers on. -/
theorem fault?_evaluation (m : Machine) {t : Tree Value} (arithmetic : IsArithmetic t)
    (serials serials' : Nat) :
    fault? ((evaluation m t).run serials) = fault? ((evaluation m t).run serials') :=
  (renumbers_evaluation m arithmetic).fault?_eq serials serials'

end DeviceScript.Execution
