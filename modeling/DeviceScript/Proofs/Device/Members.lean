import DeviceScript.Proofs.Device.Discretion

/-!
# What scripts can call is discreet

A script finds operations in the library and in the device that it keeps. `Member.Discreet` says
that calling what is found is discreet, and `Act.Provides` that an action is calm and gives nothing
but what has a property.

Main statement: what a script finds under a name can be called without looking at the log or writing
to the output (`find_provides`).
-/

namespace DeviceScript

open Act.Discreet (andThen inspect ite_of)

variable (folder : Path) (canNotify : Bool) (id : Nat) (name : String)

/-! ## Members -/

/-- What the operation does is discreet, whatever it is given. -/
def Operation.Discreet (operation : Operation) : Prop :=
  ∀ vs, (operation.action vs).Discreet

def Member.Discreet : Member → Prop
  | .operation callee => callee.Discreet
  | .value _ => True

namespace Member.Discreet

variable {member : Member} (discreet : member.Discreet)
include discreet

theorem call (args : List Value) (named : List (String × Value)) :
    (member.call args named).Discreet := by
  cases member with
  | operation => exact andThen inferInstance fun vs => discreet vs
  | value => exact .throw _

theorem callLoosely (args : Value) : (member.callLoosely args).Discreet := by
  cases member with
  | operation =>
    refine andThen inferInstance fun given => ?_
    exact andThen inferInstance fun vs => discreet vs
  | value =>
    unfold Member.callLoosely
    infer_instance

end Member.Discreet

namespace Act

variable {α β : Type} {property : α → Prop} {wanted : β → Prop}

/-- A calm action, and what it gives has the property. -/
structure Provides (act : Act α) (property : α → Prop) : Prop where
  calm : act.Calm
  gives : ∀ {w v after}, act.perform w = (.ok v, after) → property v

namespace Provides

theorem pure {v : α} (holds : property v) : Provides (Pure.pure v) property where
  calm := .pure v
  gives := by
    rintro _ _ _ ⟨⟩
    exact holds

theorem throw (e : Failure) : Provides (MonadExcept.throw e : Act α) property where
  calm := .throw e
  gives := by rintro _ _ _ ⟨⟩

/-- What follows has to be discreet only for what is given. -/
theorem andThen {first : Act α} {f : α → Act β} (before : Provides first property)
    (following : ∀ v, property v → Discreet (f v)) : Discreet (first >>= f) where
  perform := by
    intro _ _ alike
    obtain ⟨o, w, w', reached, reached', alike', silent⟩ :=
      before.calm.discreet.perform alike
    rw [Execution.perform_act_bind, Execution.perform_act_bind, reached, reached']
    cases o with
    | error => exact ⟨_, _, _, rfl, rfl, alike', silent⟩
    | ok v =>
      obtain ⟨o, w'', w''', ended, ended', alike'', silent'⟩ :=
        (following v (before.gives reached)).perform alike'
      exact ⟨o, w'', w''', ended, ended', alike'', silent'.trans silent⟩

theorem bind {first : Act α} {f : α → Act β} (before : Provides first property)
    (following : ∀ v, property v → Provides (f v) wanted) :
    Provides (first >>= f) wanted where
  calm := by
    refine ⟨before.andThen fun v holds => (following v holds).calm.discreet, fun w => ?_⟩
    have begun := before.calm.untouched w
    rw [Execution.perform_act_bind]
    rcases reached : first.perform w with ⟨e | v, middle⟩ <;> rw [reached] at begun
    · exact begun
    · exact begun.trans ((following v (before.gives reached)).calm.untouched middle)
  gives := by
    intro w v _ ended
    rw [Execution.perform_act_bind] at ended
    rcases reached : first.perform w with ⟨e | middle, _⟩ <;> rw [reached] at ended
    · cases ended
    · exact (following middle (before.gives reached)).gives ended

/-- What is given first does not matter. -/
theorem after {first : Act α} {f : α → Act β} [before : Calm first]
    (following : ∀ v, Provides (f v) wanted) : Provides (first >>= f) wanted :=
  bind ⟨before, fun _ => trivial⟩ fun v _ => following v

end Provides

/-- The action finds discreet members, if any. -/
abbrev Finds (find : Act (Option Member)) : Prop :=
  Provides find fun found => ∀ member ∈ found, member.Discreet

end Act

theorem callByName_discreet {find : String → Act (Option Member)}
    (finds : ∀ name, Act.Finds (find name)) (args : List Value) :
    (callByName find args).Discreet := by
  unfold callByName
  split
  · infer_instance
  · infer_instance
  · refine andThen inferInstance fun hidden => ite_of inferInstance ?_
    split
    · refine (finds _).andThen fun found discreet => ?_
      split
      · infer_instance
      · have called := fun given => (discreet _ rfl).call given []
        refine andThen inferInstance fun o => ?_
        split <;> infer_instance
    · infer_instance

theorem mem_of_lookup_eq_some {α : Type} {es : List (String × α)} {name : String} {found : α}
    (located : es.lookup name = some found) : (name, found) ∈ es := by
  obtain ⟨before, _, same, -⟩ := List.lookup_eq_some_iff.mp located
  exact same ▸ List.mem_append_right before List.mem_cons_self

/-- All entries of a table have the property. -/
def Tabled {α : Type} (P : α → Prop) (entries : List (String × α)) : Prop :=
  ∀ e ∈ entries, P e.2

namespace Tabled

variable {α : Type} {property : α → Prop} {es others : List (String × α)}

theorem nil : Tabled property [] := fun _ member => by cases member

theorem cons {name : String} {first : α} (all : Tabled property es) (holds : property first) :
    Tabled property ((name, first) :: es) :=
  List.forall_mem_cons.mpr ⟨holds, all⟩

theorem append (all : Tabled property es) (allOthers : Tabled property others) :
    Tabled property (es ++ others) :=
  List.forall_mem_append.mpr ⟨all, allOthers⟩

theorem lookup (all : Tabled property es) (name : String) :
    ∀ found ∈ es.lookup name, property found :=
  fun _ located => all _ (mem_of_lookup_eq_some located)

variable {members : List (String × Member)}

theorem operation {owner name : String} {params : List Parameter} {documentation : Option String}
    {action : List Value → Act Value} (all : Tabled Member.Discreet members)
    (discreet : ∀ vs, (action vs).Discreet) :
    Tabled Member.Discreet (deviceOperation owner name params documentation action :: members) :=
  all.cons discreet

theorem callOperation {find : String → Act (Option Member)} (finds : ∀ name, Act.Finds (find name))
    (all : Tabled Member.Discreet members) :
    Tabled Member.Discreet (callOperation find :: members) := by
  refine all.operation fun vs => ?_
  split
  · exact callByName_discreet finds _
  · exact .pure _

end Tabled

theorem commonMember?_discreet (sort name : String) :
    ∀ member ∈ commonMember? sort name, member.Discreet := by
  unfold commonMember?
  split
  · rintro member ⟨⟩
    exact trivial
  · split
    · rintro member ⟨⟩
      exact fun vs => .pure _
    · rintro member ⟨⟩

/-! ## The members of devices -/

theorem forall_mem_or {found others : Option Member} (first : ∀ member ∈ found, member.Discreet)
    (second : ∀ member ∈ others, member.Discreet) :
    ∀ member ∈ found.or others, member.Discreet := by
  cases found with
  | none => exact second
  | some => exact first

namespace Phone

theorem ownOperations_discreet : Tabled Member.Discreet (ownOperations id) := by
  repeat refine .operation ?_ fun vs => ?_
  · exact .nil
  all_goals try split
  all_goals try simp only [click, pressKey, openApp, enterText, shell, frontApp]
  all_goals infer_instance

theorem ownMember?_finds : Act.Finds (ownMember? id name) := by
  refine .after fun phone => ?_
  split
  · next found => exact .pure (found ▸ (ownOperations_discreet id).lookup name)
  · split <;> exact .pure (by simp [Member.Discreet])

theorem member?_finds : Act.Finds (member? id name) := by
  refine (ownMember?_finds id name).bind fun found discreet => .pure (forall_mem_or discreet ?_)
  exact Tabled.lookup (.callOperation (ownMember?_finds id) (ownOperations_discreet id)) name

end Phone

namespace Workstation

theorem pointerOperations_discreet : Tabled Member.Discreet (pointerOperations id) := by
  repeat refine .operation ?_ fun vs => ?_
  · exact .nil
  all_goals try split
  all_goals try simp only [click, clickHere, pressKey]
  all_goals infer_instance

theorem ownOperations_discreet : Tabled Member.Discreet (ownOperations id) := by
  refine .append (pointerOperations_discreet id) ?_
  repeat refine .operation ?_ fun vs => ?_
  · exact .nil
  all_goals try split
  all_goals try simp only [pressKeys]
  all_goals infer_instance

theorem ownMember?_finds : Act.Finds (ownMember? id name) := by
  refine .after fun workstation => ?_
  split
  · next found => exact .pure (found ▸ (ownOperations_discreet id).lookup name)
  · split <;> exact .pure (by simp [Member.Discreet])

theorem member?_finds : Act.Finds (member? id name) := by
  refine (ownMember?_finds id name).bind fun found discreet => .pure (forall_mem_or discreet ?_)
  exact Tabled.lookup (.callOperation (ownMember?_finds id) (ownOperations_discreet id)) name

end Workstation

namespace Browser

theorem operations_discreet : Tabled Member.Discreet (operations id) := by
  repeat refine .operation ?_ fun vs => ?_
  · exact .nil
  all_goals try split
  all_goals try simp only [quit, clickByText, clickByAny]
  all_goals infer_instance

theorem member?_finds : Act.Finds (member? id name) := by
  refine .after fun browser => ?_
  split
  · next found => exact .pure (found ▸ (operations_discreet id).lookup name)
  · split <;> exact .pure (by simp [Member.Discreet])

end Browser

theorem deviceMember?_finds : Act.Finds (Act.deviceMember? id name) := by
  refine .after fun device => ?_
  split
  · exact .pure (by simp)
  · have common := commonMember?_discreet
    split
    · exact (Phone.member?_finds id name).bind fun _ own => .pure (forall_mem_or own (common _ _))
    · exact (Workstation.member?_finds id name).bind fun _ own =>
        .pure (forall_mem_or own (common _ _))
    · exact (Browser.member?_finds id name).bind fun _ own => .pure (forall_mem_or own (common _ _))

/-! ## The library -/

namespace Words

open Act (Discreet)

instance point_discreet (found : Except Failure (Option Value)) : Discreet (point found) := by
  refine andThen inferInstance fun word => ?_
  split <;> infer_instance

end Words

namespace Templates

open Act (Discreet)

instance points_discreet (centres : List (Nat × Nat)) : Discreet (points centres) := by
  induction centres with
  | nil => exact .pure _
  | cons =>
    unfold points
    infer_instance

instance brightnessOf_discreet (raster : Raster) : Discreet (brightnessOf raster) :=
  inspect fun _ => inferInstance

instance search_discreet (find : Float32 → Grid → Grid → Option (List (Nat × Nat)))
    (image template threshold : Value) : Discreet (search find image template threshold) := by
  repeat refine andThen inferInstance fun _ => ?_
  split <;> infer_instance

end Templates

namespace Library

open Act (Discreet)

instance read_discreet (path : Path) : Discreet (Image.read path) := by
  refine andThen inferInstance fun full => andThen inferInstance fun content => ?_
  split <;> infer_instance

instance findPicture_discreet (name : Value) : Discreet (findPicture folder name) := by
  refine andThen inferInstance fun near => ?_
  refine andThen (.filterM (fun _ => inferInstance) _) fun found => ?_
  split <;> infer_instance

instance selectDevice_discreet (name : Value) : Discreet (selectDevice canNotify name) := by
  repeat refine andThen inferInstance fun _ => ?_
  infer_instance

instance selectFor_discreet (script : Nat) (name : Value) :
    Discreet (selectFor script canNotify name) := by
  unfold selectFor Act.hold
  infer_instance

theorem fileOperations_discreet : Tabled Operation.Discreet fileOperations := by
  refine .cons (.cons (.cons .nil fun vs => ?_) fun vs => ?_) fun vs => ?_ <;>
  · dsimp only [plain]
    split <;> infer_instance

theorem pictureOperations_discreet : Tabled Operation.Discreet (pictureOperations folder) := by
  refine .cons (.cons (.cons .nil fun vs => ?_) fun vs => ?_) fun vs => ?_ <;>
  · dsimp only [plain]
    split <;> infer_instance

theorem joiner_discreet (separator documentation : String) :
    (joiner name separator documentation).Discreet := by
  intro _
  dsimp only [joiner, plain]
  split <;> infer_instance

theorem wordOperations_discreet : Tabled Operation.Discreet Words.operations := by
  have finder : ∀ name target find, (Words.finder name target find).Discreet := by
    intro name target find vs
    dsimp only [Words.finder]
    split <;> infer_instance
  refine .cons (.cons (.cons (.cons (.cons .nil (finder _ _ _)) (finder _ _ _)) (finder _ _ _))
    (finder _ _ _)) fun vs => ?_
  dsimp only [Words.reader]
  split
  · refine andThen inferInstance fun _ => andThen inferInstance fun _ => ?_
    exact inspect fun _ => inferInstance
  · infer_instance
  · infer_instance

theorem templateOperations_discreet : Tabled Operation.Discreet Templates.operations := by
  have finder : ∀ name find, (Templates.finder name find).Discreet := by
    intro name find _
    dsimp only [Templates.finder]
    split <;> infer_instance
  exact .cons (.cons .nil (finder _ _)) (finder _ _)

theorem operations_discreet (script : Nat) :
    Tabled Operation.Discreet (operations folder script canNotify) := by
  have joiners : Tabled Operation.Discreet [("pathSplicing", joiner "pathSplicing" "/" "路径拼接"),
      ("formatString", joiner "formatString" "" "格式化字符串")] :=
    .cons (.cons .nil (joiner_discreet _ _ _)) (joiner_discreet _ _ _)
  refine .cons ((((fileOperations_discreet.append joiners).append
    (pictureOperations_discreet folder)).append wordOperations_discreet).append
      templateOperations_discreet) fun vs => ?_
  dsimp only
  split <;> infer_instance

/-- **Scripts call discreet operations.** Looking for an operation is calm, and calling what is
found is discreet. -/
theorem find_provides (script : Nat) (name : Value) :
    Act.Provides (find folder script canNotify name) Member.Discreet := by
  unfold find
  split
  · split
    · next found => exact .pure ((operations_discreet folder canNotify script).lookup _ _ found)
    · refine .after fun fleet => ?_
      split
      · exact .throw _
      · refine (deviceMember?_finds _ _).bind fun found discreet => ?_
        split
        · exact .pure (discreet _ rfl)
        · exact .throw _
  · refine .after fun fleet => ?_
    split <;> exact .throw _

end Library

end DeviceScript
