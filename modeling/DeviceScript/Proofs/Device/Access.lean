import DeviceScript.Device.Browser
import DeviceScript.Device.Phone
import DeviceScript.Device.Workstation
import DeviceScript.Proofs.World.Discretion

/-!
# Devices that are used through their numbers

Equations for actions on the device with a number: what is looked up, and what is left behind when
the device is changed. A proof about a device goes through them and does not look into the list of
devices.
-/

namespace DeviceScript

open Execution (perform_act_bind)

variable {device : Device} {browser : Browser}

theorem bind_eq_ok_iff {ε α β : Type} {first : Except ε α} {f : α → Except ε β} {v : β} :
    first >>= f = .ok v ↔ ∃ before, first = .ok before ∧ f before = .ok v := by
  cases first <;> simp [bind, Except.bind]

/-- The world in which something more has been asked for. -/
def World.asking (w : World) (request : Request) : World :=
  { w with requests := w.requests.push request }

namespace Act

variable {α β : Type} {first : Act α} {next : α → Act β} {w middle : World}

theorem perform_bind_ok {v : α} (reached : first.perform w = (.ok v, middle)) :
    (first >>= next).perform w = (next v).perform middle := by
  rw [perform_act_bind, reached]

theorem perform_bind_error {e : Failure} (reached : first.perform w = (.error e, middle)) :
    (first >>= next).perform w = (.error e, middle) := by
  rw [perform_act_bind, reached]

theorem perform_attempt {o : Except Failure α} (reached : first.perform w = (o, middle)) :
    (attempt first).perform w = (.ok o, middle) :=
  congrArg (fun ended => (Except.ok ended.1, ended.2)) reached

theorem perform_get_bind (f : World → Act β) (w : World) :
    (get >>= f).perform w = (f w).perform w := rfl

/-- What begins with a calm action fails there or goes on, in a world that is untouched so far. -/
theorem Calm.perform_bind [calm : first.Calm] {now : World} (same : w.Untouched now)
    {res : Except Failure β × World → Prop} (failed : ∀ e w', w.Untouched w' → res (.error e, w'))
    (rest : ∀ v w', w.Untouched w' → res ((next v).perform w')) :
    res ((first >>= next).perform now) := by
  have untouched := same.trans (calm.untouched now)
  rw [perform_act_bind]
  rcases reached : first.perform now with ⟨e | v, w'⟩ <;> rw [reached] at untouched
  · exact failed e w' untouched
  · exact rest v w' untouched

theorem perform_heed (request : Request) (w : World) :
    (heed request).perform w = ((w.surroundings.refusal request).elim (.ok ()) .error, w) := by
  rw [heed, perform_get_bind]
  cases w.surroundings.refusal request <;> rfl

/-- What is demanded has been asked for, whether it is refused or not. -/
theorem perform_demand (channel : Channel) (verb : String) (args : List Value)
    (named : List (String × Value)) (w : World) :
    (demand channel verb args named).perform w =
      ((w.surroundings.refusal ⟨channel, verb, args, named⟩).elim (.ok ()) .error,
        w.asking ⟨channel, verb, args, named⟩) :=
  perform_heed _ (w.asking _)

theorem perform_settings {s : Settings} (loaded : w.settings = some s)
    (mem : String) : (Act.settings mem).perform w = (.ok s, w) := by
  rw [Act.settings, Act.settings?, bind_assoc, perform_get_bind, loaded]
  rfl

theorem perform_deviceAt? {id : Nat} (at_ : w.fleet.devices[id]? = some device) :
    (deviceAt? id).perform w = (.ok (some device), w) := by
  rw [← at_]
  rfl

end Act

/-- The world with another device under a number. -/
def World.withDevice (w : World) (id : Nat) (device : Device) : World :=
  { w with
    fleet := { w.fleet with devices := w.fleet.devices.setIfInBounds id device } }

theorem World.getElem?_withDevice {w : World} {id : Nat} (at_ : w.fleet.devices[id]? = some device)
    (changed : Device) : (w.withDevice id changed).fleet.devices[id]? = some changed := by
  obtain ⟨inside, -⟩ := Array.getElem?_eq_some_iff.mp at_
  exact Array.getElem?_setIfInBounds_self_of_lt inside

variable {w : World} {id : Nat}

theorem Phone.perform_state {phone : Phone} (at_ : w.fleet.devices[id]? = some (.phone phone)) :
    (Phone.state id).perform w = (.ok phone, w) := by
  rw [Phone.state, Act.perform_bind_ok (Act.perform_deviceAt? at_)]
  rfl

theorem Workstation.perform_state {workstation : Workstation}
    (at_ : w.fleet.devices[id]? = some (.workstation workstation)) :
    (Workstation.state id).perform w = (.ok workstation, w) := by
  rw [Workstation.state, Act.perform_bind_ok (Act.perform_deviceAt? at_)]
  rfl

theorem Browser.perform_state (at_ : w.fleet.devices[id]? = some (.browser browser)) :
    (Browser.state id).perform w = (.ok browser, w) := by
  rw [Browser.state, Act.perform_bind_ok (Act.perform_deviceAt? at_)]
  rfl

theorem Browser.perform_modify (at_ : w.fleet.devices[id]? = some (.browser browser))
    (f : Browser → Browser) :
    (Browser.modify id f).perform w = (.ok (), w.withDevice id (.browser (f browser))) := by
  rw [Browser.modify, Act.perform_bind_ok (Browser.perform_state at_)]
  rfl

end DeviceScript
