import DeviceScript.Proofs.Device.Access
import DeviceScript.World.SettingsFile

/-!
# Saving and reloading settings

Entries under names that are not known are gathered among the further entries, and an entry that is
called like these is replaced by what is gathered. What is saved is everything but the further
entries.

Main statements: if settings are made from entries, saved and loaded again, then nothing is lost
exactly if all names are known and there are no further entries among them (`nothing_lost_iff`), and
loading right after saving finds the fields that were saved (`perform_save_load`).
-/

namespace DeviceScript

open List

/-! ## Entries that are found -/

namespace Value

theorem alike_text {text : String} {key : Value} :
    alike (.text text) key = true ↔ key = .text text := by
  cases key with
  | text => simp [alike, same, equal, eq_comm (a := text)]
  | _ => simp [alike, same, equal, orderNumbers?, real?, whole?]

theorem mem_insertEntry_self (name : String) (v : Value) (entries : List (Value × Value)) :
    (.text name, v) ∈ insertEntry (.text name) v entries := by
  induction entries with
  | nil => exact mem_cons_self
  | cons _ _ ih =>
    rw [insertEntry]
    split
    · rename_i same
      rw [alike_text.mp same]
      exact mem_cons_self
    · exact .tail _ ih

theorem mem_insertEntry_of_mem {name other : String} (different : other ≠ name) {v kept : Value}
    {entries : List (Value × Value)} (mem : (.text other, kept) ∈ entries) :
    (.text other, kept) ∈ insertEntry (.text name) v entries := by
  induction entries with
  | nil => cases mem
  | cons _ _ ih =>
    rw [insertEntry]
    split
    · rename_i same
      rcases mem_cons.mp mem with rfl | later
      · exact absurd (Value.text.inj (alike_text.mp same)) different
      · exact .tail _ later
    · rcases mem_cons.mp mem with rfl | later
      · exact mem_cons_self
      · exact .tail _ (ih later)

end Value

namespace Settings

variable {settings : Settings} {name other : String} {v kept : Value}
  {entries : List (String × Value)}

/-- The entry is found, under its own name or among the further entries. -/
def Holds (s : Settings) (name : String) (v : Value) : Prop :=
  (.text name, v) ∈ s.entries ∨ (.text name, v) ∈ s.extra

/-- The value is of the sort that its name asks for. -/
def Fits : String → Value → Prop
  | "log_level", v | "stop_key", v | "start_key", v => ∃ s, v = .text s
  | "mapping", v | "web_drivers", v | "extra", v => ∃ entries, v = .dict entries
  | "save_screenshot", v => ∃ flag, v = .bool flag
  | "scripts_path", v => ∃ xs, v = .list xs
  | _, _ => True

theorem holds_set (fits : Fits name v) (own : name ≠ "extra") :
    (settings.set name v).Holds name v := by
  unfold set
  split
  case h_8 =>
    split
    · rename_i listed
      simp only [known, contains_eq_mem, mem_cons, not_mem_nil, or_false,
        decide_eq_true_eq] at listed
      rcases listed with rfl | rfl | rfl | rfl | rfl | rfl | rfl | rfl <;>
        obtain ⟨_, rfl⟩ := fits <;> simp_all
    · exact .inr (Value.mem_insertEntry_self _ _ _)
  all_goals simp [Holds, Settings.entries, declared]

theorem Holds.set (holds : settings.Holds other kept) (own : other ≠ "extra")
    (different : other ≠ name) : (settings.set name v).Holds other kept := by
  unfold Settings.set
  split
  case h_8 =>
    split
    · exact holds
    · rcases holds with declared | further
      · left
        simpa [Settings.entries, Settings.declared, own] using declared
      · exact .inr (Value.mem_insertEntry_of_mem different further)
  all_goals
    simpa [Holds, Settings.entries, declared, different] using holds

theorem holds_foldl (distinct : (entries.map Prod.fst).Nodup)
    (fits : ∀ e ∈ entries, Fits e.1 e.2) (own : name ≠ "extra")
    (found : (name, v) ∈ entries ∨ name ∉ entries.map Prod.fst ∧ settings.Holds name v) :
    (entries.foldl (fun s e => s.set e.1 e.2) settings).Holds name v := by
  induction entries generalizing settings with
  | nil => exact (found.resolve_left not_mem_nil).2
  | cons _ _ ih =>
    rw [map_cons, nodup_cons] at distinct
    rw [forall_mem_cons] at fits
    refine ih distinct.2 fits.2 ?_
    rcases found with mem | ⟨fresh, holds⟩
    · rcases mem_cons.mp mem with rfl | later
      · exact .inr ⟨distinct.1, holds_set fits.1 own⟩
      · exact .inl later
    · rw [map_cons, mem_cons, not_or] at fresh
      exact .inr ⟨fresh.2, holds.set own fresh.1⟩

theorem extra_set (listed : name ∈ known) : (settings.set name v).extra = settings.extra := by
  unfold set
  split
  case h_8 => rw [if_pos (contains_iff_mem.mpr listed)]
  all_goals rfl

theorem extra_ofEntries (listed : ∀ e ∈ entries, e.1 ∈ known) : (ofEntries entries).extra = [] := by
  have kept : ∀ s : Settings, (entries.foldl (fun s e => s.set e.1 e.2) s).extra = s.extra := by
    induction entries with
    | nil => exact fun _ => rfl
    | cons _ _ ih =>
      rw [forall_mem_cons] at listed
      exact fun s => (ih listed.2 _).trans (extra_set listed.1)
  exact kept initial

end Settings

/-! ## Files that are read after they were written -/

namespace FileTree

variable {t later : FileTree} {content : FileContent} {place : Place} {route : Route}

section

variable (kept : ∀ place, t.folderFault? place = none → later.folderFault? place = none)

include kept

theorem follow_of_folders {goal : Place} {names : List String}
    (leads : t.follow place names = .ok goal) : later.follow place names = .ok goal := by
  induction names generalizing place with
  | nil => grind [follow]
  | cons => grind [follow]

theorem approach_of_folders {ending : Ending} (approached : t.approach route = .ok ending) :
    later.approach route = .ok ending := by
  obtain ⟨start, started, ended⟩ := bind_eq_ok_iff.mp approached
  refine bind_eq_ok_iff.mpr ⟨start, started, ?_⟩
  split at ended
  · exact ended
  · obtain ⟨folder, followed, ended⟩ := bind_eq_ok_iff.mp ended
    exact bind_eq_ok_iff.mpr ⟨folder, follow_of_folders kept followed, ended⟩

end

theorem get?_put (free : place.isFixed = false) (entry : FileEntry) (other : Place) :
    (t.put place entry).get? other = if other = place then some entry else t.get? other := by
  have looked : ∀ entries : List (Place × FileEntry),
      (entries.filter (fun e => e.1 ≠ place) ++ [(place, entry)]).lookup other =
        if other = place then some entry else entries.lookup other := by
    intro entries
    induction entries with
    | nil => grind
    | cons => grind
  simp only [get?, put, looked]
  grind

theorem get?_change (there : t.get? place ≠ none) (free : place.isFixed = false)
    (entry : FileEntry) (other : Place) :
    get? ⟨t.entries.map fun e => if e.1 = place then (place, entry) else e⟩ other =
      if other = place then some entry else t.get? other := by
  have looked : ∀ entries : List (Place × FileEntry),
      (entries.map fun e => if e.1 = place then (place, entry) else e).lookup other =
        if other = place then (entries.lookup other).map fun _ => entry
        else entries.lookup other := by
    intro entries
    induction entries with
    | nil => simp
    | cons e _ ih =>
      rw [map_cons]
      by_cases replaced : e.1 = place
      · rw [if_pos replaced]
        grind
      · rw [if_neg replaced]
        grind
  obtain ⟨_, given⟩ := Option.ne_none_iff_exists'.mp there
  rw [get?, free] at given
  simp only [get?, looked]
  grind

/-- What has been written along a route is found along it. -/
theorem find_of_write (written : t.write route content = .ok later) :
    ∃ place, later.find route = .ok (place, .file content) := by
  obtain ⟨ending, approached, written⟩ := bind_eq_ok_iff.mp written
  cases ending with
  | turn => cases written
  | named folder name =>
    dsimp only at written
    split at written
    · cases written
    rename_i plain
    have short : Route.isLongName name = false := by grind [entryNamed]
    have changed : ∀ other, later.get? other =
        if other = folder ++ [name] then some (.file content) else t.get? other := by
      split at written
      · cases written
      · cases written
        exact get?_change (by grind [entryNamed]) (by grind [entryNamed, get?]) _
      · cases written
        exact get?_put (by grind [entryNamed, get?]) _
      · cases written
    -- Only the written place has changed, and it is no folder: the way there is as it was.
    have kept : ∀ place, t.folderFault? place = none → later.folderFault? place = none := by
      intro place
      have := changed place
      grind [folderFault?, entryNamed]
    refine ⟨folder ++ [name], bind_eq_ok_iff.mpr ⟨_, approach_of_folders kept approached, ?_⟩⟩
    refine bind_eq_ok_iff.mpr ⟨.file content, ?_, ?_⟩
    · rw [entryNamed, short, changed, if_pos rfl]
      rfl
    · rw [Bool.eq_false_iff.mpr plain]
      rfl

end FileTree

/-! ## Reloading -/

namespace SettingsFile

open Settings

variable {settings : Settings} {file : FileName} {text : String} {world w : World}
  {entries : List (Value × Value)}

/-- The values are the same, where the entries of a mapping have no order. -/
def Unordered (first second : Value) : Prop :=
  first = second ∨ ∃ entries others, first = .dict entries ∧ second = .dict others ∧
    first.equal second = true

/-- What is read again are the entries that were written, in any order. -/
structure Undone (settings : Settings) (entries : List (Value × Value)) (again : Value → Value) :
    Prop where
  same : ∀ entry ∈ settings.declared, Unordered (again entry.2) entry.2
  listed : entries.Perm (settings.declared.map fun entry => (entry.1, again entry.2))

/-- The settings have been written to the file, where they are found, and reading them undoes
writing them. -/
structure Stored (settings : Settings) (file : FileName) (text : String) (w : World) :
    Prop where
  written : Document.write (.dict settings.declared) = .ok text
  whole : FileName.isBroken file.text = false
  held : w.files.read (w.route file.text) = .ok (.text text)
  there : ∃ place, (Act.fromHome file.path).perform w = (.ok place, w) ∧
    (Act.leadsSomewhere place.render).perform w = (.ok true, w)
  undone : ∃ entries again, Document.read (String.ofList (Text.unifyLines text.toList)) =
    .ok (.dict entries) ∧ Undone settings entries again

theorem declared_fits (s : Settings) : ∀ e ∈ s.declared,
    ∃ name ∈ known, e.1 = .text name ∧ name ≠ "extra" ∧ Fits name e.2 := by
  simp [declared, known, Fits]

theorem fits_of_unordered {name : String} {first second : Value} (same : Unordered first second)
    (fits : Fits name second) : Fits name first := by
  rcases same with rfl | ⟨_, _, rfl, rfl, -⟩
  · exact fits
  · unfold Fits at fits ⊢
    split <;> simp_all

theorem namedEntries_of_texts (texts : ∀ e ∈ entries, ∃ name, e.1 = .text name) :
    ∃ named, namedEntries entries = .ok named ∧ entries = named.map fun e => (.text e.1, e.2) := by
  induction entries with
  | nil => exact ⟨[], rfl, rfl⟩
  | cons e _ ih =>
    obtain ⟨⟨name, text⟩, later⟩ := forall_mem_cons.mp texts
    obtain ⟨_, v⟩ := e
    cases text
    obtain ⟨named, read, rfl⟩ := ih later
    refine ⟨(name, v) :: named, ?_, rfl⟩
    rw [namedEntries, read]
    rfl

/-- The same fields have the same values. -/
def SameFields (first second : Settings) : Prop :=
  ∀ e ∈ second.declared, ∃ v, (e.1, v) ∈ first.declared ∧ Unordered v e.2

theorem nodup_keys_declared (s : Settings) : (s.declared.map Prod.fst).Nodup := by
  simp [declared]

/-- What is read again has the same fields, and no further entries. -/
theorem settingsOf_undone {again : Value → Value} (undone : Undone settings entries again) :
    ∃ reloaded, settingsOf (.dict entries) = .ok reloaded ∧ reloaded.extra = [] ∧
      SameFields reloaded settings := by
  have sorts : ∀ e ∈ entries, ∃ name ∈ known, e.1 = .text name ∧ name ≠ "extra" ∧
      Fits name e.2 := by
    intro e mem
    obtain ⟨source, inside, rfl⟩ := mem_map.mp (undone.listed.mem_iff.mp mem)
    obtain ⟨name, listed, text, own, fits⟩ := declared_fits settings source inside
    exact ⟨name, listed, text, own, fits_of_unordered (undone.same source inside) fits⟩
  obtain ⟨named, read, rfl⟩ := namedEntries_of_texts fun e mem =>
    (sorts e mem).imp fun _ sort => sort.2.1
  rw [forall_mem_map] at sorts
  have distinct : (named.map Prod.fst).Nodup := by
    have keys := undone.listed.map Prod.fst
    rw [map_map] at keys
    have texts : ((named.map Prod.fst).map Value.text).Nodup := by
      rw [map_map]
      exact keys.nodup_iff.mpr (nodup_keys_declared settings)
    exact Pairwise.of_map Value.text (fun _ _ differ same => differ (congrArg _ same)) texts
  have plain : (ofEntries named).extra = [] := extra_ofEntries fun e mem => by
    obtain ⟨name, listed, ⟨⟩, -⟩ := sorts e mem
    exact listed
  refine ⟨ofEntries named, ?_, plain, fun e inside => ⟨again e.2, ?_, undone.same _ inside⟩⟩
  · rw [settingsOf, read]
    rfl
  · obtain ⟨⟨name, v⟩, mem, same⟩ := mem_map.mp
      (undone.listed.mem_iff.mpr (mem_map_of_mem inside))
    obtain ⟨_, -, ⟨⟩, own, -⟩ := sorts _ mem
    have holds : (ofEntries named).Holds name v := holds_foldl distinct
      (fun e mem => by obtain ⟨_, -, ⟨⟩, -, fits⟩ := sorts e mem; exact fits) own
      (.inl mem)
    rw [Holds, plain, Settings.entries, mem_append] at holds
    rw [← same]
    rcases holds with (declared | further) | none
    · exact declared
    · cases mem_singleton.mp further
      exact absurd rfl own
    · cases none

theorem perform_routeOf (whole : FileName.isBroken text = false) (w : World) :
    (Act.routeOf text).perform w = (.ok (w.route text), w) := by
  rw [Act.routeOf, whole]
  rfl

theorem perform_load (stored : Stored settings file text w) :
    ∃ reloaded, (load file).perform w = (.ok (some reloaded), w) ∧ reloaded.extra = [] ∧
      SameFields reloaded settings := by
  obtain ⟨entries, _, understood, undone⟩ := stored.undone
  obtain ⟨reloaded, made, plain, same⟩ := settingsOf_undone undone
  obtain ⟨_, led, there⟩ := stored.there
  have document : (read file).perform w = (.ok (.dict entries), w) := by
    have text' : Act.ofExcept (Act.textOf (.text text)) =
      pure (String.ofList (Text.unifyLines text.toList)) := rfl
    rw [SettingsFile.read, Act.perform_get_bind, Act.perform_bind_ok (perform_routeOf stored.whole w),
      stored.held]
    dsimp only
    rw [text', pure_bind, understood]
    rfl
  have filled : (Value.dict entries).truthy = true := by
    cases entries with
    | nil => cases undone.listed.length_eq
    | cons => rfl
  refine ⟨reloaded, ?_, plain, same⟩
  rw [load, Act.perform_bind_ok led, Act.perform_bind_ok there]
  rw [if_neg (by decide), Act.perform_bind_ok document, if_pos filled, made]
  rfl

section

-- Reading undoes writing, and the path seen from the working directory spells the route of the name.
variable {before : World} (saved : (save settings file).perform before = (.ok (), w))
  (written : Document.write (.dict settings.declared) = .ok text)
  (undone : ∃ entries again, Document.read (String.ofList (Text.unifyLines text.toList)) =
    .ok (.dict entries) ∧ Undone settings entries again)
  (spelled : ∀ place, (Act.fromHome file.path).perform before = (.ok place, before) →
    FileName.isBroken place.render = false ∧ before.route place.render = before.route file.text)

include saved written undone spelled

/-- What has been saved is stored. -/
theorem stored_of_saved : Stored settings file text w := by
  rw [save, write, store, written] at saved
  dsimp only at saved
  rw [Act.writeFile, Act.perform_get_bind] at saved
  cases whole : FileName.isBroken file.text with
  | true =>
    rw [Act.routeOf, whole] at saved
    cases saved
  | false =>
    rw [Act.perform_bind_ok (perform_routeOf whole before)] at saved
    rcases put : before.files.write (before.route file.text) (.text text) with _ | later <;>
      rw [put] at saved <;> cases saved
    obtain ⟨place, found⟩ := FileTree.find_of_write put
    obtain ⟨seen, led, led'⟩ : ∃ seen,
        (Act.fromHome file.path).perform before = (.ok seen, before) ∧
        (Act.fromHome file.path).perform { before with files := later } =
          (.ok seen, { before with files := later }) := by
      rw [Act.fromHome, Act.perform_get_bind, Act.perform_get_bind]
      dsimp only
      split <;> exact ⟨_, rfl, rfl⟩
    obtain ⟨sound, same⟩ := spelled seen led
    refine ⟨written, whole, bind_eq_ok_iff.mpr ⟨_, found, rfl⟩, ⟨seen, led', ?_⟩, undone⟩
    have looked : (Act.found seen.render).perform { before with files := later } =
        (.ok (.ok (place, .file (.text text))), { before with files := later }) := by
      rw [Act.found, Act.perform_get_bind, sound]
      exact congrArg (Except.ok ·, _) ((congrArg later.find same).trans found)
    exact Act.perform_bind_ok looked

/-- **What has just been saved is loaded**, without the further entries. -/
theorem perform_save_load :
    ∃ reloaded, (do save settings file; load file : Act (Option Settings)).perform before =
      (.ok (some reloaded), w) ∧ reloaded.extra = [] ∧ SameFields reloaded settings := by
  obtain ⟨reloaded, loaded, same⟩ := perform_load (stored_of_saved saved written undone spelled)
  exact ⟨reloaded, (Act.perform_bind_ok saved).trans loaded, same⟩

end

/-- **Saving and loading again loses nothing, or it does.** Settings are made from entries with
different names and of the sorts that the names ask for, and what is written for them is the
document of the fields. If a file holds that document, then it is loaded. The settings are the same
again and every entry was found in them, exactly if all names are known and the name of the further
entries does not stand for some. -/
theorem nothing_lost_iff {given : List (String × Value)} (distinct : (given.map Prod.fst).Nodup)
    (fits : ∀ entry ∈ given, Fits entry.1 entry.2)
    (stored : Stored (ofEntries given) file text world) :
    save (ofEntries given) file = Act.writeFile file.text (.text text) ∧
    ∃ reloaded, (load file).perform world = (.ok (some reloaded), world) ∧
      ((SameFields reloaded (ofEntries given) ∧ reloaded.extra = (ofEntries given).extra ∧
          ∀ entry ∈ given, (ofEntries given).Holds entry.1 entry.2) ↔
        ∀ entry ∈ given, entry.1 ∈ known ∧ (entry.1 = "extra" → entry.2 = .dict [])) := by
  obtain ⟨reloaded, loaded, plain, same⟩ := perform_load stored
  refine ⟨?_, reloaded, loaded, fun ⟨_, extra, holds⟩ entry member => ?_, fun all => ?_⟩
  · rw [save, write, store, stored.written]
  · have found := holds entry member
    rw [plain] at extra
    rw [Holds, ← extra] at found
    have inside := found.resolve_right not_mem_nil
    refine ⟨?_, fun own => ?_⟩
    · simp only [Settings.entries, declared, cons_append, nil_append, mem_cons,
        Prod.mk.injEq, Value.text.injEq, not_mem_nil, or_false] at inside
      simp only [known, mem_cons]
      grind
    · rw [own] at inside
      simpa [Settings.entries, declared, ← extra] using inside
  · have none : (ofEntries given).extra = [] := extra_ofEntries fun entry member =>
      (all entry member).1
    refine ⟨same, plain.trans none.symm, fun entry member => ?_⟩
    by_cases own : entry.1 = "extra"
    · rw [Holds, own, (all entry member).2 own, Settings.entries, none]
      exact .inl (mem_append_right _ mem_cons_self)
    · exact holds_foldl distinct fits own (.inl member)

/-! ## One file -/

/-- The document of settings without drivers. -/
def plainText : String :=
  "log_level: DEBUG\nmapping: \x7b\x7d\nsave_screenshot: false\nscripts_path: []\n" ++
    "start_key: F10\nstop_key: F9\nweb_drivers: \x7b\x7d\n"

def plainWorld : World :=
  { World.initial Surroundings.bare with files := ⟨[(["c"], .file (.text plainText))]⟩ }

/-- The value is what the document says. -/
def isPlain : Value → Bool
  | .dict [(.text "log_level", .text "DEBUG"), (.text "mapping", .dict []),
      (.text "save_screenshot", .bool false), (.text "scripts_path", .list []),
      (.text "start_key", .text "F10"), (.text "stop_key", .text "F9"),
      (.text "web_drivers", .dict [])] => true
  | _ => false

theorem eq_ok_of_toOption {ε α : Type} {o : Except ε α} {v : α}
    (given : o.toOption = some v) : o = .ok v := by
  cases o <;> cases given
  rfl

theorem stored_plain (same : settings.declared = { initial with webDrivers := [] }.declared) :
    Stored settings (FileName.ofText "c") plainText plainWorld where
  written := by
    rw [same]
    exact eq_ok_of_toOption (by decide +kernel)
  whole := rfl
  held := eq_ok_of_toOption (by decide +kernel)
  there := by
    have found : (plainWorld.files.find (plainWorld.route "c")).isOk = true := by decide +kernel
    exact ⟨Path.ofText "c", rfl, congrArg (Except.ok ·, plainWorld) found⟩
  undone := by
    obtain ⟨v, understood, plain⟩ : ∃ v,
        Document.read (String.ofList (Text.unifyLines plainText.toList)) = .ok v ∧
          isPlain v = true := by
      have understood :
          (Document.read (String.ofList (Text.unifyLines plainText.toList))).toOption.any isPlain =
            true := by decide +kernel
      obtain ⟨v, given, plain⟩ := (Option.any_eq_true _ _).mp understood
      exact ⟨v, eq_ok_of_toOption given, plain⟩
    unfold isPlain at plain
    split at plain
    · refine ⟨_, id, understood, fun _ _ => .inl rfl, ?_⟩
      rw [same]
      have moved {α : Type} (a b c d e f : α) :
          ([a, b, c] ++ [d, e] ++ [f]).Perm [e, d, a, b, c, f] :=
        (perm_append_comm.append_right [f]).trans (.swap e d [a, b, c, f])
      exact .cons _ (moved _ _ _ _ _ _)
    · cases plain

/-- Settings that are all known are the same again. -/
theorem nothing_lost_iff_plain :
    let settings := ofEntries [("web_drivers", .dict [])]
    Stored settings (FileName.ofText "c") plainText plainWorld ∧ ∃ reloaded,
      (load (FileName.ofText "c")).perform plainWorld = (.ok (some reloaded), plainWorld) ∧
        SameFields reloaded settings ∧ reloaded.extra = settings.extra := by
  intro settings
  have stored : Stored settings _ _ _ := stored_plain rfl
  obtain ⟨-, reloaded, loaded, kept⟩ := nothing_lost_iff (by simp) (by simp [Fits]) stored
  obtain ⟨same, extra, -⟩ := kept.mpr (by simp [known])
  exact ⟨stored, reloaded, loaded, same, extra⟩

/-- An entry under a name that is not known is there, and after loading it is not. -/
theorem further_entry_is_lost :
    let settings := ofEntries [("web_drivers", .dict []), ("random", .bool true)]
    settings.extra = [(.text "random", .bool true)] ∧
    save settings (FileName.ofText "c") = Act.writeFile "c" (.text plainText) ∧ ∃ reloaded,
      (load (FileName.ofText "c")).perform plainWorld = (.ok (some reloaded), plainWorld) ∧
        reloaded.extra = [] := by
  intro settings
  have stored : Stored settings _ _ _ := stored_plain rfl
  obtain ⟨reloaded, loaded, extra, -⟩ := perform_load stored
  refine ⟨rfl, ?_, reloaded, loaded, extra⟩
  rw [save, write, store, stored.written]
  rfl

end SettingsFile

end DeviceScript
