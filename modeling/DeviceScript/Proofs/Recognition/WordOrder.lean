import Mathlib.Data.List.Forall2
import DeviceScript.Proofs.Execution.Perform
import DeviceScript.Recognition.Words

/-!
# Which words are found

Words are looked for in reading order: one group after another, and each group from its first word
on. Three searches go by the text of a word. The first takes the word that is the target, the second
one that the target is a part of, and the third the word that is most similar to the target. The
first two stop at the first word that passes, and the third goes through all words and keeps the
best one so far, which only a better one replaces.

The similarity of texts can be measured in any way in which equal texts are similar.

Main statement: which word each of the searches finds, and that a word that the first one finds is
also found by the others, or an earlier or better one (`searches_agree`).
-/

namespace DeviceScript.Words

open List DeviceScript.Text Execution

/-! ## Words as values -/

/-- A word that was read in a picture: its text, and the first and the third corner of its box. -/
structure Word where
  text : String
  first : Int × Int
  third : Int × Int
  deriving DecidableEq

namespace Word

/-- The middle between the two corners, rounded down. -/
def midpoint (word : Word) : Int × Int :=
  ((word.first.1 + word.third.1).fdiv 2, (word.first.2 + word.third.2).fdiv 2)

/-- A new point in the middle of the word. -/
def point (word : Word) (serial : Nat) : Value :=
  .point serial (.int word.midpoint.1) (.int word.midpoint.2)

/-- The value is a corner with whole coordinates. -/
def IsCorner (corner : Int × Int) (v : Value) : Prop :=
  ∃ rest, v.sequence? = some (.int corner.1 :: .int corner.2 :: rest)

/-- The value is the word: its box, which has the two corners, and then its text and what else is
known of it. -/
def IsRead (word : Word) (v : Value) : Prop :=
  ∃ box label rest first second third others known,
    v.sequence? = some (box :: label :: rest) ∧
    box.sequence? = some (first :: second :: third :: others) ∧
    IsCorner word.first first ∧ IsCorner word.third third ∧
    label.sequence? = some (.text word.text :: known)

/-- The items that are looked at stand at the first three places. -/
theorem index_eq_ok (n : Nat) {v x : Value} {xs : List Value} (early : n ≤ 2)
    (sequence : v.sequence? = some xs) (at_ : xs[n]? = some x) : v.index (.int n) = .ok x := by
  have fits : Number.fits Value.lengthBits n = true := by
    obtain rfl | rfl | rfl : n = 0 ∨ n = 1 ∨ n = 2 := by omega
    all_goals decide
  have forward : ¬ (n : Int) < 0 := by omega
  have found (sort : String) : Value.itemAt sort xs n = .ok x := by
    simp [Value.itemAt, fits, forward, at_]
  cases v <;> simp only [Value.sequence?, Option.some.injEq, reduceCtorEq] at sequence
  all_goals
    subst sequence
    simp only [Value.index, Value.whole?, found]

variable {word : Word} {v : Value}

theorem textOf_eq (read : word.IsRead v) : textOf v = .ok (.text word.text) := by
  obtain ⟨_, label, _, _, _, _, _, _, parts, -, -, -, labelled⟩ := read
  have second : v.index (.int 1) = .ok label := index_eq_ok 1 (by decide) parts rfl
  rw [textOf, second]
  exact index_eq_ok 0 (by decide) labelled rfl

theorem truthy_eq_true (read : word.IsRead v) : v.truthy = true := by
  obtain ⟨_, _, _, _, _, _, _, _, parts, -⟩ := read
  cases v <;> simp only [Value.sequence?, Option.some.injEq, reduceCtorEq] at parts
  all_goals
    subst parts
    rfl

theorem middle_eq {box first third : Value} (axis one other : Int)
    (atFirst : box.index (.int 0) = .ok first) (atThird : box.index (.int 2) = .ok third)
    (start : first.index (.int axis) = .ok (.int one))
    (stop : third.index (.int axis) = .ok (.int other)) :
    middle box axis = .ok (.int ((one + other).fdiv 2)) := by
  rw [middle, corner, corner, atFirst, atThird]
  show (first.index (.int axis) >>= fun _ => third.index (.int axis) >>= _) = _
  rw [start, stop]
  rfl

theorem center_eq (read : word.IsRead v) :
    center v = .ok (.int word.midpoint.1, .int word.midpoint.2) := by
  obtain ⟨box, _, _, first, _, third, _, _, parts, corners, ⟨_, isFirst⟩, ⟨_, isThird⟩, -⟩ := read
  have boxed : v.index (.int 0) = .ok box := index_eq_ok 0 (by decide) parts rfl
  have atFirst : box.index (.int 0) = .ok first := index_eq_ok 0 (by decide) corners rfl
  have atThird : box.index (.int 2) = .ok third := index_eq_ok 2 (by decide) corners rfl
  have across := middle_eq 0 word.first.1 word.third.1 atFirst atThird
    (index_eq_ok 0 (by decide) isFirst rfl) (index_eq_ok 0 (by decide) isThird rfl)
  have down := middle_eq 1 word.first.2 word.third.2 atFirst atThird
    (index_eq_ok 1 (by decide) isFirst rfl) (index_eq_ok 1 (by decide) isThird rfl)
  rw [center, boxed]
  show (middle box 0 >>= fun _ => middle box 1 >>= _) = _
  rw [across, down]
  rfl

end Word

/-! ## Reading order -/

/-- The value is what was read in a picture: groups of words. -/
def IsReading (groups : List (List Word)) (result : Value) : Prop :=
  ∃ values : List (List Value), List.Forall₂ (List.Forall₂ Word.IsRead) groups values ∧
    ∃ lists, result.items = .ok lists ∧ List.Forall₂ (fun list values => list.items = .ok values)
      lists values

section Order

variable (test : Value → Except Failure Bool) (measure : Measure) (target : Value)

theorem firstOf_append (words others : List Value) :
    firstOf test (words ++ others) =
      firstOf test words >>= fun found => found.elim (firstOf test others) (.ok ∘ some) := by
  induction words with
  | nil => rfl
  | cons _ _ ih =>
    rw [cons_append, firstOf, firstOf, bind_assoc]
    congr 1
    funext s
    rw [bind_assoc]
    congr 1
    funext passes
    cases passes with
    | true => rfl
    | false => exact ih

/-- Groups are searched like all their words in one list. -/
theorem firstInGroups_eq {lists : List Value} {values : List (List Value)}
    (each : List.Forall₂ (fun list values => list.items = .ok values) lists values) :
    firstInGroups test lists = firstOf test values.flatten := by
  induction each with
  | nil => rfl
  | cons items _ ih =>
    rw [firstInGroups, items, flatten_cons, firstOf_append]
    show (firstOf test _ >>= _) = _
    congr 1
    funext found
    cases found with
    | none => exact ih
    | some => rfl

theorem mostSimilar_append (words others : List Value) (best : Option Value × Nat) :
    mostSimilar measure target (words ++ others) best =
      mostSimilar measure target words best >>= mostSimilar measure target others := by
  induction words generalizing best with
  | nil => rfl
  | cons _ _ ih =>
    rw [cons_append, mostSimilar, mostSimilar]
    simp only [ih, bind_assoc]

theorem mostSimilarInGroups_eq {lists : List Value} {values : List (List Value)}
    (each : List.Forall₂ (fun list values => list.items = .ok values) lists values)
    (best : Option Value × Nat) :
    mostSimilarInGroups measure target lists best =
      mostSimilar measure target values.flatten best := by
  induction each generalizing best with
  | nil => rfl
  | cons items _ ih =>
    rw [mostSimilarInGroups, items, flatten_cons, mostSimilar_append]
    show (mostSimilar measure target _ best >>= _) = _
    congr 1
    funext best
    exact ih best

end Order

/-! ## First words -/

/-- What is found is the value of the word. -/
def HasFound (found : Except Failure (Option Value)) (word : Option Word) : Prop :=
  ∃ v, found = .ok v ∧ Option.Rel Word.IsRead word v

/-- The action ends with a new point in the middle of the word, or with nothing if there is none. -/
def Finds (act : Act Value) (word : Option Word) : Prop :=
  ∀ w, ∃ w', act.perform w = (.ok (word.elim .none (·.point w.serials)), w')

theorem HasFound.finds {found : Except Failure (Option Value)} {word : Option Word}
    (has : HasFound found word) : Finds (point found) word := by
  obtain ⟨_, rfl, related⟩ := has
  intro w
  cases related with
  | none => exact ⟨w, rfl⟩
  | some read =>
    refine ⟨{ w with serials := w.serials + 1 }, ?_⟩
    rw [point]
    show (Act.ofExcept (center _) >>= _).perform w = _
    rw [Word.center_eq read]
    rfl

section First

variable {test : Value → Except Failure Bool} {passes : Word → Bool}
variable (tests : ∀ word : Word, test (.text word.text) = .ok (passes word))

include tests

theorem hasFound_firstOf {words : List Word} {vs : List Value}
    (read : List.Forall₂ Word.IsRead words vs) :
    HasFound (firstOf test vs) (words.find? passes) := by
  induction read with
  | nil => exact ⟨none, rfl, .none⟩
  | @cons word v words vs here read ih =>
    have tested : firstOf test (v :: vs) =
        if passes word then .ok (some v) else firstOf test vs := by
      rw [firstOf, Word.textOf_eq here]
      show (test (.text word.text) >>= _) = _
      rw [tests]
      rfl
    rw [tested, find?_cons]
    cases passes word with
    | true => exact ⟨some v, rfl, .some here⟩
    | false => exact ih

theorem hasFound_first {groups : List (List Word)} {result : Value}
    (reading : IsReading groups result) :
    HasFound (first test result) (groups.flatten.find? passes) := by
  obtain ⟨values, read, _, items, each⟩ := reading
  have order : first test result = firstOf test values.flatten := by
    rw [first, items, ← firstInGroups_eq test each]
    rfl
  rw [order]
  exact hasFound_firstOf tests (rel_flatten read)

end First

/-! ## The most similar word -/

section Best

variable (score : Word → Nat)

/-- The word has a score, and no other word of them surpasses it. -/
def IsBest (words : List Word) (word : Word) : Prop :=
  0 < score word ∧ ∀ other ∈ words, score other ≤ score word

instance (words : List Word) : DecidablePred (IsBest score words) :=
  fun _ => inferInstanceAs (Decidable (_ ∧ _))

/-- The best of some words, which is the first one of the highest score, and that score. There is
none if no word has a score. -/
def Leads (words : List Word) : Option Word → Nat → Prop
  | none, top => top = 0 ∧ ∀ word ∈ words, score word = 0
  | some leader, top => 0 < top ∧ score leader = top ∧ ∃ before after,
      words = before ++ leader :: after ∧ (∀ word ∈ before, score word < top) ∧
        ∀ word ∈ after, score word ≤ top

variable {score} {words : List Word} {leader : Option Word} {top : Nat}

theorem Leads.le_top (leads : Leads score words leader top) : ∀ word ∈ words, score word ≤ top := by
  intro word mem
  cases leader with
  | none => exact Nat.le_of_eq ((leads.2 word mem).trans leads.1.symm)
  | some =>
    obtain ⟨-, reached, _, _, rfl, less, most⟩ := leads
    rcases mem_append.mp mem with inside | inside
    · exact Nat.le_of_lt (less word inside)
    · rcases mem_cons.mp inside with rfl | inside
      · exact Nat.le_of_eq reached
      · exact most word inside

/-- A word takes the lead only if its score is higher. -/
theorem Leads.append_singleton (leads : Leads score words leader top) (word : Word) :
    Leads score (words ++ [word]) (if top < score word then some word else leader)
      (if top < score word then score word else top) := by
  have most := leads.le_top
  split
  next higher =>
    refine ⟨by omega, rfl, words, [], rfl, fun other mem => ?_, forall_mem_nil _⟩
    exact Nat.lt_of_le_of_lt (most other mem) higher
  next lower =>
    rw [Nat.not_lt] at lower
    cases leader with
    | none =>
      refine ⟨leads.1, forall_mem_append.mpr ⟨leads.2, forall_mem_singleton.mpr ?_⟩⟩
      exact Nat.le_zero.mp (leads.1 ▸ lower)
    | some =>
      obtain ⟨positive, reached, before, after, rfl, less, most⟩ := leads
      refine ⟨positive, reached, before, after ++ [word], ?_, less,
        forall_mem_append.mpr ⟨most, forall_mem_singleton.mpr lower⟩⟩
      rw [append_assoc, cons_append]

/-- The leader is the first of the best words. -/
theorem Leads.find?_eq (leads : Leads score words leader top) :
    words.find? (fun word => IsBest score words word) = leader := by
  have most := leads.le_top
  cases leader with
  | none =>
    refine find?_eq_none.mpr fun word mem => ?_
    rw [decide_eq_true_iff]
    exact fun best => Nat.ne_of_gt best.1 (leads.2 word mem)
  | some leader =>
    obtain ⟨positive, rfl, before, after, split, less, -⟩ := leads
    refine find?_eq_some_iff_append.mpr ⟨decide_eq_true ⟨positive, most⟩, before, after, split,
      fun word inside => ?_⟩
    rw [Bool.not_eq_true', decide_eq_false_iff_not]
    intro best
    have inside' : leader ∈ words := split ▸ mem_append_right before mem_cons_self
    exact Nat.not_le_of_gt (less word inside) (best.2 leader inside')

end Best

section Similar

/-- How similar a word is to a target, without regard to case. -/
def scoreOf (measure : Measure) (target : String) (word : Word) : Nat :=
  measure (lowerCase target) (lowerCase word.text)

variable {measure : Measure} {target : String}

/-- The search goes on from the best of the words that it has passed. -/
theorem mostSimilar_eq_ok {passed words : List Word} {vs : List Value}
    (read : List.Forall₂ Word.IsRead words vs) {leader : Option Word} {best : Option Value}
    (related : Option.Rel Word.IsRead leader best) {top : Nat}
    (leads : Leads (scoreOf measure target) passed leader top) :
    ∃ leader' best' top', mostSimilar measure (.text target) vs (best, top) =
        .ok (best', top') ∧ Option.Rel Word.IsRead leader' best' ∧
      Leads (scoreOf measure target) (passed ++ words) leader' top' := by
  induction read generalizing passed leader best top with
  | nil => exact ⟨leader, best, top, rfl, related, by rwa [append_nil]⟩
  | @cons word v words vs here read ih =>
    have next := leads.append_singleton word
    rw [append_cons, mostSimilar, Word.textOf_eq here]
    show ∃ _ _ _, mostSimilar measure (.text target) vs
      (if top < scoreOf measure target word then _ else _) = _ ∧ _
    split <;> rename_i higher
    · rw [if_pos higher, if_pos higher] at next
      exact ih (.some here) next
    · rw [if_neg higher, if_neg higher] at next
      exact ih related next

theorem hasFound_similar (measure : Measure) (target : String) {groups : List (List Word)}
    {result : Value} (reading : IsReading groups result) :
    ∃ leader top, Leads (scoreOf measure target) groups.flatten leader top ∧
      HasFound (similar measure result (.text target)) leader := by
  obtain ⟨_, read, lists, items, each⟩ := reading
  have start : Leads (scoreOf measure target) [] none 0 := ⟨rfl, forall_mem_nil _⟩
  obtain ⟨leader, best, top, searched, related, leads⟩ :=
    mostSimilar_eq_ok (rel_flatten read) .none start
  have truthy : best.filter Value.truthy = best := by
    cases related with
    | none => rfl
    | some read => exact Option.filter_some_pos (Word.truthy_eq_true read)
  refine ⟨leader, top, leads, best, ?_, related⟩
  rw [similar, items]
  show (mostSimilarInGroups measure (.text target) lists (none, 0) >>= _) = _
  rw [mostSimilarInGroups_eq _ _ each, searched]
  exact congrArg Except.ok truthy

end Similar

/-! ## Main statement -/

theorem hasPiece_self (s : String) : hasPiece s s = true := by
  rw [hasPiece]
  cases s.toList with
  | nil => rfl
  | cons =>
    rw [cutAt?, if_pos ( isPrefixOf_iff_prefix.mpr prefix_rfl)]
    rfl

/-- **What the searches find.** Let groups of words be read in a picture, let a target be given, and
let similarity be measured in any way in which equal texts are similar. Then every search ends, with
the middle of the word that it finds or with nothing. The first search finds the first word that is
the target. The second one finds the first word that has the target in it, without regard to case.
The third one finds the first of the words that are most similar to the target, if any is similar.
Where the first one finds a word, the second one finds the same or an earlier one, and the third one
does find a word. -/
theorem searches_agree {measure : Measure} (similarToItself : ∀ text, 0 < measure text text)
    {groups : List (List Word)} {result : Value} (reading : IsReading groups result)
    (target : String) :
    let words := groups.flatten
    let isTarget := fun word : Word => decide (word.text = target)
    let hasTarget := fun word : Word => hasPiece (lowerCase target) (lowerCase word.text)
    let score := fun word : Word => measure (lowerCase target) (lowerCase word.text)
    let isBest := fun word : Word =>
      decide (0 < score word ∧ ∀ other ∈ words, score other ≤ score word)
    Finds (point (exact result (.text target))) (words.find? isTarget) ∧
      Finds (point (containing result (.text target))) (words.find? hasTarget) ∧
      Finds (point (similar measure result (.text target))) (words.find? isBest) ∧
      ((words.find? isTarget).isSome = true → (words.find? hasTarget).isSome = true ∧
        words.findIdx hasTarget ≤ words.findIdx isTarget ∧
          (words.find? isBest).isSome = true) := by
  intro words isTarget hasTarget score isBest
  have exactly : HasFound (exact result (.text target)) (words.find? isTarget) :=
    hasFound_first (fun word => by rw [Value.equal]; rfl) reading
  have partly : HasFound (containing result (.text target)) (words.find? hasTarget) :=
    hasFound_first (fun _ => rfl) reading
  obtain ⟨leader, top, leads, similarly⟩ := hasFound_similar measure target reading
  have best : words.find? isBest = leader := leads.find?_eq
  rw [best]
  refine ⟨exactly.finds, partly.finds, similarly.finds, fun found => ?_⟩
  have weaker : ∀ word, isTarget word = true → hasTarget word = true := by
    intro word is
    obtain rfl := of_decide_eq_true is
    exact hasPiece_self _
  obtain ⟨word, member, is⟩ := find?_isSome.mp found
  refine ⟨find?_isSome.mpr ⟨word, member, weaker word is⟩,
    findIdx_le_findIdx fun word _ => weaker word, ?_⟩
  -- The word itself is similar to the target, so the search for similar words has found one.
  cases leader with
  | some leader => rfl
  | none =>
    obtain rfl := of_decide_eq_true is
    exact absurd (leads.2 word member) (Nat.ne_of_gt (similarToItself _))

/-- A word as a picture gives it: its box with four corners, its text and how sure that is. -/
def readWord (s : String) (left top right bottom : Int) : Value :=
  .tuple [.list [.tuple [.int left, .int top], .tuple [.int right, .int top],
    .tuple [.int right, .int bottom], .tuple [.int left, .int bottom]],
    .tuple [.text s, .float 0.9]]

theorem isRead_readWord (s : String) (left top right bottom : Int) :
    Word.IsRead ⟨s, (left, top), (right, bottom)⟩ (readWord s left top right bottom) :=
  ⟨_, _, _, _, _, _, _, _, rfl, rfl, ⟨_, rfl⟩, ⟨_, rfl⟩, rfl⟩

/-- What was read in a picture with two groups of words. -/
def twoGroups : Value :=
  .list [.list [readWord "opened" 0 0 9 4, readWord "OPEN" 10 0 19 4],
    .list [readWord "open" 0 6 9 11]]

/-- The words of both groups. -/
def twoGroupsWords : List (List Word) :=
  [[⟨"opened", (0, 0), (9, 4)⟩, ⟨"OPEN", (10, 0), (19, 4)⟩], [⟨"open", (0, 6), (9, 11)⟩]]

theorem similarity_self (s : String) : similarity s s = 100 := if_pos rfl

/-- The target is part of the first word, is the second one up to case, and is the third one, so the
three searches find three different words. -/
theorem searches_agree_twoGroups :
    (∀ text, 0 < similarity text text) ∧ IsReading twoGroupsWords twoGroups ∧
    (∃ after, (point (exact twoGroups (.text "open"))).perform default =
      (.ok (.point 0 (.int 4) (.int 8)), after)) ∧
    (∃ after, (point (containing twoGroups (.text "open"))).perform default =
      (.ok (.point 0 (.int 4) (.int 2)), after)) ∧
    ∃ after, (point (similar similarity twoGroups (.text "open"))).perform default =
      (.ok (.point 0 (.int 14) (.int 2)), after) := by
  have positive : ∀ text, 0 < similarity text text := fun text => by
    rw [similarity_self]
    decide
  have reading : IsReading twoGroupsWords twoGroups := by
    refine ⟨_, .cons (.cons ?_ (.cons ?_ .nil)) (.cons (.cons ?_ .nil) .nil), _, rfl,
      .cons rfl (.cons rfl .nil)⟩
    all_goals exact isRead_readWord _ _ _ _ _
  obtain ⟨exactly, partly, similarly, -⟩ := searches_agree positive reading "open"
  have best : twoGroupsWords.flatten.find? (fun word => decide (
      0 < similarity (lowerCase "open") (lowerCase word.text) ∧
        ∀ other ∈ twoGroupsWords.flatten, similarity (lowerCase "open") (lowerCase other.text) ≤
          similarity (lowerCase "open") (lowerCase word.text))) =
      some ⟨"OPEN", (10, 0), (19, 4)⟩ := by decide +kernel
  rw [best] at similarly
  exact ⟨positive, reading, exactly default, partly default, similarly default⟩

end DeviceScript.Words
