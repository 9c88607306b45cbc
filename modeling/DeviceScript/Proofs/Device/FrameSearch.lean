import DeviceScript.Proofs.Lua.Hints

/-!
# Search through frames

A browser looks for an element by going into frames and out of them again, and it always looks where
it is. So the search is right only as long as it knows where that is: every frame that does not have
the element has to be left, with all frames inside it, before the next one is entered.

`Frame.ways` lists the frames below a frame in the order in which they stand in the page. The search
goes through them in this order: it ends in the first one that has the element, or where it began
(`perform_search`).

Main statement: the search finds an element exactly if the frame it starts in, or one inside it, has
it, and where the browser is after that (`seek_ends_in_first`).
-/

namespace DeviceScript

open List

variable (frame : Frame) (n : Nat)

namespace Frame

/-! ## The frames below a frame -/

def has (frame : Frame) (way text : Value) : Bool := (frame.element? way text).isSome

/-- What is reached by entering frames by their numbers is a frame with the element. -/
def hasAt (frame : Frame) (way text : Value) (path : List Nat) : Bool :=
  (frame.follow? path).any fun inner => inner.has way text

mutual

/-- The ways to a frame and to all those inside it: the frame itself comes first, and then one inner
frame after another, each with all that is inside it. -/
def ways : Frame → List (List Nat)
  | .frame _ _ frames => [] :: waysFrom 0 frames

/-- The ways into some frames, the first of which has the given number. -/
def waysFrom (n : Nat) : List Frame → List (List Nat)
  | [] => []
  | inner :: frames => inner.ways.map (n :: ·) ++ waysFrom (n + 1) frames

end

theorem ways_eq : frame.ways = [] :: waysFrom 0 frame.frames := by
  cases frame
  rw [ways, frames]

theorem follow?_cons (numbers : List Nat) :
    frame.follow? (n :: numbers) = frame.frames[n]?.bind (·.follow? numbers) := by
  rw [follow?]
  cases frame.frames[n]? <;> rfl

theorem follow?_append (first second : List Nat) :
    frame.follow? (first ++ second) = (frame.follow? first).bind (·.follow? second) := by
  induction first generalizing frame with
  | nil => rfl
  | cons n _ ih =>
    rw [cons_append, follow?_cons, follow?_cons]
    cases frame.frames[n]? with
    | none => rfl
    | some inner => exact ih inner

theorem mem_waysFrom_iff (frames : List Frame) (path : List Nat) :
    path ∈ waysFrom n frames ↔ ∃ i inner rest,
      frames[i]? = some inner ∧ rest ∈ inner.ways ∧ path = (n + i) :: rest := by
  induction frames generalizing n with
  | nil => simp [waysFrom]
  | cons first _ ih =>
    rw [waysFrom, mem_append, ih, mem_map]
    constructor
    · rintro (⟨rest, mem, rfl⟩ | ⟨i, inner, rest, at_, mem, rfl⟩)
      · exact ⟨0, first, rest, rfl, mem, rfl⟩
      · exact ⟨i + 1, inner, rest, at_, mem, by congr 1; omega⟩
    · rintro ⟨i, inner, rest, at_, mem, rfl⟩
      cases i with
      | zero =>
        obtain rfl : first = inner := Option.some.inj at_
        exact .inl ⟨rest, mem, rfl⟩
      | succ i => exact .inr ⟨i, inner, rest, at_, mem, by congr 1; omega⟩

/-- All frames below a frame are listed, and nothing else. -/
theorem mem_ways_iff (path : List Nat) :
    path ∈ frame.ways ↔ (frame.follow? path).isSome = true := by
  induction path generalizing frame with
  | nil => simp [ways_eq, follow?]
  | cons n path ih =>
    rw [ways_eq, mem_cons, mem_waysFrom_iff, follow?_cons]
    constructor
    · rintro (impossible | ⟨_, inner, _, at_, mem, same⟩)
      · cases impossible
      · rw [Nat.zero_add] at same
        cases same
        rw [at_]
        exact (ih inner).mp mem
    · intro reached
      cases at_ : frame.frames[n]? with
      | none =>
        rw [at_] at reached
        cases reached
      | some inner =>
        rw [at_] at reached
        refine .inr ⟨n, inner, path, at_, (ih inner).mpr reached, ?_⟩
        rw [Nat.zero_add]

/-! ## The first frame with the element -/

section First

variable (way text s : Value)

/-- The way to the first of the frames below a frame that has the element. -/
def first? (frame : Frame) : Option (List Nat) := frame.ways.find? (frame.hasAt way text)

/-- The way to the first frame with the element that is in one of the frames from a number on. -/
def firstFrom? (parent : Frame) (n : Nat) (frames : List Frame) : Option (List Nat) :=
  (waysFrom n frames).find? (parent.hasAt way text)

theorem hasAt_cons {parent inner : Frame} {n : Nat} (at_ : parent.frames[n]? = some inner)
    (path : List Nat) : parent.hasAt way s (n :: path) = inner.hasAt way s path := by
  rw [hasAt, follow?_cons, at_]
  rfl

theorem first?_eq : frame.first? way s =
      if frame.has way s then some [] else firstFrom? way s frame 0 frame.frames := by
  have here : frame.hasAt way s [] = frame.has way s := rfl
  rw [first?, ways_eq, find?_cons, here]
  cases frame.has way s <;> rfl

/-- An inner frame comes with all that is inside it before the next one. -/
theorem firstFrom?_cons {parent inner : Frame} {n : Nat} {frames : List Frame}
    (at_ : parent.frames[n]? = some inner) :
    firstFrom? way s parent n (inner :: frames) =
      ((inner.first? way s).map (n :: ·)).or
        (firstFrom? way s parent (n + 1) frames) := by
  have inside : parent.hasAt way s ∘ (n :: ·) = inner.hasAt way s :=
    funext fun path => hasAt_cons way s at_ path
  rw [firstFrom?, waysFrom, find?_append, find?_map, inside]
  rfl

end First

/-! ## The way of the browser -/

section Search

variable (page : Frame) (way text s : Value)

theorem perform_current_bind {α : Type} (f : Frame → Roaming α) {inside : List Nat}
    {frame : Frame} (here : page.follow? inside = some frame) (w : World) :
    (current page >>= f).perform inside w = (f frame).perform inside w := by
  show (f ((page.follow? inside).getD page)).perform inside w = _
  rw [here]
  rfl

/-- To ask something of a browser does not move it. -/
theorem perform_request_bind {α : Type} (verb : String) (args : List Value)
    (f : Unit → Roaming α) (inside : List Nat) (w : World) :
    ∃ w', (ActOn.ofAct (Act.request .browser verb args []) >>= f).perform inside w =
      (f ()).perform inside w' :=
  ⟨_, rfl⟩

theorem perform_enter (inner : Frame) (inside : List Nat) (w : World) :
    ∃ w', (enter n inner).perform inside w = (.ok (), inside ++ [n], w') :=
  ⟨_, rfl⟩

theorem perform_leave (inside : List Nat) (n : Nat) (w : World) :
    ∃ w', leave.perform (inside ++ [n]) w = (.ok (), inside, w') := by
  obtain ⟨w', left⟩ : ∃ w', leave.perform (inside ++ [n]) w =
      (.ok (), (inside ++ [n]).dropLast, w') := ⟨_, rfl⟩
  rw [dropLast_concat] at left
  exact ⟨w', left⟩

/-- The search ends with an answer: in the first frame with the element, or where it began. -/
def EndsIn (search : Roaming Bool) (inside : List Nat) (first? : Option (List Nat)) : Prop :=
  ∀ w, ∃ w', search.perform inside w = (.ok first?.isSome, inside ++ first?.getD [], w')

mutual

/-- **The search goes through the frames in order.** From a frame in which the browser is, it comes
to the first frame with the element, and if there is none, it comes back. -/
theorem perform_search : ∀ (frame : Frame) (inside : List Nat), page.follow? inside = some frame →
    EndsIn (search page way s frame) inside (frame.first? way s)
  | .frame id elements frames, inside, here => by
    intro w
    rw [first?_eq, search, perform_current_bind page _ here, has]
    split
    · refine ⟨w, ?_⟩
      rw [Option.getD_some, append_nil]
      rfl
    · obtain ⟨asked, asking⟩ := perform_request_bind "find_elements"
        [.text "tag name", .text "iframe"] (fun _ => searchAll page way s 0 frames) inside w
      rw [asking]
      exact perform_searchAll frames _ 0 inside here rfl asked

/-- The frames from a number on are searched one after another. Each one in which the element is not
found has been left again before the next one is entered. -/
theorem perform_searchAll : ∀ (frames : List Frame) (parent : Frame) (n : Nat)
    (inside : List Nat), page.follow? inside = some parent →
      parent.frames.drop n = frames →
        EndsIn (searchAll page way s n frames) inside
          (firstFrom? way s parent n frames)
  | [], _, _, inside, _, _ => by
    intro w
    refine ⟨w, ?_⟩
    rw [searchAll, firstFrom?, waysFrom, find?_nil, Option.getD_none, append_nil]
    rfl
  | inner :: frames, parent, n, inside, here, left => by
    intro w
    have at_ : parent.frames[n]? = some inner := by
      rw [← head?_drop, left, head?_cons]
    have there : page.follow? (inside ++ [n]) = some inner := by
      rw [follow?_append, here, Option.bind_some, follow?_cons, at_]
      rfl
    have behind : parent.frames.drop (n + 1) = frames := by
      rw [← tail_drop, left, tail_cons]
    obtain ⟨entered, entering⟩ := perform_enter n inner inside w
    obtain ⟨searched, searching⟩ := perform_search inner (inside ++ [n]) there entered
    rw [searchAll, ActOn.perform_bind, entering]
    dsimp only
    rw [ActOn.perform_bind, searching, firstFrom?_cons way s at_]
    cases inner.first? way s with
    | some =>
      refine ⟨searched, ?_⟩
      rw [Option.map_some, Option.some_or, Option.getD_some, Option.getD_some, append_assoc]
      rfl
    | none =>
      obtain ⟨back, leaving⟩ := perform_leave inside n searched
      rw [Option.getD_none, append_nil, Option.map_none, Option.none_or]
      show ∃ w', (leave >>= fun _ => searchAll page way s (n + 1) frames).perform
        (inside ++ [n]) searched = _
      rw [ActOn.perform_bind, leaving]
      exact perform_searchAll frames parent (n + 1) inside here behind back

end

end Search

theorem first?_isSome_iff (way s : Value) : (frame.first? way s).isSome = true ↔
      ∃ path inner, frame.follow? path = some inner ∧ inner.has way s = true := by
  rw [first?, find?_isSome]
  constructor
  · rintro ⟨path, -, found⟩
    rw [hasAt] at found
    cases reached : frame.follow? path with
    | none =>
      rw [reached] at found
      cases found
    | some inner =>
      rw [reached] at found
      exact ⟨path, inner, reached, found⟩
  · rintro ⟨path, inner, reached, has⟩
    refine ⟨path, (mem_ways_iff frame path).mpr (by rw [reached]; rfl), ?_⟩
    rw [hasAt, reached]
    exact has

end Frame

/-! ## Main statement -/

/-- **Where a search ends.** Wherever a browser is in its page, a search for an element comes to an
end with an answer. The element is found exactly if the frame in which the browser is has it, or one
inside that frame. Then the browser is in the first such frame in the order of the page, and
otherwise it is where it was. -/
theorem seek_ends_in_first (page : Frame) {inside : List Nat} {frame : Frame}
    (here : page.follow? inside = some frame) (way text : Value) (world : World) :
    ∃ found inside' after,
      (Browser.seek way text page).perform inside world = (.ok found, inside', after) ∧
      (found = true ↔
        ∃ path inner, frame.follow? path = some inner ∧ inner.has way text = true) ∧
      (found = true → ∃ earlier path later, frame.ways = earlier ++ path :: later ∧
        frame.hasAt way text path = true ∧
        (∀ other ∈ earlier, frame.hasAt way text other = false) ∧ inside' = inside ++ path) ∧
      (found = false → inside' = inside) := by
  obtain ⟨after, searched⟩ := Frame.perform_search page way text frame inside here world
  refine ⟨(Frame.first? way text frame).isSome, inside ++ (Frame.first? way text frame).getD [],
    after, ?_, Frame.first?_isSome_iff frame way text, fun found => ?_, fun lost => ?_⟩
  · rw [Browser.seek, Frame.perform_current_bind page _ here, searched]
  · obtain ⟨path, first⟩ := Option.isSome_iff_exists.mp found
    obtain ⟨has, earlier, later, ways, none⟩ := find?_eq_some_iff_append.mp first
    refine ⟨earlier, path, later, ways, has, fun other member => ?_, by rw [first]; rfl⟩
    simpa using none other member
  · rw [Option.isSome_eq_false_iff, Option.isNone_iff_eq_none] at lost
    rw [lost, Option.getD_none, append_nil]

/-- A page with two frames. The second one has an empty frame and one with the element inside it. -/
def nestedPage : Frame :=
  .frame (.text "page") [] [.frame (.text "first") [] [], nestedFrame]
where
  /-- The second frame of the page. -/
  nestedFrame : Frame :=
    .frame (.text "second") []
      [.frame (.text "empty") [] [],
        .frame (.text "deeper") [] [.frame (.text "deepest") [(.text "id", .text "go", none)] []]]

/-- From the second frame, the search goes into the empty one and out of it again, and ends two
frames further down. -/
theorem seek_ends_in_first_nestedPage :
    nestedPage.follow? [1] = some nestedPage.nestedFrame ∧
      ∃ after, (Browser.seek (.text "id") (.text "go") nestedPage).perform [1] default =
        (.ok true, [1, 1, 0], after) := by
  have here : nestedPage.follow? [1] = some nestedPage.nestedFrame := rfl
  obtain ⟨found, inside, after, searched, finds, first, -⟩ :=
    seek_ends_in_first nestedPage here (.text "id") (.text "go") default
  have deepest : nestedPage.nestedFrame.hasAt (.text "id") (.text "go") [1, 0] = true := by
    simp [Frame.hasAt, Frame.follow?, Frame.has, Frame.element?, Frame.frames, Frame.elements,
      nestedPage.nestedFrame, Value.equal]
  have only : ∀ path ∈ nestedPage.nestedFrame.ways,
      nestedPage.nestedFrame.hasAt (.text "id") (.text "go") path = true → path = [1, 0] := by
    simp [Frame.ways, Frame.waysFrom, Frame.hasAt, Frame.follow?, Frame.has, Frame.element?,
      Frame.frames, Frame.elements, nestedPage.nestedFrame]
  have there : found = true := finds.mpr ⟨[1, 0], _, rfl, deepest⟩
  obtain ⟨earlier, path, later, ways, has, -, ends⟩ := first there
  refine ⟨here, after, ?_⟩
  rw [searched, there, ends, only path (by rw [ways]; simp) has]
  rfl

end DeviceScript
