import Mathlib
import DeviceScript.Proofs.Execution.Perform
import DeviceScript.Recognition.Templates

-- No single module of the library knows that equality of `Float32` is symmetric.

/-!
# What a search for a template reports

A template is found at every place whose score reaches the threshold, and a search puts the centre
of each such place under its score. Hits of one score share an entry, so a search reports one centre
for each score and not one for each place: the entry stands where the first hit of its score stands,
and has the centre of the last one (`putAll_nil_map`). This goes for hits of one size and for hits
of different sizes alike.

Main statement: both searches report one point for each score, and they report all hits, in order,
exactly if no two of them have equal scores (`search_reports_all_iff`). A template of one single
colour, which fits everywhere with the same score, is reported once
(`plain_template_is_reported_once`).
-/

namespace DeviceScript

open List Execution Grid Templates

/-! ## Places that reach the threshold -/

namespace Grid

/-- The place stands before another one, row by row. -/
def Before (place other : Nat × Nat) : Prop :=
  place.2 < other.2 ∨ place.2 = other.2 ∧ place.1 < other.1

/-- The list has all places whose score reaches the threshold, row by row. -/
structure Scores.Reaching (scores : Scores) (threshold : Float32) (found : List (Nat × Nat)) :
    Prop where
  ordered : found.Pairwise Before
  mem_iff : ∀ place, place ∈ found ↔
    place.1 < scores.width ∧ place.2 < scores.height ∧ threshold ≤ scores.score place.1 place.2

instance : Std.Antisymm Before where
  antisymm := by
    unfold Before
    grind

instance : Std.Irrefl Before where
  irrefl := by
    unfold Before
    grind

theorem mem_places_iff {width height : Nat} {place : Nat × Nat} :
    place ∈ places width height ↔ place.1 < width ∧ place.2 < height := by
  obtain ⟨x, y⟩ := place
  simp only [places, mem_flatMap, mem_map, mem_range, Prod.mk.injEq]
  constructor
  · rintro ⟨_, below, _, right, rfl, rfl⟩
    exact ⟨right, below⟩
  · rintro ⟨right, below⟩
    exact ⟨y, below, x, right, rfl, rfl⟩

theorem pairwise_places (width height : Nat) : (places width height).Pairwise Before := by
  refine pairwise_flatMap.mpr ⟨fun row _ => ?_, ?_⟩
  · refine pairwise_map.mpr (pairwise_lt_range.imp fun less => ?_)
    exact .inr ⟨rfl, less⟩
  · refine pairwise_lt_range.imp fun less => ?_
    intro _ mem _ otherMember
    obtain ⟨_, -, rfl⟩ := mem_map.mp mem
    obtain ⟨_, -, rfl⟩ := mem_map.mp otherMember
    exact .inl less

theorem Scores.reaching_filter (scores : Scores) (threshold : Float32) :
    scores.Reaching threshold ((places scores.width scores.height).filter
      fun place => threshold ≤ scores.score place.1 place.2) where
  ordered := (pairwise_places _ _).filter _
  mem_iff place := by rw [mem_filter, mem_places_iff, decide_eq_true_eq, and_assoc]

/-- There is one list of the places that reach the threshold: the one by which they are collected.
-/
theorem Scores.Reaching.eq_filter {scores : Scores} {threshold : Float32} {found : List (Nat × Nat)}
    (reaching : scores.Reaching threshold found) :
    found = (places scores.width scores.height).filter
      fun place => threshold ≤ scores.score place.1 place.2 := by
  have filtered := scores.reaching_filter threshold
  refine reaching.ordered.eq_of_mem_iff filtered.ordered fun place => ?_
  rw [reaching.mem_iff, filtered.mem_iff]

/-- The hits of a template at some places: score and centre of each. -/
def hitsAt (scores : Scores) (template : Grid) (found : List (Nat × Nat)) : Hits :=
  found.map fun place => (scores.score place.1 place.2, template.centre place)

/-- The template in all sizes in which it is looked for, the largest first. -/
def sizes (template : Grid) : List Grid := (List.range sizeCount).reverse.filterMap template.scaled?

/-! ## Hits by their scores -/

namespace Hits

variable (hit : Float32 × (Nat × Nat)) (hits : Hits)

/-- Puts hits under their scores, one after another. -/
def putAll (hits kept : Hits) : Hits := hits.foldl (fun kept hit => Hits.put hit.1 hit.2 kept) kept

/-- The centre of the last of the hits whose score is equal to that of a hit. -/
def lastLike (hits : Hits) (hit : Float32 × (Nat × Nat)) : Nat × Nat :=
  ((hits.reverse.find? fun other => hit.1 == other.1).getD hit).2

/-- The hits without those that have the score of an earlier one. -/
def firsts (hits : Hits) : Hits := hits.eraseDupsBy fun hit earlier => earlier.1 == hit.1

/-- The centres for the scores: in the order of the first hits, and each from the last one. -/
def merged (hits : Hits) : List (Nat × Nat) := hits.firsts.map hits.lastLike

/-- No two hits have equal scores. -/
def Apart (hits : Hits) : Prop := hits.Pairwise fun hit later => (hit.1 == later.1) = false

/-- The hits whose score is not equal to that of a hit. -/
abbrev others (hits : Hits) (hit : Float32 × (Nat × Nat)) : Hits :=
  hits.filter fun other => (hit.1 == other.1) = false

/-- Hits are gone through score by score: after the first hit come those of other scores. -/
theorem score_induction {motive : Hits → Prop} (nil : motive [])
    (cons : ∀ hit (hits : Hits), motive (hits.others hit) → motive (hit :: hits)) :
    ∀ hits, motive hits
  | [] => nil
  | hit :: hits => cons hit hits (score_induction nil cons (others hits hit))
termination_by hits => hits.length
decreasing_by exact Nat.lt_succ_of_le (length_filter_le _ _)

theorem firsts_cons : firsts (hit :: hits) = hit :: firsts (hits.others hit) :=
  eraseDupsBy_cons

theorem putAll_append (later kept : Hits) :
    putAll (hits ++ later) kept = putAll later (putAll hits kept) :=
  foldl_append

theorem lastLike_cons (first hit : Float32 × (Nat × Nat)) (hits : Hits) :
    lastLike (first :: hits) hit =
      if hit.1 == first.1 then hits.lastLike (hit.1, first.2) else hits.lastLike hit := by
  simp only [lastLike, reverse_cons, find?_append, find?_singleton]
  cases hits.reverse.find? fun other => hit.1 == other.1 <;> split <;> rfl

theorem lastLike_cons_self : lastLike (hit :: hits) hit = hits.lastLike hit := by
  rw [lastLike_cons, ite_self]

theorem lastLike_cons_of_ne {first hit : Float32 × (Nat × Nat)} (differ : (hit.1 == first.1) = false)
    (hits : Hits) : lastLike (first :: hits) hit = hits.lastLike hit := by
  rw [lastLike_cons, if_neg (by rw [differ]; exact Bool.false_ne_true)]

/-- An entry takes all hits of its score, and the other hits go behind it. -/
theorem putAll_cons (kept : Hits) :
    putAll hits (hit :: kept) = (hit.1, hits.lastLike hit) :: putAll (hits.others hit) kept := by
  induction hits generalizing hit kept with
  | nil => rfl
  | cons first hits ih =>
    show putAll hits (put first.1 first.2 (hit :: kept)) = _
    rw [put, lastLike_cons, others, filter_cons]
    cases same : hit.1 == first.1 with
    | true => exact ih (hit.1, first.2) kept
    | false => exact ih hit (put first.1 first.2 kept)

/-- A hit that has another score than an earlier one finds the same last hit without those of that
score. -/
theorem lastLike_others {earlier hit : Float32 × (Nat × Nat)}
    (differ : (earlier.1 == hit.1) = false) (hits : Hits) :
    (hits.others earlier).lastLike hit = hits.lastLike hit := by
  rw [lastLike, ← filter_reverse, find?_filter]
  congr 3
  funext other
  rw [Bool.eq_iff_iff, decide_eq_true_eq, decide_eq_true_eq, and_iff_right_iff_imp]
  intro like
  rw [← Bool.not_eq_true]
  intro equal
  rw [BEq.trans equal (BEq.symm like)] at differ
  cases differ

theorem mem_of_mem_firsts {hits : Hits} {hit : Float32 × (Nat × Nat)} (mem : hit ∈ hits.firsts) :
    hit ∈ hits := by
  induction hits using score_induction with
  | nil => exact mem
  | cons _ _ ih =>
    rw [firsts_cons, mem_cons] at mem
    rcases mem with rfl | mem
    · exact mem_cons_self
    · exact mem_cons_of_mem _ (mem_of_mem_filter (ih mem))

/-- **What is kept of hits.** For each score there is one centre. -/
theorem putAll_nil_map : (putAll hits []).map (·.2) = hits.merged := by
  induction hits using score_induction with
  | nil => rfl
  | cons hit hits ih =>
    show (putAll hits [hit]).map (·.2) = _
    rw [putAll_cons, map_cons, ih, merged, merged, firsts_cons, map_cons, lastLike_cons_self]
    congr 1
    refine map_congr_left fun other mem => ?_
    have differ : (hit.1 == other.1) = false := by
      simpa using (mem_filter.mp (mem_of_mem_firsts mem)).2
    rw [lastLike_others differ, lastLike_cons_of_ne (by rw [BEq.comm, differ])]

theorem length_firsts_le : hits.firsts.length ≤ hits.length := by
  induction hits using score_induction with
  | nil => exact le_rfl
  | cons _ _ ih =>
    rw [firsts_cons]
    exact Nat.succ_le_succ (ih.trans (length_filter_le _ _))

theorem firsts_eq_self {hits : Hits} (apart : hits.Apart) : hits.firsts = hits := by
  induction hits with
  | nil => rfl
  | cons hit hits ih =>
    obtain ⟨differ, apart⟩ := pairwise_cons.mp apart
    have all : others hits hit = hits :=
      filter_eq_self.mpr fun other mem => decide_eq_true (differ other mem)
    rw [firsts_cons, all, ih apart]

theorem lastLike_of_apart {hits : Hits} (apart : hits.Apart) {hit : Float32 × (Nat × Nat)}
    (mem : hit ∈ hits) : hits.lastLike hit = hit.2 := by
  induction hits with
  | nil => cases mem
  | cons _ hits ih =>
    obtain ⟨differ, apart⟩ := pairwise_cons.mp apart
    rcases mem_cons.mp mem with rfl | mem
    · have alone : hits.reverse.find? (fun other => hit.1 == other.1) = none := by
        simpa using fun score place => differ (score, place)
      rw [lastLike_cons_self, lastLike, alone]
      rfl
    · rw [lastLike_cons_of_ne (by rw [BEq.comm, differ hit mem])]
      exact ih apart mem

theorem apart_of_length_firsts {hits : Hits} (same : hits.firsts.length = hits.length) :
    hits.Apart := by
  induction hits with
  | nil => exact List.Pairwise.nil
  | cons hit hits ih =>
    rw [firsts_cons, length_cons, length_cons, Nat.add_right_cancel_iff] at same
    have fewer := length_firsts_le (others hits hit)
    have all : ∀ other ∈ hits, decide ((hit.1 == other.1) = false) = true :=
      length_filter_eq_length_iff.mp (le_antisymm (length_filter_le _ _) (same ▸ fewer))
    have whole : others hits hit = hits := filter_eq_self.mpr all
    rw [whole] at same
    exact pairwise_cons.mpr
      ⟨fun other mem => of_decide_eq_true (all other mem), ih same⟩

/-- All hits are kept exactly if no two of them have equal scores. -/
theorem merged_eq_iff : hits.merged = hits.map (·.2) ↔ hits.Apart := by
  constructor
  · intro same
    have lengths := congrArg List.length same
    rw [merged, length_map, length_map] at lengths
    exact apart_of_length_firsts lengths
  · intro apart
    rw [merged, firsts_eq_self apart]
    exact map_congr_left fun hit mem => lastLike_of_apart apart mem

end Hits

/-! ## Searches -/

theorem collect_eq_putAll {scores : Scores} {threshold : Float32} {found : List (Nat × Nat)}
    (reaching : scores.Reaching threshold found) (template : Grid) (kept : Hits) :
    collect threshold template scores kept = (hitsAt scores template found).putAll kept := by
  rw [reaching.eq_filter, hitsAt, Hits.putAll, foldl_map, foldl_filter, collect]
  simp only [decide_eq_true_eq]

section Searches

variable {measure : Measure} {threshold : Float32} {grid template : Grid} {scores : Grid → Scores}
  {found : Grid → List (Nat × Nat)}

/-- What is known of the scores of a template in some size: the measure gives them, and the places
that reach the threshold are listed. -/
def Scored (measure : Measure) (threshold : Float32) (grid : Grid) (scores : Grid → Scores)
    (found : Grid → List (Nat × Nat)) (small : Grid) : Prop :=
  measure grid small = some (scores small) ∧ (scores small).Reaching threshold (found small)

theorem find?_eq_merged (scored : Scored measure threshold grid scores found template) :
    find? measure threshold grid template =
      some (hitsAt (scores template) template (found template)).merged := by
  rw [find?, scored.1, ← Hits.putAll_nil_map, ← collect_eq_putAll scored.2]
  rfl

/-- One size after another adds its hits. -/
theorem foldlM_collectScaled (indices : List Nat) (kept : Hits)
    (scored : ∀ small ∈ indices.filterMap template.scaled?,
      Scored measure threshold grid scores found small) :
    indices.foldlM (collectScaled measure threshold grid template) kept =
      some (Hits.putAll ((indices.filterMap template.scaled?).flatMap fun small =>
        hitsAt (scores small) small (found small)) kept) := by
  induction indices generalizing kept with
  | nil => rfl
  | cons i _ ih =>
    rw [foldlM_cons, collectScaled]
    rw [filterMap_cons] at scored ⊢
    cases scaled : template.scaled? i with
    | none =>
      rw [scaled] at scored
      exact ih kept scored
    | some =>
      rw [scaled] at scored
      obtain ⟨⟨measured, reaching⟩, scored⟩ := forall_mem_cons.mp scored
      dsimp only
      rw [flatMap_cons, Hits.putAll_append, ← collect_eq_putAll reaching, measured]
      exact ih _ scored

theorem findScaled?_eq_merged
    (scored : ∀ small ∈ template.sizes, Scored measure threshold grid scores found small) :
    findScaled? measure threshold grid template =
      some (Hits.merged (template.sizes.flatMap fun small =>
        hitsAt (scores small) small (found small))) := by
  rw [findScaled?, foldlM_collectScaled _ _ scored, ← Hits.putAll_nil_map]
  rfl

end Searches

end Grid

/-! ## Points -/

namespace Templates

/-- New points for centres, in order. -/
def pointsFrom (serials : Nat) : List (Nat × Nat) → List Value
  | [] => []
  | centre :: centres =>
    .point serials (.int centre.1) (.int centre.2) :: pointsFrom (serials + 1) centres

theorem perform_points (centres : List (Nat × Nat)) (w : World) :
    ∃ w', (points centres).perform w = (.ok (pointsFrom w.serials centres), w') := by
  induction centres generalizing w with
  | nil => exact ⟨w, rfl⟩
  | cons _ centres ih =>
    obtain ⟨w', created⟩ := ih { w with serials := w.serials + 1 }
    refine ⟨w', ?_⟩
    rw [points]
    show ((points centres >>= fun rest => pure (_ :: rest)).perform _) = _
    rw [perform_act_bind, created]
    rfl

/-- The value is a picture with the given pixels. -/
def Shows (v : Value) (raster : Raster) : Prop :=
  ∃ data, dataOf v = .ok data ∧ Image.decode data = .ok raster

/-- The picture has colours, or the surroundings compare pictures without them. -/
def Comparable (w : World) (raster : Raster) : Prop :=
  raster.mode = .grey → w.surroundings.comparesGrey = true

theorem perform_brightnessOf {w : World} {raster : Raster} (comparable : Comparable w raster) :
    (brightnessOf raster).perform w = (.ok raster.brightness, w) := by
  have admitted : ¬ (raster.mode = .grey ∧ (!w.surroundings.comparesGrey) = true) := by
    rintro ⟨grey, refused⟩
    rw [comparable grey] at refused
    cases refused
  show (ite _ _ _ : Act Grid).perform w = _
  rw [if_neg admitted]
  rfl

/-- A search that finds centres gives new points for them. -/
theorem perform_search {find : Float32 → Grid → Grid → Option (List (Nat × Nat))}
    {image template limit : Value} {picture pattern : Raster} {threshold : Float32} {w : World}
    {centres : List (Nat × Nat)} (seen : Shows image picture) (sought : Shows template pattern)
    (comparable : Comparable w picture ∧ Comparable w pattern)
    (least : thresholdOf limit = .ok threshold)
    (found : find threshold picture.brightness pattern.brightness = some centres) :
    ∃ w', (search find image template limit).perform w =
      (.ok (.list (pointsFrom w.serials centres)), w') := by
  obtain ⟨_, ofImage, imageDecoded⟩ := seen
  obtain ⟨_, ofTemplate, templateDecoded⟩ := sought
  obtain ⟨w', created⟩ := perform_points centres w
  refine ⟨w', ?_⟩
  rw [search, ofImage, perform_ofExcept_ok_bind, ofTemplate, perform_ofExcept_ok_bind, imageDecoded,
    perform_ofExcept_ok_bind, templateDecoded, perform_ofExcept_ok_bind,
    perform_act_bind, perform_brightnessOf comparable.1]
  dsimp only
  rw [perform_act_bind, perform_brightnessOf comparable.2]
  dsimp only
  rw [least, perform_ofExcept_ok_bind, found]
  rw [perform_act_bind, created]
  rfl

end Templates

/-! ## Main statement -/

/-- **Which hits are reported.** Let the scores of a picture be given for a template and for all its
sizes, and let the places that reach the threshold be listed row by row, both in the 32 bit format.
Both pictures have colours, or can be compared without them. Then the search for the
template, and the one in all sizes, give a list of points: one point for each score among the hits,
where the hits of the sizes follow one another. These are the centres of all hits, in order, exactly
if no two hits have equal scores. -/
theorem search_reports_all_iff {measure : Measure} {image template limit : Value}
    {picture pattern : Raster} {threshold : Float32} {world : World} (seen : Shows image picture)
    (sought : Shows template pattern)
    (comparable : Comparable world picture ∧ Comparable world pattern)
    (least : thresholdOf limit = .ok threshold) {scores : Grid → Scores} {found : Grid → List (Nat × Nat)}
    (scored : ∀ small ∈ pattern.brightness :: pattern.brightness.sizes,
      Scored measure threshold picture.brightness scores found small) :
    let hitsOf := fun small => hitsAt (scores small) small (found small)
    let hits := hitsOf pattern.brightness
    let scaledHits : Hits := pattern.brightness.sizes.flatMap hitsOf
    ((∃ after, (search (find? measure) image template limit).perform world =
        (.ok (.list (pointsFrom world.serials hits.merged)), after)) ∧
      (hits.merged = hits.map (·.2) ↔ hits.Apart)) ∧
    (∃ after, (search (findScaled? measure) image template limit).perform world =
        (.ok (.list (pointsFrom world.serials scaledHits.merged)), after)) ∧
      (scaledHits.merged = scaledHits.map (·.2) ↔ scaledHits.Apart) := by
  obtain ⟨itself, inSizes⟩ := forall_mem_cons.mp scored
  exact ⟨⟨perform_search seen sought comparable least (find?_eq_merged itself),
      Hits.merged_eq_iff _⟩,
    perform_search seen sought comparable least (findScaled?_eq_merged inSizes),
      Hits.merged_eq_iff _⟩

/-- A picture of one row in one colour. -/
def plainRow (width : Nat) : Raster := ⟨.color, width, 1, .replicate width [10, 20, 30]⟩

def pictureOf (raster : Raster) : Value := .image ⟨0, none, .raster raster⟩

theorem shows_pictureOf (raster : Raster) : Shows (pictureOf raster) raster :=
  ⟨.raster raster, rfl, rfl⟩

theorem comparable_plainRow (w : World) (width : Nat) : Comparable w (plainRow width) := by
  rintro ⟨⟩

/-- Two places, of which the second has a score that is just below 0.95, as the nearest number of
the 32 bit format is. -/
def twoScores : Scores := ⟨2, 1, fun x _ => Number.toSingle (if x = 0 then 1.0 else 0.95)⟩

/-- Two places of different scores are both reported, for a threshold that is rounded as well. -/
theorem search_reports_all_iff_twoScores :
    ∃ after, (search (find? fun _ _ => some twoScores) (pictureOf (plainRow 2))
        (pictureOf (plainRow 1)) (.float 0.95)).perform default =
      (.ok (.list [.point 0 (.int 0) (.int 0), .point 1 (.int 1) (.int 0)]), after) := by
  have reaching : twoScores.Reaching (Number.toSingle 0.95) [(0, 0), (1, 0)] :=
    twoScores.reaching_filter (Number.toSingle 0.95)
  have scored : ∀ small ∈ (plainRow 1).brightness :: (plainRow 1).brightness.sizes,
      Scored (fun _ _ => some twoScores) (Number.toSingle 0.95) (plainRow 2).brightness
        (fun _ => twoScores) (fun _ => [(0, 0), (1, 0)]) small :=
    fun _ _ => ⟨rfl, reaching⟩
  have least : thresholdOf (.float 0.95) = .ok (Number.toSingle 0.95) := rfl
  have apart : (hitsAt twoScores (plainRow 1).brightness [(0, 0), (1, 0)]).Apart := by
    rw [Hits.Apart]
    decide
  obtain ⟨⟨reported, all⟩, -⟩ := search_reports_all_iff (shows_pictureOf (plainRow 2))
    (shows_pictureOf (plainRow 1)) ⟨comparable_plainRow default 2, comparable_plainRow default 1⟩
    least scored
  rw [all.mpr apart] at reported
  exact reported

/-- The best score of all. -/
def fullScore : Float32 := Number.toSingle 1.0

/-- A template of one pixel fits everywhere. -/
theorem scoreAt_pixel (cells : Array Nat) (grid : Grid) (x y : Nat) :
    scoreAt grid ⟨1, 1, cells⟩ x y = fullScore := by
  refine if_pos ?_
  simp [sumsAt]

/-- A template of one colour fits at both places of a row, and only the second one is reported. -/
theorem plain_template_is_reported_once :
    (∃ scores, correlation (plainRow 2).brightness (plainRow 1).brightness = some scores ∧
      scores.Reaching (Number.toSingle 0.93) [(0, 0), (1, 0)]) ∧
    ∃ after, (search (find? correlation) (pictureOf (plainRow 2)) (pictureOf (plainRow 1))
        (.float 0.93)).perform default =
      (.ok (.list [.point 0 (.int 1) (.int 0)]), after) := by
  have single : scoreAt (plainRow 2).brightness (plainRow 1).brightness = fun _ _ => fullScore :=
    funext fun x => funext fun y => scoreAt_pixel _ _ x y
  have scored : correlation (plainRow 2).brightness (plainRow 1).brightness =
      some ⟨2, 1, fun _ _ => fullScore⟩ := by
    rw [← single]
    rfl
  have reaching : Scores.Reaching ⟨2, 1, fun _ _ => fullScore⟩ (Number.toSingle 0.93)
      [(0, 0), (1, 0)] :=
    Scores.reaching_filter ⟨2, 1, fun _ _ => fullScore⟩ (Number.toSingle 0.93)
  have found : Scored correlation (Number.toSingle 0.93) (plainRow 2).brightness
      (fun _ => ⟨2, 1, fun _ _ => fullScore⟩) (fun _ => [(0, 0), (1, 0)]) (plainRow 1).brightness :=
    ⟨scored, reaching⟩
  exact ⟨⟨_, scored, reaching⟩, perform_search (shows_pictureOf _) (shows_pictureOf _)
    ⟨comparable_plainRow default 2, comparable_plainRow default 1⟩ rfl (find?_eq_merged found)⟩

end DeviceScript
