import DeviceScript.Text.Search

/-!
# Pieces and cuts of a text

A text has a piece exactly if the piece stands somewhere in it (`hasPiece_iff`). The last part of a
text that is cut at a separator has every ending of the text in which no separator stands
(`exists_getLast?_splitChar`), and what is joined of parts has the endings of the last part.
-/

namespace DeviceScript.Text

open List

/-! ## Pieces -/

theorem isSome_cutAt?_iff (piece s : List Char) :
    (cutAt? piece s).isSome = true ↔ piece <:+: s := by
  induction s with
  | nil =>
    rw [cutAt?, infix_nil, ← List.isEmpty_iff]
    cases piece.isEmpty <;> simp
  | cons c s ih =>
    rw [cutAt?, infix_cons_iff, ← isPrefixOf_iff_prefix, ← ih]
    cases piece.isPrefixOf (c :: s) <;> simp

theorem hasPiece_iff (piece s : String) : hasPiece piece s = true ↔ piece.toList <:+: s.toList :=
  isSome_cutAt?_iff _ _

theorem endsWith_iff (s ending : String) :
    s.endsWith ending = true ↔ ending.toList <:+ s.toList := by
  rw [String.endsWith_eq_endsWith_toSlice, String.Slice.endsWith_string_iff, String.copy_toSlice]

/-! ## Cuts -/

variable {separator : Char}

theorem splitChar_ne_nil (s : List Char) : splitChar separator s ≠ [] := by
  cases s with
  | nil => exact cons_ne_nil _ _
  | cons =>
    rw [splitChar]
    split
    · exact cons_ne_nil _ _
    · split <;> exact cons_ne_nil _ _

theorem splitChar_separator (s : List Char) :
    splitChar separator (separator :: s) = [] :: splitChar separator s := by
  rw [splitChar]
  split
  · exact absurd ‹_› (splitChar_ne_nil s)
  · rename_i part parts cut
    rw [if_pos (beq_self_eq_true _), cut]

theorem splitChar_cons {c : Char} (different : c ≠ separator) {s part : List Char}
    {parts : List (List Char)} (cut : splitChar separator s = part :: parts) :
    splitChar separator (c :: s) = (c :: part) :: parts := by
  simp [splitChar, cut, different]

/-- A text without the separator is one part. -/
theorem splitChar_of_notMem {s : List Char} (free : separator ∉ s) :
    splitChar separator s = [s] := by
  induction s with
  | nil => rfl
  | cons _ _ ih =>
    rw [mem_cons, not_or] at free
    exact splitChar_cons (Ne.symm free.1) (ih free.2)

/-- An ending without the separator stands in the last part. -/
theorem exists_getLast?_splitChar {ending : List Char} (free : separator ∉ ending)
    {s : List Char} (ends : ending <:+ s) :
    ∃ last, (splitChar separator s).getLast? = some last ∧ ending <:+ last := by
  induction s with
  | nil => exact ⟨[], rfl, ends⟩
  | cons c s ih =>
    rcases suffix_cons_iff.mp ends with rfl | shorter
    · exact ⟨c :: s, by rw [splitChar_of_notMem free]; rfl, suffix_rfl⟩
    · obtain ⟨last, isLast, ends⟩ := ih shorter
      rcases cut : splitChar separator s with _ | ⟨part, parts⟩
      · exact absurd cut (splitChar_ne_nil s)
      · rw [cut] at isLast
        by_cases same : c = separator
        · rw [same, splitChar_separator, cut]
          exact ⟨last, isLast, ends⟩
        · rw [splitChar_cons same cut]
          cases parts with
          | nil =>
            cases isLast
            exact ⟨c :: part, rfl, ends.trans (suffix_cons c part)⟩
          | cons => exact ⟨last, isLast, ends⟩

theorem suffix_join {separator : String} {parts : List String} {last : String}
    (isLast : parts.getLast? = some last) : last.toList <:+ (join separator parts).toList := by
  induction parts with
  | nil => cases isLast
  | cons part parts ih =>
    cases parts with
    | nil =>
      cases isLast
      exact suffix_rfl
    | cons next parts =>
      show _ <:+ (part ++ separator ++ join separator (next :: parts)).toList
      rw [String.toList_append]
      exact (ih isLast).trans (suffix_append _ _)

end DeviceScript.Text
