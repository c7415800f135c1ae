/-
# `Text.Split` — cutting a text at a character

`splitAt mark cs` are the pieces of `cs` between the occurrences of `mark`.  There is always at least
one piece, a text without the mark being one piece itself, and joining the pieces with the mark gives
the text back.
-/

namespace FieldRules.Text

/-- The pieces of a text between the occurrences of a character. -/
def splitAt (mark : Char) : List Char → List (List Char)
  | [] => [[]]
  | c :: rest =>
    if c = mark then [] :: splitAt mark rest
    else match splitAt mark rest with
      | piece :: pieces => (c :: piece) :: pieces
      | [] => [[c]]

theorem splitAt_eq_splitOn (mark : Char) (cs : List Char) : splitAt mark cs = cs.splitOn mark := by
  induction cs with
  | nil => rw [List.splitOn_nil, splitAt]
  | cons c rest ih =>
      have hcons : (c :: rest).splitOn mark
          = if c == mark then [] :: rest.splitOn mark
            else (rest.splitOn mark).modifyHead (c :: ·) :=
        List.splitOnP_cons_eq_if_modifyHead c rest
      rw [splitAt, ih, hcons]
      by_cases h : c = mark
      · simp [h]
      · rw [if_neg h, if_neg (by simpa using h)]
        cases hpieces : rest.splitOn mark with
        | nil => exact absurd hpieces (List.splitOn_ne_nil mark rest)
        | cons piece pieces => rfl

theorem splitAt_ne_nil (mark : Char) (cs : List Char) : splitAt mark cs ≠ [] := by
  rw [splitAt_eq_splitOn]
  exact List.splitOn_ne_nil mark cs

theorem not_mem_of_mem_splitAt {mark : Char} {cs piece : List Char} (h : piece ∈ splitAt mark cs) :
    mark ∉ piece := by
  induction cs generalizing piece with
  | nil =>
      rw [splitAt, List.mem_singleton] at h
      rw [h]
      exact List.not_mem_nil
  | cons c rest ih =>
      rw [splitAt] at h
      split at h
      · rcases List.mem_cons.mp h with rfl | hrest
        · exact List.not_mem_nil
        · exact ih hrest
      · next hne =>
          cases hpieces : splitAt mark rest with
          | nil => exact absurd hpieces (splitAt_ne_nil mark rest)
          | cons first pieces =>
              rw [hpieces] at h
              rcases List.mem_cons.mp h with rfl | hlater
              · have hfirst := ih (hpieces ▸ List.mem_cons_self)
                exact List.not_mem_cons_of_ne_of_not_mem (Ne.symm hne) hfirst
              · exact ih (hpieces ▸ List.mem_cons_of_mem _ hlater)

end FieldRules.Text
