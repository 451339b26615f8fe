import RecordFilter.Filter.Path
import RecordFilter.Proofs.Outcome

/-! The texts of paths: what is read of two of them with a point between. -/

namespace RecordFilter

namespace Text

/-- The pieces up to a separator stay as they are, and those after it follow them. -/
theorem firstPiece_append (separator : Char) (before after : List Char) :
    firstPiece separator (before ++ separator :: after) =
      ((firstPiece separator before).1,
        (firstPiece separator before).2 ++ pieces separator after) := by
  -- The induction is on the characters before the separator, which ends the last piece of them.
  induction before with
  | nil => simp [firstPiece, pieces]
  | cons char rest ih =>
    rw [List.cons_append, firstPiece, ih, firstPiece]
    by_cases closes : char = separator
    · simp [closes]
    · simp [closes]

/-- A separator between two texts cuts no piece of either of them. -/
theorem pieces_append (separator : Char) (before after : List Char) :
    pieces separator (before ++ separator :: after) =
      pieces separator before ++ pieces separator after := by
  -- The pieces are the first one and the others, which are appended to.
  rw [pieces, firstPiece_append]
  rfl

/-- The pieces between separators are those of the split list. -/
theorem pieces_eq_splitOn (separator : Char) (chars : List Char) :
    pieces separator chars = chars.splitOn separator := by
  -- Both cut one character after another from the end of the text.
  induction chars with
  | nil => rfl
  | cons char rest ih =>
    rw [List.splitOn_cons_eq_if_modifyHead, ← ih]
    by_cases closes : char = separator
    · simp [pieces, firstPiece, closes]
    · simp [pieces, firstPiece, closes]

end Text

namespace Path

/-- A text that is not empty is read piece by piece. -/
theorem read_of_present {text : String} (present : text ≠ "") :
    read text = ((Text.pieces '.' text.toList).mapM Segment.read).map Path.mk := by
  -- The empty text is the one that is not cut at all.
  unfold read
  split
  · rename_i none
    exact absurd (String.toList_eq_nil_iff.1 none) present
  · rfl

/-- Only the empty text is a path without segments. -/
theorem segments_ne_nil {text : String} {path : Path} (readable : read text = .ok path)
    (present : text ≠ "") : path.segments ≠ [] := by
  -- There is a segment for every piece between points, and always a first piece.
  rw [read_of_present present] at readable
  obtain ⟨segments, taken, rfl⟩ := Outcome.map_eq_ok.1 readable
  rw [Text.pieces, List.mapM_cons] at taken
  obtain ⟨first, others, -, -, rfl⟩ := Outcome.cons_eq_ok.1 taken
  exact List.cons_ne_nil first others

/-- Two paths with a point between them are read as one that runs through the segments of both. -/
theorem read_joined {left right : String} {first second : Path} (one : left ≠ "")
    (other : right ≠ "") (readLeft : read left = .ok first) (readRight : read right = .ok second) :
    read (left ++ "." ++ right) = .ok ⟨first.segments ++ second.segments⟩ := by
  -- The point is a separator, so the pieces on its two sides are read apart.
  have present : left ++ "." ++ right ≠ "" := by
    intro empty
    simp at empty
  have chars : (left ++ "." ++ right).toList = left.toList ++ '.' :: right.toList := by
    simp
  rw [read_of_present one] at readLeft
  rw [read_of_present other] at readRight
  obtain ⟨segments, taken, rfl⟩ := Outcome.map_eq_ok.1 readLeft
  obtain ⟨others, takenRight, rfl⟩ := Outcome.map_eq_ok.1 readRight
  rw [read_of_present present, chars, Text.pieces_append, List.mapM_append, taken, takenRight]
  rfl

end Path

end RecordFilter
