/-
  Lines of a text. A line ends at LF or CR LF; what follows the last line end is a line of its
  own unless it is empty. `pieces_append_sep` says that cutting commutes with joining texts at a
  separator.
-/

namespace BulkSuppress.Text

/-- The pieces of a text between the occurrences of `sep`; always at least one. -/
def pieces (sep : Char) : List Char → List (List Char)
  | [] => [[]]
  | c :: cs =>
    if c = sep then [] :: pieces sep cs
    else match pieces sep cs with
      | [] => [[c]]
      | p :: ps => (c :: p) :: ps

theorem pieces_ne_nil (sep : Char) (cs : List Char) : pieces sep cs ≠ [] := by
  cases cs with
  | nil => simp [pieces]
  | cons c cs =>
    unfold pieces
    split
    · simp
    · split <;> simp

@[simp] theorem pieces_nil (sep : Char) : pieces sep [] = [[]] := rfl

@[simp] theorem pieces_cons_sep (sep : Char) (cs : List Char) :
    pieces sep (sep :: cs) = [] :: pieces sep cs := by
  simp [pieces]

theorem pieces_append_sep (sep : Char) (a b : List Char) :
    pieces sep (a ++ sep :: b) = pieces sep a ++ pieces sep b := by
  induction a with
  | nil => simp
  | cons c a ih =>
    by_cases h : c = sep
    · subst h; simp [ih]
    · have hne := pieces_ne_nil sep a
      simp only [List.cons_append, pieces, if_neg h, ih]
      cases hp : pieces sep a with
      | nil => exact absurd hp hne
      | cons p ps => simp

/-- No piece holds the separator. -/
theorem not_mem_of_mem_pieces {sep : Char} {cs p : List Char} (h : p ∈ pieces sep cs) :
    sep ∉ p := by
  induction cs generalizing p with
  | nil => simp [pieces] at h; simp [h]
  | cons c cs ih =>
    unfold pieces at h
    split at h
    · rcases List.mem_cons.1 h with rfl | h
      · simp
      · exact ih h
    · rename_i hc
      cases hp : pieces sep cs with
      | nil => simp [hp] at h; simp [h]; exact fun e => hc e.symm
      | cons q qs =>
        simp only [hp] at h ih
        rcases List.mem_cons.1 h with rfl | h
        · have := ih (p := q) (by simp)
          simp [this]; exact fun e => hc e.symm
        · exact ih (by simp [h])

/-- A line's text without the CR that belongs to its line end. -/
def dropReturn (line : List Char) : List Char :=
  if line.getLast? = some '\r' then line.dropLast else line

/-- The lines that the pieces between LFs make: all but the last piece ended at an LF. -/
def linesOfPieces : List (List Char) → List (List Char)
  | [] => []
  | [last] => if last = [] then [] else [last]
  | piece :: next :: rest => dropReturn piece :: linesOfPieces (next :: rest)

/-- The lines of a text, without their line ends. -/
def lines (cs : List Char) : List (List Char) :=
  linesOfPieces (pieces '\n' cs)

end BulkSuppress.Text
