import ScriptFiles.Text.Pieces

/-!
# Cutting at separators

A cut does not look past a separator: the pieces of two lists with a separator between them are
those of the first and those of the second. So parts that are joined by a separator come apart
again, and what stands in front of a list without any separator in it belongs to the first piece of
that list.
-/

namespace ScriptFiles.Text

variable {α : Type} {isSeparator : α → Bool}

/-- A separator ends an empty piece. -/
theorem pieces_cons_of_separator {a : α} (ha : isSeparator a = true) (rest : List α) :
    pieces isSeparator (a :: rest) = [] :: pieces isSeparator rest := by
  rw [pieces, if_pos ha]

/-- The pieces are those of the library's cut. -/
theorem pieces_eq_splitOnP (isSeparator : α → Bool) (list : List α) :
    pieces isSeparator list = list.splitOnP isSeparator := by
  induction list with
  | nil => rfl
  | cons a rest ih =>
    obtain ⟨piece, more, hrest⟩ := List.exists_cons_of_ne_nil (List.splitOnP_ne_nil isSeparator rest)
    rw [pieces, List.splitOnP_cons_eq_if_modifyHead, ih, hrest]
    rfl

/-- Every list has a first piece. -/
theorem exists_pieces (isSeparator : α → Bool) (list : List α) :
    ∃ piece more, pieces isSeparator list = piece :: more := by
  rw [pieces_eq_splitOnP]
  exact List.exists_cons_of_ne_nil (List.splitOnP_ne_nil isSeparator list)

/-- What holds no separator belongs to the first piece of what follows. -/
theorem pieces_append {front rest piece : List α} {more : List (List α)}
    (hfront : ∀ a ∈ front, isSeparator a = false)
    (hrest : pieces isSeparator rest = piece :: more) :
    pieces isSeparator (front ++ rest) = (front ++ piece) :: more := by
  induction front with
  | nil => exact hrest
  | cons a front ih =>
    have ha := hfront a List.mem_cons_self
    have hpieces := ih fun b hb => hfront b (List.mem_cons_of_mem a hb)
    simp [pieces, ha, hpieces]

/-- What holds no separator is one piece. -/
theorem pieces_of_none {list : List α} (hlist : ∀ a ∈ list, isSeparator a = false) :
    pieces isSeparator list = [list] := by
  rw [pieces_eq_splitOnP, List.splitOnP_eq_singleton hlist]

/-- What starts with a separator, or is empty, has an empty first piece. -/
theorem exists_pieces_dropWhile (isSeparator : α → Bool) (list : List α) :
    ∃ more, pieces isSeparator (list.dropWhile (!isSeparator ·)) = [] :: more := by
  induction list with
  | nil => exact ⟨[], rfl⟩
  | cons a rest ih =>
    rw [List.dropWhile_cons]
    split
    · exact ih
    · next ha => exact ⟨_, pieces_cons_of_separator (by simpa using ha) rest⟩

/-- A separator ends the last piece in front of it. -/
theorem pieces_append_cons {a : α} (ha : isSeparator a = true) (front rest : List α) :
    pieces isSeparator (front ++ a :: rest) =
      pieces isSeparator front ++ pieces isSeparator rest := by
  simp only [pieces_eq_splitOnP, List.splitOnP_append_cons front rest ha]

/-- Parts that are joined by a separator are the pieces of the whole. -/
theorem pieces_intercalate {a : α} (ha : isSeparator a = true) {parts : List (List α)}
    (hne : parts ≠ []) (hparts : ∀ part ∈ parts, ∀ b ∈ part, isSeparator b = false) :
    pieces isSeparator ([a].intercalate parts) = parts := by
  induction parts with
  | nil => exact absurd rfl hne
  | cons part rest ih =>
    obtain ⟨hpart, hrest⟩ := List.forall_mem_cons.mp hparts
    cases rest with
    | nil => rw [List.intercalate_singleton, pieces_of_none hpart]
    | cons next rest =>
      rw [List.intercalate_cons_cons, List.append_assoc, List.singleton_append,
        pieces_append_cons ha, pieces_of_none hpart, ih (List.cons_ne_nil next rest) hrest,
        List.singleton_append]

end ScriptFiles.Text
