import Mathlib.Data.List.Basic
import ResourcePack.Text.Lines

/-
  The pieces of a text between marks.

  Main declarations:
    * `ResourcePack.Text.pieces_append_mark`
    * `ResourcePack.Text.splitOn_append`
    * `ResourcePack.Text.splitOn_intercalate`

  A mark cuts a text in two, whose pieces come one after the other.
  Texts without the mark that are joined by it are the pieces of
  what they make.
-/

namespace ResourcePack

namespace Text

variable {mark : Char}

theorem pieces_ne_nil
    (cs : List Char) :
    pieces mark cs ≠ [] := by
  cases cs with
  | nil => exact List.cons_ne_nil _ _
  | cons c rest =>
    unfold pieces
    by_cases hMark : c = mark
    · rw [if_pos hMark]
      exact List.cons_ne_nil _ _
    · rw [if_neg hMark]
      cases pieces mark rest <;> exact List.cons_ne_nil _ _

/- The pieces on both sides of a mark. -/
theorem pieces_append_mark
    (front rest : List Char) :
    pieces mark (front ++ mark :: rest) =
      pieces mark front ++ pieces mark rest := by
  induction front with
  | nil => simp [pieces]
  | cons c front ih =>
    rw [List.cons_append, pieces, pieces, ih]
    by_cases hMark : c = mark
    · rw [if_pos hMark, if_pos hMark, List.cons_append]
    · rw [if_neg hMark, if_neg hMark]
      cases hFront : pieces mark front with
      | nil => exact absurd hFront (pieces_ne_nil front)
      | cons piece others => rfl

/- A text without the mark is one piece. -/
theorem pieces_of_not_mem
    {piece : List Char}
    (hPiece : mark ∉ piece) :
    pieces mark piece = [piece] := by
  induction piece with
  | nil => rfl
  | cons c piece ih =>
    rw [List.mem_cons, not_or] at hPiece
    have hNe : c ≠ mark := Ne.symm hPiece.1
    rw [pieces, if_neg hNe, ih hPiece.2]

/- What stands before a mark is the first piece. -/
theorem pieces_append
    {piece : List Char}
    (hPiece : mark ∉ piece)
    (rest : List Char) :
    pieces mark (piece ++ mark :: rest) =
      piece :: pieces mark rest := by
  rw [pieces_append_mark, pieces_of_not_mem hPiece, List.singleton_append]

/- No piece has the mark in it. -/
theorem not_mem_of_mem_pieces
    {cs piece : List Char}
    (hMem : piece ∈ pieces mark cs) :
    mark ∉ piece := by
  induction cs generalizing piece with
  | nil =>
    rw [List.mem_singleton.mp hMem]
    exact List.not_mem_nil
  | cons c rest ih =>
    unfold pieces at hMem
    by_cases hMark : c = mark
    · rw [if_pos hMark, List.mem_cons] at hMem
      rcases hMem with rfl | hRest
      · exact List.not_mem_nil
      · exact ih hRest
    · rw [if_neg hMark] at hMem
      cases hRest : pieces mark rest with
      | nil => exact absurd hRest (pieces_ne_nil rest)
      | cons first others =>
        rw [hRest] at hMem ih
        rcases List.mem_cons.mp hMem with rfl | hOthers
        · rw [List.mem_cons, not_or]
          exact ⟨Ne.symm hMark, ih List.mem_cons_self⟩
        · exact ih (List.mem_cons_of_mem first hOthers)

variable {sep : String}

/- A text is cut where the mark stands. -/
theorem splitOn_append
    (hSep : sep.toList = [mark])
    (front rest : String) :
    splitOn mark (front ++ sep ++ rest) =
      splitOn mark front ++ splitOn mark rest := by
  unfold splitOn
  rw [String.toList_append, String.toList_append, hSep,
    List.append_assoc, List.singleton_append, pieces_append_mark,
    List.map_append]

theorem splitOn_of_not_mem
    {text : String}
    (hText : mark ∉ text.toList) :
    splitOn mark text = [text] := by
  unfold splitOn
  rw [pieces_of_not_mem hText, List.map_singleton, String.ofList_toList]

theorem not_mem_of_mem_splitOn
    {text part : String}
    (hMem : part ∈ splitOn mark text) :
    mark ∉ part.toList := by
  rcases List.mem_map.mp hMem with ⟨piece, hPiece, rfl⟩
  rw [String.toList_ofList]
  exact not_mem_of_mem_pieces hPiece

/- Parts that were joined by the mark are cut apart again. -/
theorem splitOn_intercalate
    (hSep : sep.toList = [mark])
    {parts : List String}
    (hParts : ∀ part ∈ parts, mark ∉ part.toList)
    (hNe : parts ≠ []) :
    splitOn mark (sep.intercalate parts) = parts := by
  induction parts with
  | nil => exact absurd rfl hNe
  | cons part rest ih =>
    rw [List.forall_mem_cons] at hParts
    cases rest with
    | nil =>
      rw [String.intercalate_singleton]
      exact splitOn_of_not_mem hParts.1
    | cons next others =>
      rw [String.intercalate_cons_cons, splitOn_append hSep,
        splitOn_of_not_mem hParts.1,
        ih hParts.2 (List.cons_ne_nil next others),
        List.singleton_append]

end Text

end ResourcePack
