import ResourcePack.Proofs.Bundle.Names
import ResourcePack.Proofs.Identifier.Escapes
import ResourcePack.Proofs.Path.Normal

/-
  Symbols as flattened paths.

  Key definitions include:
    * `ResourcePack.Path.InNormalForm`
    * `ResourcePack.Identifier.undotted`

  Main declarations:
    * `ResourcePack.Path.directories_joined`
    * `ResourcePack.Identifier.flat_intercalate`
    * `ResourcePack.Identifier.symbol_flat`

  A symbol is made of a whole name, and the namespaces and the object
  are made of its parts.  Under `reject` both ways lead to the same
  text, as a directory that has a dot in it is no namespace.
-/

------------------------------------------------------------
-- Paths in Normal Form
------------------------------------------------------------

namespace ResourcePack

namespace Path

/- A path of one or more ordinary names with a slash between them. -/
def InNormalForm
    (path : String) : Prop :=
  ∃ names, names ≠ [] ∧ (∀ name ∈ names, IsOrdinary name) ∧
    path = "/".intercalate names

/- Such a path has directories, and a file name behind them. -/
theorem InNormalForm.exists_file
    {path : String}
    (hNormal : InNormalForm path) :
    ∃ above file, (∀ name ∈ above, IsOrdinary name) ∧
      IsOrdinary file ∧ path = "/".intercalate (above ++ [file]) := by
  rcases hNormal with ⟨names, hNe, hNames, rfl⟩
  rcases List.eq_nil_or_concat' names with rfl | ⟨above, file, rfl⟩
  · exact absurd rfl hNe
  · rw [List.forall_mem_append, List.forall_mem_singleton] at hNames
    exact ⟨above, file, hNames.1, hNames.2, rfl⟩

section

variable {above : List String} {file : String}

theorem steps_joined
    (hAbove : ∀ name ∈ above, IsOrdinary name)
    (hFile : IsOrdinary file) :
    steps ("/".intercalate (above ++ [file])) =
      above.map .down ++ [.down file] := by
  have hNames : ∀ name ∈ above ++ [file], IsOrdinary name := by
    rw [List.forall_mem_append, List.forall_mem_singleton]
    exact ⟨hAbove, hFile⟩
  rw [steps_intercalate hNames, List.map_append]
  rfl

/- All joined names but the last are directories. -/
theorem directories_joined
    (hAbove : ∀ name ∈ above, IsOrdinary name)
    (hFile : IsOrdinary file) :
    directories ("/".intercalate (above ++ [file])) = above := by
  rw [directories, normal, steps_joined hAbove hFile, walk_append,
    walk_map_down, List.nil_append]
  exact List.dropLast_concat

theorem fileName?_joined
    (hAbove : ∀ name ∈ above, IsOrdinary name)
    (hFile : IsOrdinary file) :
    fileName? ("/".intercalate (above ++ [file])) = some file := by
  rw [fileName?, steps_joined hAbove hFile, List.getLast?_concat]

end

end Path

end ResourcePack

------------------------------------------------------------
-- Mangled Paths
------------------------------------------------------------

namespace ResourcePack

namespace Identifier

open ResourcePack.Path

/- A text with underscores in place of its dots. -/
def undotted
    (text : String) : String :=
  String.ofList (text.toList.map fun c => if c = '.' then '_' else c)

/- A text with underscores in place of its dots and slashes. -/
def flat
    (text : String) : String :=
  String.ofList
    (text.toList.map fun c => if c = '/' || c = '.' then '_' else c)

/- Texts are flattened one after the other. -/
theorem flat_append
    (text other : String) :
    flat (text ++ other) = flat text ++ flat other := by
  unfold flat
  rw [String.toList_append, List.map_append, String.ofList_append]

/- A text without slashes only loses its dots. -/
theorem flat_of_not_mem
    {text : String}
    (hSlash : '/' ∉ text.toList) :
    flat text = undotted text := by
  have hChars : ∀ c ∈ text.toList,
      (if c = '/' || c = '.' then '_' else c) =
        if c = '.' then '_' else c := by
    intro c hMem
    have hNe : c ≠ '/' := fun hSame => hSlash (hSame ▸ hMem)
    simp [hNe]
  rw [flat, undotted, List.map_congr_left hChars]

theorem undotted_of_isWord
    {text : String}
    (hWord : IsWord text) :
    undotted text = text := by
  have hChars : ∀ c ∈ text.toList,
      (if c = '.' then '_' else c) = c := by
    intro c hMem
    have hNe : c ≠ '.' := by
      rintro rfl
      exact hWord.not_mem (by decide) hMem
    rw [if_neg hNe]
  unfold undotted
  rw [List.map_congr_left hChars, List.map_id', String.ofList_toList]

/- Names that are joined by slashes are flattened name by name. -/
theorem flat_intercalate
    {names : List String}
    (hNames : ∀ name ∈ names, IsOrdinary name) :
    flat ("/".intercalate names) =
      "_".intercalate (names.map undotted) := by
  induction names with
  | nil => rfl
  | cons name rest ih =>
    rw [List.forall_mem_cons] at hNames
    have hName := flat_of_not_mem hNames.1.no_slash
    cases rest with
    | nil =>
      rw [List.map_singleton, String.intercalate_singleton,
        String.intercalate_singleton, hName]
    | cons next others =>
      have hSlash : flat "/" = "_" := rfl
      rw [List.map_cons, List.map_cons, String.intercalate_cons_cons,
        String.intercalate_cons_cons, flat_append, flat_append, hName,
        hSlash, ih hNames.2, List.map_cons]

/- The directories of a name are its namespaces where they are words. -/
theorem scopeOf_reject_eq_ok
    {name : String}
    {scope : List String}
    (hScope : Bundle.scopeOf name .reject = .ok scope) :
    scope = directories name ∧ ∀ ns ∈ scope, IsWord ns := by
  refine ⟨?_, Bundle.isWord_of_mem_scope hScope⟩
  have hSame : ∀ component ns, ofDirectory component .reject = .ok ns →
      (pure component : Except Error String) = .ok ns := by
    intro component ns hAccepted
    rw [(sanitize_reject_eq_ok_iff.mp hAccepted).1]
    rfl
  have hMap := mapM_eq_ok_of_imp hSame hScope
  rw [List.mapM_pure] at hMap
  simpa using (Except.ok.inj hMap).symm

/-
  Under `reject` the symbol of a name in normal form is the prefix
  followed by the namespaces and the identifier, with an underscore
  between them.
-/
theorem symbol_flat
    {symbolPrefix name symbol fileName ident : String}
    {scope : List String}
    (hNormal : InNormalForm name)
    (hSymbol : Identifier.symbol symbolPrefix name .reject = .ok symbol)
    (hFile : fileName? name = some fileName)
    (hIdent : ofFileName fileName .reject = .ok ident)
    (hScope : Bundle.scopeOf name .reject = .ok scope) :
    symbol = symbolPrefix ++ "_".intercalate (scope ++ [ident]) := by
  have hMangled : symbol = symbolPrefix ++ flat name :=
    (sanitize_reject_eq_ok_iff.mp hSymbol).1
  have hUndotted : ident = undotted fileName :=
    (sanitize_reject_eq_ok_iff.mp hIdent).1
  rcases scopeOf_reject_eq_ok hScope with ⟨hDirectories, hWords⟩
  rcases hNormal.exists_file with ⟨above, file, hAbove, hOrdinary, rfl⟩
  rw [directories_joined hAbove hOrdinary] at hDirectories
  rw [fileName?_joined hAbove hOrdinary, Option.some.injEq] at hFile
  have hNames : ∀ part ∈ above ++ [file], IsOrdinary part := by
    rw [List.forall_mem_append, List.forall_mem_singleton]
    exact ⟨hAbove, hOrdinary⟩
  have hSame : above.map undotted = above := by
    rw [hDirectories] at hWords
    rw [List.map_congr_left fun ns hMem =>
      undotted_of_isWord (hWords ns hMem), List.map_id']
  rw [hMangled, flat_intercalate hNames, List.map_append, hSame,
    List.map_singleton, hUndotted, hDirectories, hFile]

end Identifier

end ResourcePack
