import ResourcePack.Proofs.Store.Locations
import ResourcePack.Store.Access

/-
  What writing to a path does to a store.

  Key definitions include:
    * `ResourcePack.Store.Wrote`

  Main declarations:
    * `ResourcePack.Store.update_cases`
    * `ResourcePack.Store.wrote_of_write`
    * `ResourcePack.Store.Wrote.locate_iff`
    * `ResourcePack.Store.Wrote.get?_of_ne`

  A text that is written is the contents of the file that the path
  leads to, and the only thing that changes is this file.  A device
  takes a text and stays what it is.
-/

------------------------------------------------------------
-- Finding
------------------------------------------------------------

namespace ResourcePack

namespace Store

variable {s : Store}

/- What is found is at the location that the path leads to. -/
theorem find_eq_ok_iff
    {path : String}
    {l : Location}
    {e : Entry} :
    s.find path = .ok (l, e) ↔
      s.locate .existing path = .ok l ∧ s.get? l = some e := by
  unfold find
  rw [bind_eq_ok_iff]
  constructor
  · rintro ⟨found, hLocate, hFound⟩
    cases hEntry : s.get? found with
    | none =>
      rw [hEntry] at hFound
      cases hFound
    | some e' =>
      rw [hEntry] at hFound
      cases hFound
      exact ⟨hLocate, hEntry⟩
  · rintro ⟨hLocate, hEntry⟩
    refine ⟨l, hLocate, ?_⟩
    rw [hEntry]
    rfl

theorem isFile_iff
    {path : String} :
    s.isFile path = true ↔
      ∃ l contents, s.find path = .ok (l, .file contents) := by
  unfold isFile
  cases hFind : s.find path with
  | error fault => simp
  | ok found =>
    rcases found with ⟨l, e⟩
    cases e <;> simp [Entry.isFile]

/- The bytes of a text are read as that text. -/
theorem text_toByteArray
    (text : String) :
    (Entry.file text.toByteArray).text = .ok text := by
  have hValid : text.toByteArray.IsValidUTF8 := text.isValidUTF8
  have hText : String.fromUTF8? text.toByteArray = some text :=
    dif_pos hValid
  rw [Entry.text, hText]

/- A file that is found and holds a text is read. -/
theorem read_of_find
    {path text : String}
    {l : Location}
    (hFind : s.find path = .ok (l, .file text.toByteArray)) :
    s.read path = .ok text := by
  rw [read, hFind]
  exact text_toByteArray text

end Store

end ResourcePack

------------------------------------------------------------
-- Writing
------------------------------------------------------------

namespace ResourcePack

namespace Store

variable {s s' : Store} {path text : String} {l : Location}

/-
  To update a path fails and leaves the store as it is, or the path
  leads to where there is no directory.  A device that is there
  takes what is added; anything else is replaced by a file.
-/
theorem update_cases
    (hRooted : s.Rooted)
    (path : String)
    (added : ByteArray)
    (contents : ByteArray → ByteArray) :
    (∃ fault, s.update path added contents = (.error fault, s)) ∨
      ∃ l, s.locate .creating path = .ok l ∧
        s.hasDirectory l = false ∧
        ((∃ d, s.get? l = some (.device d) ∧ (d = .null ∨ added = .empty) ∧
            s.update path added contents = (.ok (), s)) ∨
          (∀ d, s.get? l ≠ some (.device d)) ∧
            ∃ old, s.update path added contents =
              (.ok (), s.put l (.file (contents old)))) := by
  cases hLocate : s.locate .creating path with
  | error fault => exact .inl ⟨fault, by simp [update, hLocate]⟩
  | ok l =>
    have hFree : s.get? l ≠ some .directory → s.hasDirectory l = false := by
      intro hNe
      exact Bool.eq_false_iff.mpr (mt hasDirectory_iff.mp hNe)
    cases hEntry : s.get? l with
    | none =>
      exact .inr ⟨l, rfl, hFree (by simp [hEntry]),
        .inr ⟨by simp [hEntry], .empty,
          by simp [update, hLocate, hEntry]⟩⟩
    | some e =>
      cases e with
      | directory =>
        exact .inl ⟨.isDirectory, by simp [update, hLocate, hEntry]⟩
      | link target =>
        exact absurd hEntry ((reached_of_locate hRooted hLocate).no_link _)
      | file old =>
        exact .inr ⟨l, rfl, hFree (by simp [hEntry]),
          .inr ⟨by simp [hEntry], old, by simp [update, hLocate, hEntry]⟩⟩
      | device d =>
        have hTaken : s.hasDirectory l = false := hFree (by simp [hEntry])
        cases d with
        | null =>
          exact .inr ⟨l, rfl, hTaken, .inl ⟨.null, hEntry, .inl rfl,
            by simp [update, hLocate, hEntry]⟩⟩
        | full =>
          by_cases hEmpty : added = .empty
          · exact .inr ⟨l, rfl, hTaken, .inl ⟨.full, hEntry, .inr hEmpty,
              by simp [update, hLocate, hEntry, hEmpty]⟩⟩
          · exact .inl ⟨.noSpace,
              by simp [update, hLocate, hEntry, hEmpty]⟩

/-
  A text was written to a path, which leads to a location.  What is
  there takes the text, or it is replaced by a file that holds it.
-/
structure Wrote
    (s : Store)
    (path text : String)
    (l : Location)
    (s' : Store) : Prop where
  located : s.locate .creating path = .ok l
  no_directory : s.hasDirectory l = false
  left : (∃ d, s.get? l = some (.device d) ∧
      (d = .null ∨ text = "") ∧ s' = s) ∨
    ((∀ d, s.get? l ≠ some (.device d)) ∧
      s' = s.put l (.file text.toByteArray))

/- A write that succeeds has written the text. -/
theorem wrote_of_write
    (hRooted : s.Rooted)
    (hWrite : s.write path text = (.ok (), s')) :
    ∃ l, Wrote s path text l s' := by
  unfold write save at hWrite
  rcases update_cases hRooted path text.toByteArray
      fun _ => text.toByteArray with
    ⟨fault, hFailed⟩ | ⟨l, hLocate, hFree, hLeft⟩
  · rw [hFailed] at hWrite
    cases hWrite
  · refine ⟨l, hLocate, hFree, ?_⟩
    rcases hLeft with ⟨d, hDevice, hTaken, hUpdate⟩ | ⟨hNone, old, hUpdate⟩
    · rw [hUpdate] at hWrite
      cases hWrite
      exact .inl ⟨d, hDevice,
        hTaken.imp_right String.toByteArray_eq_empty_iff.mp, rfl⟩
    · rw [hUpdate] at hWrite
      cases hWrite
      exact .inr ⟨hNone, rfl⟩

namespace Wrote

/- A file can be put at the location of a text that was written. -/
theorem isOpen
    (hWrote : Wrote s path text l s')
    (hRooted : s.Rooted) :
    s.Open l :=
  { reached_of_locate hRooted hWrote.located with
    no_directory := hWrote.no_directory }

theorem rooted
    (hWrote : Wrote s path text l s')
    (hRooted : s.Rooted) :
    s'.Rooted := by
  rcases hWrote.left with ⟨d, -, -, hSame⟩ | ⟨-, hPut⟩
  · exact hSame ▸ hRooted
  · rw [hPut]
    exact (hWrote.isOpen hRooted).rooted_put hRooted text.toByteArray

/- Every path leads to where it led. -/
theorem locate_iff
    (hWrote : Wrote s path text l s')
    (hRooted : s.Rooted)
    {purpose : Purpose}
    {other : String}
    {l' : Location} :
    s'.locate purpose other = .ok l' ↔ s.locate purpose other = .ok l' := by
  rcases hWrote.left with ⟨d, -, -, hSame⟩ | ⟨-, hPut⟩
  · rw [hSame]
  · rw [hPut]
    exact (hWrote.isOpen hRooted).locate_put_iff text.toByteArray

theorem get?_of_ne
    (hWrote : Wrote s path text l s')
    {l' : Location}
    (hNe : l' ≠ l) :
    s'.get? l' = s.get? l' := by
  rcases hWrote.left with ⟨d, -, -, hSame⟩ | ⟨-, hPut⟩
  · rw [hSame]
  · rw [hPut]
    exact get?_put_of_ne s _ hNe

/- A device stays what it is. -/
theorem get?_of_device
    (hWrote : Wrote s path text l s')
    {l' : Location}
    {d : Device}
    (hDevice : s.get? l' = some (.device d)) :
    s'.get? l' = s.get? l' := by
  by_cases hSame : l' = l
  · rcases hWrote.left with ⟨_, -, -, hKept⟩ | ⟨hNone, -⟩
    · rw [hKept]
    · exact absurd (hSame ▸ hDevice) (hNone d)
  · exact hWrote.get?_of_ne hSame

/- Where there is no device, there is a file with the text. -/
theorem get?_self
    (hWrote : Wrote s path text l s')
    (hNone : ∀ d, s.get? l ≠ some (.device d)) :
    s'.get? l = some (.file text.toByteArray) := by
  rcases hWrote.left with ⟨d, hDevice, -⟩ | ⟨-, hPut⟩
  · exact absurd hDevice (hNone d)
  · rw [hPut]
    exact get?_put_self s _ (ne_root hWrote.no_directory)

theorem not_device
    (hWrote : Wrote s path text l s')
    {l' : Location}
    (hNone : ∀ d, s.get? l' ≠ some (.device d)) :
    ∀ d, s'.get? l' ≠ some (.device d) := by
  intro d
  by_cases hSame : l' = l
  · subst hSame
    rw [hWrote.get?_self hNone]
    nofun
  · rw [hWrote.get?_of_ne hSame]
    exact hNone d

theorem find_self
    (hWrote : Wrote s path text l s')
    (hRooted : s.Rooted)
    (hNone : ∀ d, s.get? l ≠ some (.device d)) :
    s'.find path = .ok (l, .file text.toByteArray) :=
  find_eq_ok_iff.mpr
    ⟨(hWrote.locate_iff hRooted).mpr
      (locate_existing_of_creating hWrote.located), hWrote.get?_self hNone⟩

theorem find_of_ne
    (hWrote : Wrote s path text l s')
    (hRooted : s.Rooted)
    {other : String}
    {l' : Location}
    {e : Entry}
    (hNe : l' ≠ l)
    (hFind : s.find other = .ok (l', e)) :
    s'.find other = .ok (l', e) := by
  rcases find_eq_ok_iff.mp hFind with ⟨hLocate, hEntry⟩
  exact find_eq_ok_iff.mpr
    ⟨(hWrote.locate_iff hRooted).mpr hLocate,
      (hWrote.get?_of_ne hNe).trans hEntry⟩

end Wrote

end Store

end ResourcePack
