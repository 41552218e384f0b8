import ResourcePack.Proofs.Store.Writing

/-
  Writing to a store that was written to before.

  Key definitions include:
    * `ResourcePack.Store.Takes`

  Main declarations:
    * `ResourcePack.Store.Takes.exists_wrote`
    * `ResourcePack.Store.Takes.after`
    * `ResourcePack.Store.Wrote.get?_of_holds`
    * `ResourcePack.Store.Wrote.isFile`

  A path to which a text could be written takes any other text, then
  and after further writes.  A file that is written to is still a
  file, and a text that is written once more changes nothing.
-/

------------------------------------------------------------
-- What a Write Keeps
------------------------------------------------------------

namespace ResourcePack

namespace Store

namespace Wrote

variable {s s' : Store} {path text : String} {l : Location}

/- No directory comes or goes. -/
theorem hasDirectory_eq
    (hWrote : Wrote s path text l s')
    (hRooted : s.Rooted)
    (m : Location) :
    s'.hasDirectory m = s.hasDirectory m := by
  rcases hWrote.left with ⟨d, -, -, hSame⟩ | ⟨-, hPut⟩
  · rw [hSame]
  · rw [hPut]
    exact (hWrote.isOpen hRooted).hasDirectory_put text.toByteArray m

/- No device comes or goes. -/
theorem get?_eq_device_iff
    (hWrote : Wrote s path text l s')
    {m : Location}
    {d : Device} :
    s'.get? m = some (.device d) ↔ s.get? m = some (.device d) := by
  constructor
  · intro hDevice
    have hSome : ¬∀ d', s.get? m ≠ some (.device d') :=
      fun hNone => hWrote.not_device hNone d hDevice
    rcases Classical.not_forall_not.mp hSome with ⟨d', hOther⟩
    rw [← hWrote.get?_of_device hOther]
    exact hDevice
  · intro hDevice
    exact (hWrote.get?_of_device hDevice).trans hDevice

/- A file is still a file, with its old text or the one written. -/
theorem exists_file
    (hWrote : Wrote s path text l s')
    {m : Location}
    {contents : ByteArray}
    (hFile : s.get? m = some (.file contents)) :
    ∃ contents', s'.get? m = some (.file contents') := by
  by_cases hSame : m = l
  · subst hSame
    refine ⟨text.toByteArray, hWrote.get?_self ?_⟩
    intro d hDevice
    rw [hFile] at hDevice
    cases hDevice
  · exact ⟨contents, (hWrote.get?_of_ne hSame).trans hFile⟩

/- What is found at a path was there, or it is what was written. -/
theorem find_iff
    (hWrote : Wrote s path text l s')
    (hRooted : s.Rooted)
    {other : String}
    {m : Location}
    {e : Entry} :
    s'.find other = .ok (m, e) ↔
      s.locate .existing other = .ok m ∧ s'.get? m = some e := by
  rw [find_eq_ok_iff, hWrote.locate_iff hRooted]

theorem isFile
    (hWrote : Wrote s path text l s')
    (hRooted : s.Rooted)
    {other : String}
    (hFile : s.isFile other = true) :
    s'.isFile other = true := by
  rcases isFile_iff.mp hFile with ⟨m, contents, hFind⟩
  rcases find_eq_ok_iff.mp hFind with ⟨hLocate, hEntry⟩
  rcases hWrote.exists_file hEntry with ⟨contents', hEntry'⟩
  exact isFile_iff.mpr
    ⟨m, contents', (hWrote.find_iff hRooted).mpr ⟨hLocate, hEntry'⟩⟩

/- A text that is where it is written already changes nothing. -/
theorem get?_of_holds
    (hWrote : Wrote s path text l s')
    (hHolds : (∀ d, s.get? l ≠ some (.device d)) →
      s.get? l = some (.file text.toByteArray))
    (m : Location) :
    s'.get? m = s.get? m := by
  by_cases hSame : m = l
  · subst hSame
    rcases hWrote.left with ⟨d, -, -, hKept⟩ | ⟨hNone, -⟩
    · rw [hKept]
    · rw [hWrote.get?_self hNone, hHolds hNone]
  · exact hWrote.get?_of_ne hSame

end Wrote

end Store

end ResourcePack

------------------------------------------------------------
-- Paths That Take a Text
------------------------------------------------------------

namespace ResourcePack

namespace Store

variable {s s' : Store} {path text : String} {l : Location}

/-
  A path to which any text can be written: there is no directory at
  its end, and no device that has no room.
-/
structure Takes
    (s : Store)
    (path : String)
    (l : Location) : Prop where
  located : s.locate .creating path = .ok l
  no_directory : s.hasDirectory l = false
  room : ∀ d, s.get? l = some (.device d) → d = .null

/- A path that took a text takes any. -/
theorem Wrote.takes
    (hWrote : Wrote s path text l s')
    (hText : text ≠ "") :
    s.Takes path l where
  located := hWrote.located
  no_directory := hWrote.no_directory
  room := by
    intro d hDevice
    rcases hWrote.left with ⟨d', hDevice', hTaken, -⟩ | ⟨hNone, -⟩
    · rw [hDevice', Option.some.injEq, Entry.device.injEq] at hDevice
      rw [← hDevice]
      exact hTaken.resolve_right hText
    · exact absurd hDevice (hNone d)

namespace Takes

theorem exists_wrote
    (hTakes : s.Takes path l)
    (hRooted : s.Rooted)
    (text : String) :
    ∃ s', s.write path text = (.ok (), s') ∧ Wrote s path text l s' := by
  have hLinks := (reached_of_locate hRooted hTakes.located).no_link
  have hWritten : ∃ s', s.write path text = (.ok (), s') := by
    unfold write save update
    simp only [hTakes.located]
    cases hEntry : s.get? l with
    | none => exact ⟨_, rfl⟩
    | some e =>
      cases e with
      | directory =>
        have hThere := hasDirectory_iff.mpr hEntry
        rw [hTakes.no_directory] at hThere
        cases hThere
      | file old => exact ⟨_, rfl⟩
      | link target => exact absurd hEntry (hLinks target)
      | device d =>
        rw [hTakes.room d hEntry]
        exact ⟨_, rfl⟩
  rcases hWritten with ⟨s', hWrite⟩
  rcases wrote_of_write hRooted hWrite with ⟨l', hWrote⟩
  have hSame : l' = l := by
    have hLocated := hWrote.located.symm.trans hTakes.located
    rwa [Except.ok.injEq] at hLocated
  exact ⟨s', hWrite, hSame ▸ hWrote⟩

/- A path still takes texts after something was written to the store. -/
theorem after
    (hTakes : s.Takes path l)
    (hRooted : s.Rooted)
    {other : String}
    {m : Location}
    (hWrote : Wrote s other text m s') :
    s'.Takes path l where
  located := (hWrote.locate_iff hRooted).mpr hTakes.located
  no_directory := by
    rw [hWrote.hasDirectory_eq hRooted]
    exact hTakes.no_directory
  room d hDevice := hTakes.room d (hWrote.get?_eq_device_iff.mp hDevice)

end Takes

end Store

end ResourcePack
