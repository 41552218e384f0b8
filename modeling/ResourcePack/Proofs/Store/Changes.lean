import ResourcePack.Proofs.Store.Writing

/-
  The stores that can be reached.

  Key definitions include:
    * `ResourcePack.Store.Change`
    * `ResourcePack.Store.after`

  Main declarations:
    * `ResourcePack.Store.Rooted.apply`
    * `ResourcePack.Store.rooted_after`

  Whatever is done to a store to work in, and whether it succeeds
  or fails, everything in it lies in directories.
-/

------------------------------------------------------------
-- Free Locations
------------------------------------------------------------

namespace ResourcePack

namespace Store

variable {s : Store} {purpose : Purpose}

/- A proper name with a slash behind it is not the last of the names. -/
theorem Proper.exists_cons
    {name : String}
    {rest : List String}
    (hProper : Proper purpose name rest)
    (hSlash : (name :: rest).getLast? = some "") :
    ∃ next others, rest = next :: others ∧
      (next :: others).getLast? = some "" := by
  cases rest with
  | nil => exact absurd (.inl (Option.some.inj hSlash)) hProper.not_same
  | cons next others =>
    rw [List.getLast?_cons_cons] at hSlash
    exact ⟨next, others, rfl, hSlash⟩

/- Names with a slash behind them lead to directories. -/
theorem hasDirectory_of_leads_slash
    {links : Nat}
    {l l' : Location}
    {names : List String}
    (hLeads : Leads s purpose links l names l')
    (hSlash : names.getLast? = some "") :
    s.hasDirectory l' = true := by
  induction hLeads with
  | done => cases hSlash
  | @same _ _ _ _ rest hDirectory hName hRest ih =>
    cases rest with
    | nil =>
      cases hRest
      exact hDirectory
    | cons next others =>
      rw [List.getLast?_cons_cons] at hSlash
      exact ih hSlash
  | @up _ _ _ rest hDirectory hRest ih =>
    cases rest with
    | nil => simp at hSlash
    | cons next others =>
      rw [List.getLast?_cons_cons] at hSlash
      exact ih hSlash
  | link hDirectory hProper hLink hRest ih =>
    rcases hProper.exists_cons hSlash with ⟨next, others, rfl, hLast⟩
    apply ih
    rw [List.getLast?_append, hLast]
    rfl
  | down hDirectory hProper hEntry hNoLink hRest ih =>
    rcases hProper.exists_cons hSlash with ⟨next, others, rfl, hLast⟩
    exact ih hLast
  | free hDirectory hProper hNone =>
    rcases hProper.exists_cons hSlash with ⟨next, others, hNil, -⟩
    cases hNil

/- A location that is free lies in a directory, and nothing is there. -/
theorem of_vacancy
    {path : String}
    {l : Location}
    (hVacancy : s.vacancy path = .ok l) :
    l ≠ [] ∧ s.hasDirectory l.dropLast = true ∧ s.get? l = none := by
  unfold vacancy at hVacancy
  rcases bind_eq_ok_iff.mp hVacancy with ⟨_, -, hVacancy⟩
  cases hName : ((segments path).filter (· ≠ "")).getLast? with
  | none =>
    simp only [hName] at hVacancy
    cases hVacancy
  | some name =>
    simp only [hName] at hVacancy
    rcases bind_eq_ok_iff.mp hVacancy with ⟨above, hAbove, hVacancy⟩
    rcases guard_eq_ok_iff.mp hVacancy with ⟨-, hVacancy⟩
    rcases guard_eq_ok_iff.mp hVacancy with ⟨-, hVacancy⟩
    rcases guard_eq_ok_iff.mp hVacancy with ⟨hFree, hVacancy⟩
    cases hVacancy
    refine ⟨by simp, ?_, by simpa using hFree⟩
    rw [List.dropLast_concat]
    exact hasDirectory_of_leads_slash (walk_eq_ok_iff.mp hAbove)
      List.getLast?_concat

end Store

end ResourcePack

------------------------------------------------------------
-- Changes
------------------------------------------------------------

namespace ResourcePack

namespace Store

/- What can be done to a store by a path. -/
inductive Change where
  | save (path : String) (contents : ByteArray)
  | write (path text : String)
  | append (path text : String)
  | makeDirectories (path : String)
  | makeLink (path target : String)
  | remove (path : String)
  deriving DecidableEq

/- Try to change a store. -/
def apply
    (s : Store) : Change → Except FileFault Unit × Store
  | .save path contents => s.save path contents
  | .write path text => s.write path text
  | .append path text => s.append path text
  | .makeDirectories path => s.makeDirectories path
  | .makeLink path target => s.makeLink path target
  | .remove path => s.remove path

/- The store after changes were tried one after the other. -/
def after
    (s : Store)
    (changes : List Change) : Store :=
  changes.foldl (fun s change => (s.apply change).2) s

variable {s : Store}

/- To update a file leaves everything in directories. -/
theorem Rooted.update
    (hRooted : s.Rooted)
    (path : String)
    (added : ByteArray)
    (contents : ByteArray → ByteArray) :
    (s.update path added contents).2.Rooted := by
  rcases update_cases hRooted path added contents with
    ⟨fault, hFailed⟩ | ⟨l, hLocate, hFree, hLeft⟩
  · rw [hFailed]
    exact hRooted
  · rcases hLeft with ⟨d, -, -, hUpdate⟩ | ⟨-, old, hUpdate⟩
    · rw [hUpdate]
      exact hRooted
    · have hOpen : s.Open l :=
        { reached_of_locate hRooted hLocate with no_directory := hFree }
      rw [hUpdate]
      exact hOpen.rooted_put hRooted _

/- An entry at a free location leaves everything in directories. -/
theorem Rooted.put_vacancy
    (hRooted : s.Rooted)
    {path : String}
    {l : Location}
    (hVacancy : s.vacancy path = .ok l)
    (e : Entry) :
    (s.put l e).Rooted := by
  rcases of_vacancy hVacancy with ⟨hRoot, hAbove, hNone⟩
  apply hRooted.put hRoot hAbove
  intro hDirectory
  rw [hasDirectory_iff, hNone] at hDirectory
  cases hDirectory

theorem Rooted.makeDirectory
    (hRooted : s.Rooted)
    (path : String) :
    (s.makeDirectory path).2.Rooted := by
  unfold Store.makeDirectory
  cases hVacancy : s.vacancy path with
  | error fault => exact hRooted
  | ok l => exact hRooted.put_vacancy hVacancy _

/- To look at what a fault has left does not change it. -/
theorem settle_snd
    (path : String)
    (result : Except FileFault Unit × Store) :
    (makeAll.settle path result).2 = result.2 := by
  rcases result with ⟨fault | done, s'⟩ <;> rfl

theorem Rooted.makeAll
    (hRooted : s.Rooted)
    (path : String)
    (above : List String) :
    (s.makeAll path above).2.Rooted := by
  induction above generalizing path with
  | nil =>
    rw [Store.makeAll, settle_snd]
    exact hRooted.makeDirectory path
  | cons next rest ih =>
    rw [Store.makeAll]
    have hMade := hRooted.makeDirectory path
    split
    · have hAbove := ih next
      split
      · rename_i s' hDone
        rw [hDone] at hAbove
        rw [settle_snd]
        exact hAbove.makeDirectory path
      · exact hAbove
    · rw [settle_snd]
      exact hMade

theorem Rooted.makeDirectories
    (hRooted : s.Rooted)
    (path : String) :
    (s.makeDirectories path).2.Rooted := by
  unfold Store.makeDirectories
  cases Path.withParents path with
  | nil => exact hRooted
  | cons path above => exact hRooted.makeAll path above

theorem Rooted.makeLink
    (hRooted : s.Rooted)
    (path target : String) :
    (s.makeLink path target).2.Rooted := by
  unfold Store.makeLink
  cases hVacancy : s.vacancy path with
  | error fault => exact hRooted
  | ok l =>
    simp only
    split
    · exact hRooted
    · exact hRooted.put_vacancy hVacancy _

theorem get?_erase_of_ne
    (s : Store)
    {l l' : Location}
    (hNe : l' ≠ l) :
    (s.erase l).get? l' = s.get? l' := by
  unfold get? erase
  rw [lookup_filter_ne s.entries hNe]

theorem get?_erase_self
    (s : Store)
    {l : Location}
    (hRoot : l ≠ []) :
    (s.erase l).get? l = none := by
  unfold get? erase
  rw [if_neg hRoot, List.lookup_eq_none_iff]
  intro p hMem
  have hNe : p.1 ≠ l := of_decide_eq_true (List.mem_filter.mp hMem).2
  simpa using hNe.symm

theorem Rooted.erase
    (hRooted : s.Rooted)
    {l : Location}
    (hFree : s.hasDirectory l = false) :
    (s.erase l).Rooted := by
  have hDirectory : ∀ {l'}, s.hasDirectory l' = true →
      (s.erase l).hasDirectory l' = true := by
    intro l' hThere
    have hNe : l' ≠ l := by
      rintro rfl
      rw [hFree] at hThere
      cases hThere
    rw [hasDirectory_iff, get?_erase_of_ne s hNe]
    exact hasDirectory_iff.mp hThere
  constructor
  · exact hDirectory hRooted.here
  · intro l' e hEntry
    apply hDirectory
    by_cases hSame : l' = l
    · rw [hSame, get?_erase_self s (ne_root hFree)] at hEntry
      cases hEntry
    · rw [get?_erase_of_ne s hSame] at hEntry
      exact hRooted.above l' e hEntry

theorem Rooted.remove
    (hRooted : s.Rooted)
    (path : String) :
    (s.remove path).2.Rooted := by
  unfold Store.remove
  cases s.walk .existing maxLinks (start path s.here)
      ((segments path).dropLast ++ [""]) with
  | error fault => exact hRooted
  | ok above =>
    simp only
    split
    · exact hRooted
    · exact hRooted
    · rename_i e hNotDirectory hEntry
      apply hRooted.erase
      rw [Bool.eq_false_iff]
      intro hDirectory
      rw [hasDirectory_iff, hEntry, Option.some.injEq] at hDirectory
      exact hNotDirectory hDirectory

/- A change leaves everything in directories, and so does a failure. -/
theorem Rooted.apply
    (hRooted : s.Rooted)
    (change : Change) :
    (s.apply change).2.Rooted := by
  cases change with
  | save path contents => exact hRooted.update path _ _
  | write path text => exact hRooted.update path _ _
  | append path text => exact hRooted.update path _ _
  | makeDirectories path => exact hRooted.makeDirectories path
  | makeLink path target => exact hRooted.makeLink path target
  | remove path => exact hRooted.remove path

/- Whatever was tried in a store to work in, all lies in directories. -/
theorem rooted_after
    (name : String)
    (changes : List Change) :
    ((initial [name]).after changes).Rooted := by
  have hStep : ∀ s : Store, s.Rooted → (s.after changes).Rooted := by
    induction changes with
    | nil => exact fun _ hRooted => hRooted
    | cons change rest ih =>
      intro s hRooted
      exact ih _ (hRooted.apply change)
  exact hStep _ (rooted_initial name)

end Store

end ResourcePack
