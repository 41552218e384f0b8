import ResourcePack.Proofs.Steps
import ResourcePack.Store.Lookup

/-
  Where the paths of a store lead.

  Key definitions include:
    * `ResourcePack.Store.Leads`
    * `ResourcePack.Store.Rooted`
    * `ResourcePack.Store.Reached`
    * `ResourcePack.Store.Open`

  Main declarations:
    * `ResourcePack.Store.walk_eq_ok_iff`
    * `ResourcePack.Store.reached_of_locate`
    * `ResourcePack.Store.locate_existing_of_creating`
    * `ResourcePack.Store.Open.locate_put_iff`

  Where names lead is said by a relation, one case for each kind of
  name, and a walk along them ends there.  In a store in which
  everything lies in directories, no path ends at a link.  A file
  that is put where there is no directory and no link leaves all
  paths leading where they led.
-/

------------------------------------------------------------
-- Walks
------------------------------------------------------------

namespace ResourcePack

namespace Store

/- A name that is looked up, given the names after it. -/
structure Proper
    (purpose : Purpose)
    (name : String)
    (rest : List String) : Prop where
  not_same : ¬(name = "" ∨ name = ".")
  not_up : name ≠ ".."
  not_asked : ¬(purpose = .creating ∧ rest = [""])
  short : name.utf8ByteSize ≤ maxNameLength

/- Names lead from one location to another, past so many links. -/
inductive Leads
    (s : Store)
    (purpose : Purpose) :
    Nat → Location → List String → Location → Prop where
  | done
      {links : Nat}
      {l : Location} :
      Leads s purpose links l [] l
  | same
      {links : Nat}
      {l l' : Location}
      {name : String}
      {rest : List String}
      (hDirectory : s.hasDirectory l = true)
      (hName : name = "" ∨ name = ".")
      (hRest : Leads s purpose links l rest l') :
      Leads s purpose links l (name :: rest) l'
  | up
      {links : Nat}
      {l l' : Location}
      {rest : List String}
      (hDirectory : s.hasDirectory l = true)
      (hRest : Leads s purpose links l.dropLast rest l') :
      Leads s purpose links l (".." :: rest) l'
  | link
      {links : Nat}
      {l l' : Location}
      {name target : String}
      {rest : List String}
      (hDirectory : s.hasDirectory l = true)
      (hProper : Proper purpose name rest)
      (hLink : s.get? (l ++ [name]) = some (.link target))
      (hRest : Leads s purpose links (start target l)
        (segments target ++ rest) l') :
      Leads s purpose (links + 1) l (name :: rest) l'
  | down
      {links : Nat}
      {l l' : Location}
      {name : String}
      {rest : List String}
      {e : Entry}
      (hDirectory : s.hasDirectory l = true)
      (hProper : Proper purpose name rest)
      (hEntry : s.get? (l ++ [name]) = some e)
      (hNoLink : ∀ target, e ≠ .link target)
      (hRest : Leads s purpose links (l ++ [name]) rest l') :
      Leads s purpose links l (name :: rest) l'
  | free
      {links : Nat}
      {l : Location}
      {name : String}
      (hDirectory : s.hasDirectory l = true)
      (hProper : Proper purpose name [])
      (hNone : s.get? (l ++ [name]) = none) :
      Leads s purpose links l [name] (l ++ [name])

variable {s : Store} {purpose : Purpose}

/- What links lead to is walked to with one link less to pass. -/
def walkPast
    (s : Store)
    (purpose : Purpose) : Nat → Location → List String → Except FileFault Location
  | 0 => fun _ _ => .error .tooManyLinks
  | links + 1 => s.walk purpose links

/- A walk goes by what it is given for links. -/
theorem walk_eq
    (s : Store)
    (purpose : Purpose)
    (links : Nat) :
    s.walk purpose links = s.walkWith purpose (s.walkPast purpose links) := by
  cases links <;> rfl

variable {follow : Location → List String → Except FileFault Location}

/- An empty name and `.` stay in a directory. -/
theorem walkWith_same
    {l : Location}
    {name : String}
    {rest : List String}
    (hDirectory : s.hasDirectory l = true)
    (hName : name = "" ∨ name = ".") :
    s.walkWith purpose follow l (name :: rest) =
      s.walkWith purpose follow l rest := by
  rw [walkWith]
  simp only [hDirectory, Bool.not_true, Bool.false_eq_true, if_false,
    Bool.or_eq_true, decide_eq_true_eq, hName, if_true]

/- The name `..` leads to the location above a directory. -/
theorem walkWith_up
    {l : Location}
    {rest : List String}
    (hDirectory : s.hasDirectory l = true) :
    s.walkWith purpose follow l (".." :: rest) =
      s.walkWith purpose follow l.dropLast rest := by
  rw [walkWith]
  simp [hDirectory]

/-
  Where a proper name leads from a directory depends on what is at
  the location of that name.
-/
theorem walkWith_proper
    {l : Location}
    {name : String}
    {rest : List String}
    (hDirectory : s.hasDirectory l = true)
    (hProper : Proper purpose name rest) :
    s.walkWith purpose follow l (name :: rest) =
      match s.get? (l ++ [name]) with
      | some (.link target) => follow (start target l) (segments target ++ rest)
      | some _ => s.walkWith purpose follow (l ++ [name]) rest
      | none => if rest.isEmpty then .ok (l ++ [name]) else .error .notFound := by
  have hSame : ¬(decide (name = "") || decide (name = ".")) = true := by
    simpa only [Bool.or_eq_true, decide_eq_true_eq] using hProper.not_same
  have hAsked : ¬(decide (purpose = .creating) && decide (rest = [""])) =
      true := by
    simpa only [Bool.and_eq_true, decide_eq_true_eq] using hProper.not_asked
  have hShort : ¬maxNameLength < name.utf8ByteSize :=
    Nat.not_lt.mpr hProper.short
  rw [walkWith, hDirectory]
  exact (if_neg hSame).trans ((if_neg hProper.not_up).trans
    ((if_neg hAsked).trans (if_neg hShort)))

/- A name is followed only from a directory, and only if it may be. -/
theorem of_walkWith_cons
    {l l' : Location}
    {name : String}
    {rest : List String}
    (hWalk : s.walkWith purpose follow l (name :: rest) = .ok l') :
    s.hasDirectory l = true ∧
      ((name = "" ∨ name = ".") ∨ name = ".." ∨ Proper purpose name rest) := by
  rw [walkWith] at hWalk
  by_cases hDirectory : s.hasDirectory l = true
  · refine ⟨hDirectory, ?_⟩
    by_cases hSame : name = "" ∨ name = "."
    · exact .inl hSame
    by_cases hUp : name = ".."
    · exact .inr (.inl hUp)
    simp only [hDirectory, Bool.not_true, Bool.false_eq_true, if_false,
      Bool.or_eq_true, Bool.and_eq_true, decide_eq_true_eq, hSame, hUp]
      at hWalk
    by_cases hAsked : purpose = .creating ∧ rest = [""]
    · rw [if_pos hAsked] at hWalk
      cases hWalk
    rw [if_neg hAsked] at hWalk
    by_cases hLong : maxNameLength < name.utf8ByteSize
    · rw [if_pos hLong] at hWalk
      cases hWalk
    exact .inr (.inr ⟨hSame, hUp, hAsked, Nat.not_lt.mp hLong⟩)
  · simp [hDirectory] at hWalk

/- Names that lead somewhere are followed to there. -/
theorem walk_of_leads
    {links : Nat}
    {l l' : Location}
    {names : List String}
    (hLeads : Leads s purpose links l names l') :
    s.walk purpose links l names = .ok l' := by
  induction hLeads with
  | done =>
    rw [walk_eq, walkWith]
  | same hDirectory hName _ ih =>
    rwa [walk_eq, walkWith_same hDirectory hName, ← walk_eq]
  | up hDirectory _ ih =>
    rwa [walk_eq, walkWith_up hDirectory, ← walk_eq]
  | link hDirectory hProper hLink _ ih =>
    rw [walk_eq, walkWith_proper hDirectory hProper, hLink]
    exact ih
  | @down _ _ _ _ _ e hDirectory hProper hEntry hNoLink _ ih =>
    rw [walk_eq, walkWith_proper hDirectory hProper, hEntry, ← walk_eq]
    cases e with
    | link target => exact absurd rfl (hNoLink target)
    | directory => exact ih
    | file contents => exact ih
    | device d => exact ih
  | free hDirectory hProper hNone =>
    rw [walk_eq, walkWith_proper hDirectory hProper, hNone]
    rfl

/- Names that are followed lead somewhere, if the links on them do. -/
theorem leads_of_walkWith
    {links : Nat}
    (hPast : ∀ l names l', s.walkPast purpose links l names = .ok l' →
      ∃ fewer, links = fewer + 1 ∧ Leads s purpose fewer l names l')
    {l l' : Location}
    {names : List String}
    (hWalk : s.walkWith purpose (s.walkPast purpose links) l names = .ok l') :
    Leads s purpose links l names l' := by
  induction names generalizing l with
  | nil =>
    cases hWalk
    exact .done
  | cons name rest ih =>
    rcases of_walkWith_cons hWalk with ⟨hDirectory, hSame | hUp | hProper⟩
    · rw [walkWith_same hDirectory hSame] at hWalk
      exact .same hDirectory hSame (ih hWalk)
    · subst hUp
      rw [walkWith_up hDirectory] at hWalk
      exact .up hDirectory (ih hWalk)
    · rw [walkWith_proper hDirectory hProper] at hWalk
      cases hEntry : s.get? (l ++ [name]) with
      | none =>
        rw [hEntry] at hWalk
        cases rest with
        | nil =>
          cases hWalk
          exact .free hDirectory hProper hEntry
        | cons next others => cases hWalk
      | some e =>
        rw [hEntry] at hWalk
        cases e with
        | link target =>
          rcases hPast _ _ _ hWalk with ⟨fewer, hLinks, hRest⟩
          subst hLinks
          exact .link hDirectory hProper hEntry hRest
        | directory => exact .down hDirectory hProper hEntry nofun (ih hWalk)
        | file contents =>
          exact .down hDirectory hProper hEntry nofun (ih hWalk)
        | device d => exact .down hDirectory hProper hEntry nofun (ih hWalk)

/- Names that are followed to somewhere lead there. -/
theorem leads_of_walk
    {links : Nat}
    {l l' : Location}
    {names : List String}
    (hWalk : s.walk purpose links l names = .ok l') :
    Leads s purpose links l names l' := by
  induction links generalizing l l' names with
  | zero =>
    rw [walk_eq] at hWalk
    refine leads_of_walkWith ?_ hWalk
    intro l names l' hPast
    cases hPast
  | succ links ih =>
    rw [walk_eq] at hWalk
    refine leads_of_walkWith ?_ hWalk
    intro l names l' hPast
    exact ⟨links, rfl, ih hPast⟩

/- A walk ends where the names lead. -/
theorem walk_eq_ok_iff
    {links : Nat}
    {l l' : Location}
    {names : List String} :
    s.walk purpose links l names = .ok l' ↔
      Leads s purpose links l names l' :=
  ⟨leads_of_walk, walk_of_leads⟩

/- A path that can be one at all leads where its names lead. -/
theorem locate_eq_ok_iff
    {path : String}
    {l : Location} :
    s.locate purpose path = .ok l ↔
      checkPath path = .ok () ∧
        Leads s purpose maxLinks (start path s.here) (segments path) l := by
  rw [← walk_eq_ok_iff, locate, bind_eq_ok_iff]
  exact ⟨fun ⟨_, hPath, hWalk⟩ => ⟨hPath, hWalk⟩,
    fun ⟨hPath, hWalk⟩ => ⟨(), hPath, hWalk⟩⟩

end Store

end ResourcePack

------------------------------------------------------------
-- Directories
------------------------------------------------------------

namespace ResourcePack

namespace Store

variable {s : Store} {purpose : Purpose}

theorem hasDirectory_iff
    {l : Location} :
    s.hasDirectory l = true ↔ s.get? l = some .directory := by
  unfold hasDirectory
  cases s.get? l with
  | none => simp
  | some e => cases e <;> simp [Entry.isDirectory]

theorem hasDirectory_root
    (s : Store) :
    s.hasDirectory [] = true :=
  hasDirectory_iff.mpr s.get?_root

theorem ne_root
    {l : Location}
    (hNone : s.hasDirectory l = false) :
    l ≠ [] := by
  rintro rfl
  rw [hasDirectory_root] at hNone
  cases hNone

/-
  Everything in a store lies in a directory, and relative paths
  start from one.
-/
structure Rooted
    (s : Store) : Prop where
  here : s.hasDirectory s.here = true
  above : ∀ l e, s.get? l = some e → s.hasDirectory l.dropLast = true

/- It is enough to look at what the store lists. -/
theorem rooted_of_entries
    (hHere : s.hasDirectory s.here = true)
    (hEntries : ∀ p ∈ s.entries, s.hasDirectory p.1.dropLast = true) :
    s.Rooted := by
  refine ⟨hHere, ?_⟩
  intro l e hEntry
  unfold get? at hEntry
  split at hEntry
  · rename_i hRoot
    rw [hRoot]
    exact s.hasDirectory_root
  · rcases List.lookup_eq_some_iff.mp hEntry with ⟨before, after, hList, -⟩
    apply hEntries (l, e)
    rw [hList]
    exact List.mem_append_right _ List.mem_cons_self

theorem rooted_initial
    (name : String) :
    (initial [name]).Rooted := by
  have hDevices : (initial [name]).hasDirectory ["dev"] = true := by
    apply hasDirectory_iff.mpr
    by_cases hName : "dev" = name
    · subst hName
      rfl
    · refine List.lookup_eq_some_iff.mpr
        ⟨[([name], .directory)], _, rfl, ?_⟩
      simp [hName]
  have hHere : (initial [name]).hasDirectory [name] = true := by
    apply hasDirectory_iff.mpr
    simp [initial, get?]
  apply rooted_of_entries hHere
  simp only [initial, List.forall_mem_cons, List.dropLast]
  exact ⟨hasDirectory_root _, hasDirectory_root _, hDevices, hDevices,
    List.forall_mem_nil _⟩

theorem Rooted.dropLast
    (hRooted : s.Rooted)
    {l : Location}
    (hDirectory : s.hasDirectory l = true) :
    s.hasDirectory l.dropLast = true :=
  hRooted.above l .directory (hasDirectory_iff.mp hDirectory)

/-
  Everything still lies in directories after an entry was put into
  one, unless it took the place of a directory.
-/
theorem Rooted.put
    (hRooted : s.Rooted)
    {l : Location}
    {e : Entry}
    (hRoot : l ≠ [])
    (hAbove : s.hasDirectory l.dropLast = true)
    (hKept : s.hasDirectory l = true → e = .directory) :
    (s.put l e).Rooted := by
  have hDirectory : ∀ {l'}, s.hasDirectory l' = true →
      (s.put l e).hasDirectory l' = true := by
    intro l' hThere
    rw [hasDirectory_iff]
    by_cases hSame : l' = l
    · subst hSame
      rw [get?_put_self s e hRoot, hKept hThere]
    · rw [get?_put_of_ne s e hSame]
      exact hasDirectory_iff.mp hThere
  constructor
  · exact hDirectory hRooted.here
  · intro l' e' hEntry
    apply hDirectory
    by_cases hSame : l' = l
    · rw [hSame]
      exact hAbove
    · rw [get?_put_of_ne s e hSame] at hEntry
      exact hRooted.above l' e' hEntry

/- A path starts from a directory, given one to start from. -/
theorem hasDirectory_start
    {l : Location}
    (hDirectory : s.hasDirectory l = true)
    (path : String) :
    s.hasDirectory (start path l) = true := by
  unfold start
  cases Path.isAbsolute path with
  | true => exact s.hasDirectory_root
  | false => exact hDirectory

/-
  A location that a path can end at: it lies in a directory, and
  there is no link at it.
-/
structure Reached
    (s : Store)
    (l : Location) : Prop where
  above : s.hasDirectory l.dropLast = true
  no_link : ∀ target, s.get? l ≠ some (.link target)

/- A path can end at each directory. -/
theorem Rooted.reached
    (hRooted : s.Rooted)
    {l : Location}
    (hDirectory : s.hasDirectory l = true) :
    s.Reached l := by
  constructor
  · exact hRooted.dropLast hDirectory
  · intro target hLink
    rw [hasDirectory_iff.mp hDirectory] at hLink
    cases hLink

/- Names lead from where a path can end to where a path can end. -/
theorem reached_of_leads
    (hRooted : s.Rooted)
    {links : Nat}
    {l l' : Location}
    {names : List String}
    (hStart : s.Reached l)
    (hLeads : Leads s purpose links l names l') :
    s.Reached l' := by
  induction hLeads with
  | done => exact hStart
  | same _ _ _ ih => exact ih hStart
  | up hDirectory _ ih =>
    exact ih (hRooted.reached (hRooted.dropLast hDirectory))
  | link hDirectory _ _ _ ih =>
    exact ih (hRooted.reached (hasDirectory_start hDirectory _))
  | @down _ l _ name _ e hDirectory _ hEntry hNoLink _ ih =>
    apply ih
    constructor
    · rwa [List.dropLast_concat]
    · intro target hLink
      rw [hEntry, Option.some.injEq] at hLink
      exact hNoLink target hLink
  | free hDirectory _ hNone =>
    constructor
    · rwa [List.dropLast_concat]
    · intro target hLink
      rw [hNone] at hLink
      cases hLink

/- A path leads to where a path can end. -/
theorem reached_of_locate
    (hRooted : s.Rooted)
    {path : String}
    {l : Location}
    (hLocate : s.locate purpose path = .ok l) :
    s.Reached l :=
  reached_of_leads hRooted
    (hRooted.reached (hasDirectory_start hRooted.here path))
    (locate_eq_ok_iff.mp hLocate).2

/- Where a file can be made is where the path leads. -/
theorem leads_existing_of_creating
    {links : Nat}
    {l l' : Location}
    {names : List String}
    (hLeads : Leads s .creating links l names l') :
    Leads s .existing links l names l' := by
  have hExisting : ∀ {name : String} {rest : List String},
      Proper .creating name rest → Proper .existing name rest := by
    intro name rest hProper
    exact ⟨hProper.not_same, hProper.not_up, nofun, hProper.short⟩
  induction hLeads with
  | done => exact .done
  | same hDirectory hName _ ih => exact .same hDirectory hName ih
  | up hDirectory _ ih => exact .up hDirectory ih
  | link hDirectory hProper hLink _ ih =>
    exact .link hDirectory (hExisting hProper) hLink ih
  | down hDirectory hProper hEntry hNoLink _ ih =>
    exact .down hDirectory (hExisting hProper) hEntry hNoLink ih
  | free hDirectory hProper hNone =>
    exact .free hDirectory (hExisting hProper) hNone

/- A path for a new file leads to it. -/
theorem locate_existing_of_creating
    {path : String}
    {l : Location}
    (hLocate : s.locate .creating path = .ok l) :
    s.locate .existing path = .ok l := by
  rcases locate_eq_ok_iff.mp hLocate with ⟨hPath, hLeads⟩
  exact locate_eq_ok_iff.mpr ⟨hPath, leads_existing_of_creating hLeads⟩

end Store

end ResourcePack

------------------------------------------------------------
-- Files That Are Put
------------------------------------------------------------

namespace ResourcePack

namespace Store

variable {s : Store} {purpose : Purpose}

/-
  A location at which a file can be put: a path can end there, and
  there is no directory.
-/
structure Open
    (s : Store)
    (m : Location) : Prop extends s.Reached m where
  no_directory : s.hasDirectory m = false

variable {m : Location}

/- Everything still lies in directories after a file was put. -/
theorem Open.rooted_put
    (hOpen : s.Open m)
    (hRooted : s.Rooted)
    (contents : ByteArray) :
    (s.put m (.file contents)).Rooted := by
  apply hRooted.put (ne_root hOpen.no_directory) hOpen.above
  intro hDirectory
  rw [hOpen.no_directory] at hDirectory
  cases hDirectory

variable (contents : ByteArray)

/- A file that is put is no directory, and takes the place of none. -/
theorem Open.hasDirectory_put
    (hOpen : s.Open m)
    (l : Location) :
    (s.put m (.file contents)).hasDirectory l = s.hasDirectory l := by
  by_cases hSame : l = m
  · rw [hSame, hOpen.no_directory, hasDirectory,
      get?_put_self _ _ (ne_root hOpen.no_directory)]
    rfl
  · rw [hasDirectory, hasDirectory, get?_put_of_ne _ _ hSame]

/- Names lead to the same place after a file was put. -/
theorem Open.leads_put
    (hOpen : s.Open m)
    {links : Nat}
    {l l' : Location}
    {names : List String}
    (hLeads : Leads s purpose links l names l') :
    Leads (s.put m (.file contents)) purpose links l names l' := by
  have hGet := fun l (hNe : l ≠ m) => get?_put_of_ne s (.file contents) hNe
  induction hLeads with
  | done => exact .done
  | same hDirectory hName _ ih =>
    exact .same (by rwa [hOpen.hasDirectory_put]) hName ih
  | up hDirectory _ ih =>
    exact .up (by rwa [hOpen.hasDirectory_put]) ih
  | @link _ l _ name target _ hDirectory hProper hLink _ ih =>
    have hNe : l ++ [name] ≠ m := by
      rintro rfl
      exact hOpen.no_link target hLink
    exact .link (by rwa [hOpen.hasDirectory_put]) hProper
      ((hGet _ hNe).trans hLink) ih
  | @down _ l _ name _ e hDirectory hProper hEntry hNoLink _ ih =>
    by_cases hSame : l ++ [name] = m
    · refine .down (e := .file contents) (by rwa [hOpen.hasDirectory_put])
        hProper ?_ nofun ih
      rw [hSame, get?_put_self _ _ (ne_root hOpen.no_directory)]
    · exact .down (by rwa [hOpen.hasDirectory_put]) hProper
        ((hGet _ hSame).trans hEntry) hNoLink ih
  | @free _ l name hDirectory hProper hNone =>
    by_cases hSame : l ++ [name] = m
    · refine .down (e := .file contents) (by rwa [hOpen.hasDirectory_put])
        hProper ?_ nofun .done
      rw [hSame, get?_put_self _ _ (ne_root hOpen.no_directory)]
    · exact .free (by rwa [hOpen.hasDirectory_put]) hProper
        ((hGet _ hSame).trans hNone)

theorem hasDirectory_of_leads_cons
    {links : Nat}
    {l l' : Location}
    {name : String}
    {rest : List String}
    (hLeads : Leads s purpose links l (name :: rest) l') :
    s.hasDirectory l = true := by
  cases hLeads <;> assumption

/- A file that was put makes names lead to no other place. -/
theorem Open.leads_of_put
    (hOpen : s.Open m)
    {links : Nat}
    {l l' : Location}
    {names : List String}
    (hLeads : Leads (s.put m (.file contents)) purpose links l names l') :
    Leads s purpose links l names l' := by
  have hSelf := get?_put_self s (.file contents) (ne_root hOpen.no_directory)
  have hGet := fun l (hNe : l ≠ m) => get?_put_of_ne s (.file contents) hNe
  induction hLeads with
  | done => exact .done
  | same hDirectory hName _ ih =>
    exact .same (by rwa [hOpen.hasDirectory_put] at hDirectory) hName ih
  | up hDirectory _ ih =>
    exact .up (by rwa [hOpen.hasDirectory_put] at hDirectory) ih
  | @link _ l _ name target _ hDirectory hProper hLink _ ih =>
    rw [hOpen.hasDirectory_put] at hDirectory
    have hNe : l ++ [name] ≠ m := by
      rintro rfl
      rw [hSelf] at hLink
      cases hLink
    exact .link hDirectory hProper ((hGet _ hNe).symm.trans hLink) ih
  | @down _ l l' name rest e hDirectory hProper hEntry hNoLink hRest ih =>
    rw [hOpen.hasDirectory_put] at hDirectory
    by_cases hSame : l ++ [name] = m
    · cases rest with
      | cons next others =>
        -- nothing below a file can be reached
        have hBelow := hasDirectory_of_leads_cons ih
        rw [hSame, hOpen.no_directory] at hBelow
        cases hBelow
      | nil =>
        cases hOld : s.get? (l ++ [name]) with
        | none =>
          cases hRest
          exact .free hDirectory hProper hOld
        | some old =>
          refine .down hDirectory hProper hOld ?_ ih
          rintro target rfl
          exact hOpen.no_link target (hSame ▸ hOld)
    · exact .down hDirectory hProper ((hGet _ hSame).symm.trans hEntry)
        hNoLink ih
  | @free _ l name hDirectory hProper hNone =>
    rw [hOpen.hasDirectory_put] at hDirectory
    have hNe : l ++ [name] ≠ m := by
      rintro rfl
      rw [hSelf] at hNone
      cases hNone
    exact .free hDirectory hProper ((hGet _ hNe).symm.trans hNone)

/- Every path leads to the same place after a file was put. -/
theorem Open.locate_put_iff
    (hOpen : s.Open m)
    {path : String}
    {l : Location} :
    (s.put m (.file contents)).locate purpose path = .ok l ↔
      s.locate purpose path = .ok l := by
  rw [locate_eq_ok_iff, locate_eq_ok_iff]
  exact and_congr_right fun _ =>
    ⟨hOpen.leads_of_put contents,
      hOpen.leads_put contents⟩

end Store

end ResourcePack
