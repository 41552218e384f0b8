import ResourcePack.Program
import ResourcePack.Proofs.Config.Fields
import ResourcePack.Proofs.Generation.Run

/-
  Every field of a configuration comes from the highest layer that
  sets it.

  Key definitions include:
    * `ResourcePack.Config.Sound`
    * `ResourcePack.Config.found`
    * `ResourcePack.Config.fileLayer`

  Main declarations:
    * `ResourcePack.Config.sound_layered`
    * `ResourcePack.Config.at?_layered`
    * `ResourcePack.Config.ofSettings_of_sound`
    * `ResourcePack.Config.get_layered`

  The settings of the environment are laid over those of the file,
  before their types are known, and what is set by neither has its
  default.
-/

------------------------------------------------------------
-- Merged Settings
------------------------------------------------------------

namespace ResourcePack

namespace Config

open Settings

/- Settings in which every field has a value of its own type. -/
structure Sound
    (v : Value) : Prop where
  keys : ∀ (k : Key) w, v.at? k.path = some w → (k.kind.own w).isSome
  logging : ∀ w, v.at? [.field "logging"] = some w →
    ∃ fields, w = .table fields
  modules : ∀ w, v.at? [.field "logging", .field "modules"] = some w →
    ∃ levels, w.toTextMap? = some levels

variable {ls : List Leaf} {w : Value}

/- What known settings make at the place of a field is of its type. -/
theorem own_of_made
    (hKnown : ∀ l ∈ ls, Known l)
    {k : Key}
    (hMade : Made ls w k.path) :
    (k.kind.own w).isSome := by
  rcases hMade with hLeaf | ⟨-, l, hMem, hPrefix, hNe⟩
  · exact (hKnown _ hLeaf).own
  · rcases (hKnown l hMem).fair k with
      ⟨hEq, -⟩ | ⟨-, hApart⟩ | ⟨hAbove, -, -⟩
    · exact absurd hEq.symm hNe
    · exact absurd hPrefix hApart
    · exact absurd (hPrefix.eq_of_length_le hAbove.length_le) hNe

/- Around other settings, they make tables. -/
theorem table_of_made
    (hKnown : ∀ l ∈ ls, Known l)
    {path : List KeyStep}
    (hKeys : ∀ k : Key, k.path ≠ path)
    (hShort : path.length < 3)
    (hMade : Made ls w path) :
    ∃ fields, w = .table fields := by
  rcases hMade with hLeaf | ⟨hTable, -⟩
  · generalize hPlace : path = place at hLeaf
    cases hKnown _ hLeaf with
    | key k hOwn => exact absurd hPlace.symm (hKeys k)
    | logging => exact ⟨[], rfl⟩
    | modules => exact ⟨[], rfl⟩
    | moduleLevel name level =>
      rw [hPlace] at hShort
      exact absurd hShort (Nat.lt_irrefl 3)
  · exact hTable

/- The levels of modules that they make are texts. -/
theorem text_of_made
    (hKnown : ∀ l ∈ ls, Known l)
    {name : String}
    (hMade : Made ls w
      [.field "logging", .field "modules", .field name]) :
    ∃ level, w = .text level := by
  rcases hMade with hLeaf | ⟨-, l, hMem, hPrefix, hNe⟩
  · generalize hPlace : [KeyStep.field "logging", .field "modules",
      .field name] = place at hLeaf
    cases hKnown _ hLeaf with
    | key k hOwn =>
      exact absurd ⟨[.field name], hPlace⟩ (path_not_prefix_modules k).2
    | logging => cases hPlace
    | modules => cases hPlace
    | moduleLevel name' level => exact ⟨level, rfl⟩
  · have hLength := (hKnown l hMem).length_le
    exact absurd (hPrefix.eq_of_length_le hLength) hNe

theorem exists_toTextMap?
    {fields : List (String × Value)}
    (hTexts : ∀ f ∈ fields, ∃ level, f.2 = .text level) :
    ∃ levels, (Value.table fields).toTextMap? = some levels := by
  induction fields with
  | nil => exact ⟨[], rfl⟩
  | cons f rest ih =>
    rw [List.forall_mem_cons] at hTexts
    rcases hTexts with ⟨⟨level, hLevel⟩, hRest⟩
    rcases ih hRest with ⟨levels, hLevels⟩
    refine ⟨(f.1, level) :: levels, ?_⟩
    simp only [Value.toTextMap?] at hLevels ⊢
    rw [List.mapM_cons, hLevels, hLevel]
    rfl

/- Settings in which there is only what known settings make. -/
theorem sound_of_made
    (hKnown : ∀ l ∈ ls, Known l)
    {v : Value}
    (hMade : ∀ u step rest, u.Within v (step :: rest) →
      Made ls u (step :: rest)) :
    Sound v where
  keys k w hAt := by
    have hWithin := Value.within_of_at? hAt
    rcases List.exists_cons_of_ne_nil k.path_ne_nil with
      ⟨step, rest, hPath⟩
    apply own_of_made hKnown
    rw [hPath] at hWithin ⊢
    exact hMade w step rest hWithin
  logging w hAt := by
    apply table_of_made hKnown ?_ (by decide)
      (hMade w _ _ (Value.within_of_at? hAt))
    intro k hPath
    apply (path_not_prefix_modules k).1
    exact ⟨[.field "modules"], hPath ▸ rfl⟩
  modules w hAt := by
    have hWithin := Value.within_of_at? hAt
    have hTable : ∃ fields, w = .table fields := by
      apply table_of_made hKnown ?_ (by decide) (hMade w _ _ hWithin)
      intro k hPath
      exact (path_not_prefix_modules k).1 (hPath ▸ List.prefix_rfl)
    rcases hTable with ⟨fields, rfl⟩
    apply exists_toTextMap?
    intro f hMem
    have hField : f.2.Within (.table fields) [.field f.1] :=
      ⟨f.2, hMem, rfl⟩
    have hInside : f.2.Within v
        [.field "logging", .field "modules", .field f.1] :=
      hWithin.append hField
    exact text_of_made hKnown (hMade f.2 _ _ hInside)

/- Layers are merged into sound settings. -/
theorem sound_layered
    {file env : List (String × Value)}
    (hFile : Layer file)
    (hEnv : Layer env) :
    Sound ((Value.empty.setAll file).setAll env) := by
  have hKnown : ∀ l ∈ leavesOf file ++ leavesOf env, Known l :=
    List.forall_mem_append.mpr ⟨hFile.known, hEnv.known⟩
  apply sound_of_made hKnown
  intro u step rest hWithin
  rcases within_setAll hEnv.isName hWithin with hBefore | hMade
  · rcases within_setAll hFile.isName hBefore with hEmpty | hMade
    · exact absurd hEmpty
        (Value.not_within_of_fields_eq_nil rfl step rest)
    · exact hMade.append_left (leavesOf env)
  · exact hMade.append_right (leavesOf file)

/- A field is found as the upper layer sets it, or else the lower. -/
theorem at?_layered
    {file env : List (String × Value)}
    (hFile : Layer file)
    (hEnv : Layer env)
    (k : Key) :
    ((Value.empty.setAll file).setAll env).at? k.path =
      ((leavesOf env).lookup k.path).or
        ((leavesOf file).lookup k.path) := by
  rw [at?_setAll hEnv.isName (hEnv.fair k) (hEnv.once k),
    at?_setAll hFile.isName (hFile.fair k) (hFile.once k),
    Value.at?_of_fields_eq_nil rfl k.path_ne_nil, Option.or_none]

end Config

end ResourcePack

------------------------------------------------------------
-- Reading Fields
------------------------------------------------------------

namespace ResourcePack

namespace Config

open Settings

theorem toText?_of_ownText?
    {v : Value}
    {s : String}
    (hOwn : Kind.ownText? v = some s) :
    v = .text s ∧ v.toText? = some s := by
  cases v with
  | text s' =>
    cases hOwn
    exact ⟨rfl, rfl⟩
  | _ => cases hOwn

theorem toTexts?_of_ownText?
    {items : List Value}
    {texts : List String}
    (hOwn : items.mapM Kind.ownText? = some texts) :
    items.mapM Value.toText? = some texts := by
  induction items generalizing texts with
  | nil => exact hOwn
  | cons v rest ih =>
    rw [List.mapM_cons] at hOwn ⊢
    rcases Option.bind_eq_some_iff.mp hOwn with ⟨s, hText, hMore⟩
    rcases Option.bind_eq_some_iff.mp hMore with ⟨others, hRest, hTexts⟩
    rw [(toText?_of_ownText? hText).2, ih hRest]
    exact hTexts

/- The choices of a field are found by their names. -/
theorem toChoice?_order
    (name : String) :
    Value.toChoice? orders (.text name) = Kind.orderNamed? name := by
  change orders.lookup (Text.lowerCase name) = _
  unfold Kind.orderNamed? orders
  split
  · next hName => rw [hName]; rfl
  · next hName => rw [hName]; rfl
  · next hFirst hSecond =>
    simpa [List.lookup_eq_none_iff] using And.intro hFirst hSecond

theorem toChoice?_policy
    (name : String) :
    Value.toChoice? policies (.text name) = Kind.policyNamed? name := by
  change policies.lookup (Text.lowerCase name) = _
  unfold Kind.policyNamed? policies
  split
  · next hName => rw [hName]; rfl
  · next hName => rw [hName]; rfl
  · next hFirst hSecond =>
    simpa [List.lookup_eq_none_iff] using And.intro hFirst hSecond

/- A setting of the type of a field is read as it is. -/
theorem read_of_own
    {k : Kind}
    {v : Value}
    {a : k.Carrier}
    (hOwn : k.own v = some a) :
    k.read v = some a := by
  cases k with
  | text => exact (toText?_of_ownText? hOwn).2
  | optionText =>
    rcases Option.map_eq_some_iff.mp hOwn with ⟨s, hText, rfl⟩
    rw [(toText?_of_ownText? hText).1]
    rfl
  | texts =>
    cases v with
    | list items => exact toTexts?_of_ownText? hOwn
    | _ => cases hOwn
  | word =>
    cases v with
    | int n =>
      by_cases hWord : 0 ≤ n ∧ n < 4294967296
      · have hNat : ((n.toNat : Nat) : Int) = n :=
          Int.toNat_of_nonneg hWord.1
        have hFits : Decimal.isWord32 n = true := by
          simpa [Decimal.isWord32] using hWord
        have hSome : some n.toNat = some a := by
          rw [← hOwn]
          exact (if_pos hWord).symm
        have hRead : (Value.int n).toWord? = some n.toNat := by
          simp [Value.toWord?, Value.toNat?, hWord.1, hNat, hFits]
        exact hRead.trans hSome
      · have hNone : none = some a := by
          rw [← hOwn]
          exact (if_neg hWord).symm
        cases hNone
    | _ => cases hOwn
  | order =>
    cases v with
    | text s => exact (toChoice?_order s).trans hOwn
    | _ => cases hOwn
  | policy =>
    cases v with
    | text s => exact (toChoice?_policy s).trans hOwn
    | _ => cases hOwn
  | flag =>
    cases v with
    | bool b => exact hOwn
    | _ => cases hOwn

/- The value of a field in settings, or its default. -/
def found
    (v : Value)
    (k : Key) : k.kind.Carrier :=
  ((v.at? k.path).bind k.kind.own).getD (({} : Config).get k)

theorem Sound.readable
    {v : Value}
    (hSound : Sound v) :
    Readable v where
  keys k w hAt := by
    rcases Option.isSome_iff_exists.mp (hSound.keys k w hAt) with
      ⟨a, hOwn⟩
    exact Option.isSome_iff_exists.mpr ⟨a, read_of_own hOwn⟩
  logging := hSound.logging
  modules := hSound.modules

theorem Sound.reading_eq_found
    {v : Value}
    (hSound : Sound v)
    (k : Key) :
    reading v k = found v k := by
  unfold reading found
  cases hAt : v.at? k.path with
  | none => rfl
  | some w =>
    rcases Option.isSome_iff_exists.mp (hSound.keys k w hAt) with
      ⟨a, hOwn⟩
    rw [Option.bind_some, Option.bind_some, read_of_own hOwn, hOwn]

/- A configuration is read from sound settings, field by field. -/
theorem ofSettings_of_sound
    {v : Value}
    (hSound : Sound v) :
    ∃ c, ofSettings v = .ok c ∧ ∀ k : Key, c.get k = found v k := by
  rcases ofSettings_of_readable hSound.readable with ⟨c, hOk, hGet⟩
  refine ⟨c, hOk, ?_⟩
  intro k
  rw [hGet, hSound.reading_eq_found]

/- Two layers give every field as the upper one sets it, or the lower. -/
theorem get_layered
    {file : List (String × Value)}
    {env : Environment}
    (hFile : Layer file)
    (hEnv : Layer env.settings) :
    ∃ c, layered file env = .ok c ∧
      ∀ k : Key, c.get k =
        ((setBy env.settings k).or (setBy file k)).getD
          (({} : Config).get k) := by
  rcases ofSettings_of_sound (sound_layered hFile hEnv) with
    ⟨c, hOk, hFound⟩
  refine ⟨c, hOk, ?_⟩
  intro k
  rw [hFound, found, at?_layered hFile hEnv, setBy, setBy]
  cases hUpper : (leavesOf env.settings).lookup k.path with
  | none => rfl
  | some w =>
    have hMem := (lookup_eq_some_iff_mem (hEnv.once k)).mp hUpper
    rcases Option.isSome_iff_exists.mp (hEnv.known _ hMem).own with
      ⟨a, hA⟩
    simp only [Option.some_or, Option.bind_some, hA]

end Config

end ResourcePack

------------------------------------------------------------
-- Loading
------------------------------------------------------------

namespace ResourcePack

namespace Config

open Settings (Value)

variable {m : Type → Type} [Monad m] [Workspace m]

/- The settings of the file that is named; there may be none. -/
def fileLayer
    (file : Option String) : ExceptT Error m (List (String × Value)) :=
  match file with
  | some path => fileSettings path
  | none => pure []

/- First the file is read, and then the environment laid over it. -/
theorem load_eq
    (env : Environment)
    (file : Option String) :
    (load env file : ExceptT Error m Config) =
      fileLayer file >>= fun fields =>
        MonadExcept.ofExcept (layered fields env) := by
  cases file <;> rfl

end Config

end ResourcePack
