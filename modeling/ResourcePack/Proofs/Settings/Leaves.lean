import ResourcePack.Lookup
import ResourcePack.Settings.KeyPath

/-
  What is found in settings after others were set over them.

  Key definitions include:
    * `ResourcePack.Settings.Leaf`
    * `ResourcePack.Settings.placeOf`
    * `ResourcePack.Settings.leavesOf`
    * `ResourcePack.Settings.Value.at?`
    * `ResourcePack.Settings.Value.Within`
    * `ResourcePack.Settings.Sets`

  Main declarations:
    * `ResourcePack.Settings.Sets.into`
    * `ResourcePack.Settings.exists_changes`
    * `ResourcePack.Settings.sets_setAll`
    * `ResourcePack.Settings.at?_setAll`
    * `ResourcePack.Settings.within_setAll`

  Nested tables are seen as what they set at the end of paths.  To
  set a table is to set its leaves one after the other, and each of
  them changes only what is found at its own path.
-/

------------------------------------------------------------
-- Leaves
------------------------------------------------------------

namespace ResourcePack

namespace Settings

/- A path, and the value that is set there. -/
abbrev Leaf := List KeyStep × Value

/- A leaf further down. -/
def below
    (path : List KeyStep)
    (l : Leaf) : Leaf :=
  (path ++ l.1, l.2)

mutual

/-
  What a value sets at the place where it is put: itself, or what the
  fields of a table set.  A table without fields is set itself.
-/
def leaves : Value → List Leaf
  | .table fields =>
    if fields.isEmpty then [([], .table [])] else fieldLeaves fields
  | v => [([], v)]

/- What the fields of a table set. -/
def fieldLeaves : List (String × Value) → List Leaf
  | [] => []
  | (name, v) :: rest =>
    (leaves v).map (below [.field (Text.lowerCase name)]) ++ fieldLeaves rest

end

/- A path whose last name is in lower case, as the names of fields are. -/
def lowerLast : List KeyStep → List KeyStep
  | [] => []
  | [.field name] => [.field (Text.lowerCase name)]
  | step :: path => step :: lowerLast path

/- The place that a key stands for; if it is no path, it is a name. -/
def placeOf
    (key : String) : List KeyStep :=
  lowerLast ((keyPath? (Text.lowerCase key)).getD
    [.field (Text.lowerCase key)])

/- Everything that settings set, each at its place. -/
def leavesOf
    (settings : List (String × Value)) : List Leaf :=
  settings.flatMap fun f => (leaves f.2).map (below (placeOf f.1))

theorem leaves_ne_nil
    (v : Value) :
    leaves v ≠ [] := by
  cases v with
  | table fields =>
    cases fields with
    | nil => simp [leaves]
    | cons f rest =>
      rcases f with ⟨name, w⟩
      have hFirst := leaves_ne_nil w
      simp [leaves, fieldLeaves, hFirst]
  | _ => simp [leaves]

/- What is no table is set itself. -/
theorem leaves_of_ne_table
    {v : Value}
    (hTable : ∀ fields, v ≠ .table fields) :
    leaves v = [([], v)] := by
  cases v with
  | table fields => exact absurd rfl (hTable fields)
  | _ => rfl

theorem leavesOf_perm
    {settings settings' : List (String × Value)}
    (hPerm : settings.Perm settings') :
    (leavesOf settings).Perm (leavesOf settings') :=
  hPerm.flatMap_right _

end Settings

end ResourcePack

------------------------------------------------------------
-- Looking into Settings
------------------------------------------------------------

namespace ResourcePack

namespace Settings

namespace Value

/- What is found at the end of a path of names. -/
def at? : Value → List KeyStep → Option Value
  | v, [] => some v
  | v, .field name :: path => (v.field? name).bind fun w => w.at? path
  | _, .index _ :: _ => none

/- A value stands in another one, at the end of a path of names. -/
def Within
    (w : Value) : Value → List KeyStep → Prop
  | v, [] => v = w
  | v, .field name :: path => ∃ u, (name, u) ∈ v.fields ∧ Within w u path
  | _, .index _ :: _ => False

theorem mem_of_field?
    {v u : Value}
    {name : String}
    (hField : v.field? name = some u) :
    (name, u) ∈ v.fields := by
  rcases List.lookup_eq_some_iff.mp hField with ⟨l₁, l₂, hFields, -⟩
  rw [hFields]
  exact List.mem_append_right _ List.mem_cons_self

theorem within_of_at?
    {v w : Value}
    {path : List KeyStep}
    (hAt : v.at? path = some w) :
    w.Within v path := by
  induction path generalizing v with
  | nil => exact Option.some.inj hAt
  | cons step path ih =>
    cases step with
    | index i => cases hAt
    | field name =>
      rcases Option.bind_eq_some_iff.mp hAt with ⟨u, hField, hRest⟩
      exact ⟨u, mem_of_field? hField, ih hRest⟩

/- What stands in something stands in what that stands in. -/
theorem Within.append
    {u v w : Value}
    {path path' : List KeyStep}
    (hWithin : w.Within v path)
    (hInside : u.Within w path') :
    u.Within v (path ++ path') := by
  induction path generalizing v with
  | nil =>
    rw [show v = w from hWithin]
    exact hInside
  | cons step path ih =>
    cases step with
    | index i => cases hWithin
    | field name =>
      rcases hWithin with ⟨x, hMem, hRest⟩
      exact ⟨x, hMem, ih hRest⟩

theorem at?_of_fields_eq_nil
    {v : Value}
    (hFields : v.fields = [])
    {path : List KeyStep}
    (hNe : path ≠ []) :
    v.at? path = none := by
  cases path with
  | nil => exact absurd rfl hNe
  | cons step path =>
    cases step with
    | index i => rfl
    | field name =>
      rw [at?, field?, hFields]
      rfl

/- The fields of a table with one of them set. -/
theorem mem_setField
    {name : String}
    {value : Value}
    {fields : List (String × Value)}
    {f : String × Value}
    (hMem : f ∈ setField name value fields) :
    f = (name, value) ∨ f ∈ fields := by
  induction fields with
  | nil => exact Or.inl (List.mem_singleton.mp hMem)
  | cons g rest ih =>
    unfold setField at hMem
    by_cases hName : g.1 = name
    · rw [if_pos hName] at hMem
      rcases List.mem_cons.mp hMem with hFirst | hRest
      · exact Or.inl hFirst
      · exact Or.inr (List.mem_cons_of_mem _ hRest)
    · rw [if_neg hName] at hMem
      rcases List.mem_cons.mp hMem with hFirst | hRest
      · exact Or.inr (hFirst ▸ List.mem_cons_self)
      · rcases ih hRest with hNew | hOld
        · exact Or.inl hNew
        · exact Or.inr (List.mem_cons_of_mem _ hOld)

/-
  What stands in a table with a field set: the table, something in
  that field, or something that stood there before.
-/
theorem within_withField
    {v w x : Value}
    {name : String}
    {path : List KeyStep}
    (hWithin : w.Within (v.withField name x) path) :
    (path = [] ∧ ∃ fields, w = .table fields) ∨
      (∃ rest, path = .field name :: rest ∧ w.Within x rest) ∨
      (∃ step rest, path = step :: rest ∧ w.Within v path) := by
  cases path with
  | nil => exact Or.inl ⟨rfl, _, Eq.symm hWithin⟩
  | cons step rest =>
    cases step with
    | index i => cases hWithin
    | field other =>
      rcases hWithin with ⟨u, hMem, hRest⟩
      rcases mem_setField hMem with hNew | hOld
      · cases hNew
        exact Or.inr (Or.inl ⟨rest, rfl, hRest⟩)
      · exact Or.inr (Or.inr ⟨_, rest, rfl, u, hOld, hRest⟩)

theorem not_within_of_fields_eq_nil
    {v w : Value}
    (hFields : v.fields = [])
    (step : KeyStep)
    (rest : List KeyStep) :
    ¬w.Within v (step :: rest) := by
  intro hWithin
  cases step with
  | index i => cases hWithin
  | field name =>
    rcases hWithin with ⟨u, hMem, -⟩
    rw [hFields] at hMem
    cases hMem

end Value

end Settings

end ResourcePack

------------------------------------------------------------
-- Setting Leaf by Leaf
------------------------------------------------------------

namespace ResourcePack

namespace Settings

/-
  A leaf whose setting can be told apart from what is found at a
  path: it is set there and is no table, or elsewhere, or further up
  as an empty table, which adds nothing to a table.
-/
def Fair
    (path : List KeyStep)
    (l : Leaf) : Prop :=
  (l.1 = path ∧ ∀ fields, l.2 ≠ .table fields) ∨
    (¬l.1 <+: path ∧ ¬path <+: l.1) ∨
    (l.1 <+: path ∧ l.1 ≠ path ∧ l.2 = .table [])

/- What is found at a path after leaves were set one after the other. -/
def afterwards
    (path : List KeyStep)
    (found : Option Value)
    (ls : List Leaf) : Option Value :=
  ls.foldl (fun found l => if l.1 = path then some l.2 else found) found

/-
  What leaves make stand at a path: one of them, or a table around
  one of them.
-/
def Made
    (ls : List Leaf)
    (w : Value)
    (path : List KeyStep) : Prop :=
  (path, w) ∈ ls ∨
    (∃ fields, w = .table fields) ∧ ∃ l ∈ ls, path <+: l.1 ∧ path ≠ l.1

/-
  A change of settings is one that sets leaves: it finds what they
  set, and holds nothing but what there was and what they make.
-/
structure Sets
    (g : Value → Value)
    (ls : List Leaf) : Prop where
  found : ∀ v path, (∀ l ∈ ls, Fair path l) →
    (g v).at? path = afterwards path (v.at? path) ls
  within : ∀ v w path, w.Within (g v) path →
    w.Within v path ∨ Made ls w path

/- What leaves make of a value of which nothing is kept. -/
def Makes
    (g : Value → Value)
    (v : Value)
    (ls : List Leaf) : Prop :=
  ∀ w path, w.Within (g v) path → Made ls w path

/- Further down, a leaf is as fair as it is from there. -/
theorem fair_below_iff
    {step : KeyStep}
    {path : List KeyStep}
    {l : Leaf} :
    Fair (step :: path) (below [step] l) ↔ Fair path l := by
  simp [Fair, below, List.cons_prefix_cons]

/- Nothing is fair to all that is there but a value in its place. -/
theorem eq_nil_of_fair
    {l : Leaf}
    (hFair : Fair [] l) :
    l.1 = [] := by
  rcases hFair with ⟨hEq, -⟩ | ⟨-, hApart⟩ | ⟨hPrefix, hNe, -⟩
  · exact hEq
  · exact absurd List.nil_prefix hApart
  · exact absurd (List.prefix_nil.mp hPrefix) hNe

/- One after the other, two lists of leaves are set. -/
theorem afterwards_append
    (path : List KeyStep)
    (found : Option Value)
    (ls ls' : List Leaf) :
    afterwards path found (ls ++ ls') =
      afterwards path (afterwards path found ls) ls' :=
  List.foldl_append

/- Where no leaf is set, there is what there was. -/
theorem afterwards_of_ne
    {path : List KeyStep}
    {ls : List Leaf}
    (hNe : ∀ l ∈ ls, l.1 ≠ path)
    (found : Option Value) :
    afterwards path found ls = found := by
  induction ls with
  | nil => rfl
  | cons l rest ih =>
    rw [List.forall_mem_cons] at hNe
    unfold afterwards
    rw [List.foldl_cons, if_neg hNe.1]
    exact ih hNe.2

/- Where only leaves are set at a path, it is as if nothing was there. -/
theorem afterwards_of_eq
    {path : List KeyStep}
    {ls : List Leaf}
    (hNe : ls ≠ [])
    (hEq : ∀ l ∈ ls, l.1 = path)
    (found found' : Option Value) :
    afterwards path found ls = afterwards path found' ls := by
  cases ls with
  | nil => exact absurd rfl hNe
  | cons l rest =>
    have hFirst := hEq l List.mem_cons_self
    unfold afterwards
    rw [List.foldl_cons, List.foldl_cons, if_pos hFirst, if_pos hFirst]

/- Further down, leaves are set as they are from there. -/
theorem afterwards_below
    (step : KeyStep)
    (path : List KeyStep)
    (found : Option Value)
    (ls : List Leaf) :
    afterwards (step :: path) found (ls.map (below [step])) =
      afterwards path found ls := by
  unfold afterwards
  rw [List.foldl_map]
  congr 1
  funext found l
  simp [below]

/- If a path is set once at most, the leaf that is set is found. -/
theorem afterwards_eq_lookup
    {path : List KeyStep}
    {ls : List Leaf}
    (hOnce : (ls.map Prod.fst).count path ≤ 1)
    (found : Option Value) :
    afterwards path found ls = (ls.lookup path).or found := by
  induction ls generalizing found with
  | nil => rfl
  | cons l rest ih =>
    rcases l with ⟨place, w⟩
    rw [List.map_cons, List.count_cons] at hOnce
    by_cases hPath : place = path
    · subst hPath
      have hRest : ∀ l ∈ rest, l.1 ≠ place := by
        intro l hMem hEq
        have hCount : 0 < (rest.map Prod.fst).count place :=
          List.count_pos_iff.mpr (hEq ▸ List.mem_map_of_mem hMem)
        simp only [beq_self_eq_true, if_true] at hOnce
        omega
      have hHere := afterwards_of_ne hRest (some w)
      rw [List.lookup_cons_self]
      simpa [afterwards] using hHere
    · have hSkip : (path == place) = false := by
        simpa using fun h => hPath h.symm
      have hCount : (rest.map Prod.fst).count path ≤ 1 := by omega
      rw [List.lookup_cons, hSkip, ← ih hCount found]
      simp [afterwards, hPath]

theorem Made.append_left
    {ls : List Leaf}
    {w : Value}
    {path : List KeyStep}
    (hMade : Made ls w path)
    (ls' : List Leaf) :
    Made (ls ++ ls') w path := by
  rcases hMade with hLeaf | ⟨hTable, l, hMem, hAround⟩
  · exact Or.inl (List.mem_append_left _ hLeaf)
  · exact Or.inr ⟨hTable, l, List.mem_append_left _ hMem, hAround⟩

theorem Made.append_right
    {ls' : List Leaf}
    {w : Value}
    {path : List KeyStep}
    (hMade : Made ls' w path)
    (ls : List Leaf) :
    Made (ls ++ ls') w path := by
  rcases hMade with hLeaf | ⟨hTable, l, hMem, hAround⟩
  · exact Or.inl (List.mem_append_right _ hLeaf)
  · exact Or.inr ⟨hTable, l, List.mem_append_right _ hMem, hAround⟩

theorem Made.perm
    {ls ls' : List Leaf}
    {w : Value}
    {path : List KeyStep}
    (hMade : Made ls w path)
    (hPerm : ls.Perm ls') :
    Made ls' w path := by
  rcases hMade with hLeaf | ⟨hTable, l, hMem, hAround⟩
  · exact Or.inl (hPerm.mem_iff.mp hLeaf)
  · exact Or.inr ⟨hTable, l, hPerm.mem_iff.mp hMem, hAround⟩

/- Further down, leaves make the same as from there. -/
theorem Made.below
    {ls : List Leaf}
    {w : Value}
    {path : List KeyStep}
    (hMade : Made ls w path)
    (step : KeyStep) :
    Made (ls.map (below [step])) w (step :: path) := by
  rcases hMade with hLeaf | ⟨hTable, l, hMem, hPrefix, hNe⟩
  · exact Or.inl (List.mem_map_of_mem (f := Settings.below [step]) hLeaf)
  · refine Or.inr ⟨hTable, _, List.mem_map_of_mem hMem, ?_, ?_⟩
    · exact List.cons_prefix_cons.mpr ⟨rfl, hPrefix⟩
    · intro hEq
      exact hNe (List.cons.inj hEq).2

/- Leaves further down make the tables around them. -/
theorem made_around
    {ls : List Leaf}
    (hNe : ls ≠ [])
    (step : KeyStep)
    (fields : List (String × Value)) :
    Made (ls.map (below [step])) (.table fields) [] := by
  rcases List.exists_mem_of_ne_nil ls hNe with ⟨l, hMem⟩
  refine Or.inr ⟨⟨fields, rfl⟩, _, List.mem_map_of_mem hMem,
    List.nil_prefix, ?_⟩
  exact (List.cons_ne_nil _ _).symm

namespace Sets

variable {g g' : Value → Value} {ls ls' : List Leaf} {v : Value}

/- To change nothing is to set no leaf. -/
theorem id :
    Sets (fun v => v) [] where
  found _ _ _ := rfl
  within _ _ _ hWithin := Or.inl hWithin

/- Changes in a row set the leaves of both. -/
theorem comp
    (hFirst : Sets g ls)
    (hSecond : Sets g' ls') :
    Sets (fun v => g' (g v)) (ls ++ ls') where
  found v path hFair := by
    rw [List.forall_mem_append] at hFair
    rw [hSecond.found _ _ hFair.2, hFirst.found _ _ hFair.1,
      afterwards_append]
  within v w path hWithin := by
    rcases hSecond.within _ _ _ hWithin with hBefore | hMade
    · rcases hFirst.within _ _ _ hBefore with hThere | hMade
      · exact Or.inl hThere
      · exact Or.inr (hMade.append_left ls')
    · exact Or.inr (hMade.append_right ls)

/- What was made first is kept, or the rest is made of it. -/
theorem makes_comp
    (hFirst : Makes g v ls)
    (hSecond : Sets g' ls') :
    Makes (fun v => g' (g v)) v (ls ++ ls') := by
  intro w path hWithin
  rcases hSecond.within _ _ _ hWithin with hBefore | hMade
  · exact (hFirst w path hBefore).append_left ls'
  · exact hMade.append_right ls

/- The change of a field; what is not there is made anew. -/
theorem into
    (hSets : Sets g ls)
    {fresh : Value}
    (hFields : fresh.fields = [])
    (hMakes : Makes g fresh ls)
    (hNe : ls ≠ [])
    (name : String) :
    Sets (fun v => v.withField name (g ((v.field? name).getD fresh)))
      (ls.map (below [.field name])) where
  found v path hFair := by
    have hFair' : ∀ l ∈ ls, Fair path (below [.field name] l) :=
      fun l hMem => hFair _ (List.mem_map_of_mem hMem)
    cases path with
    | nil =>
      rcases List.exists_mem_of_ne_nil ls hNe with ⟨l, hMem⟩
      cases eq_nil_of_fair (hFair' l hMem)
    | cons step path =>
      by_cases hStep : step = .field name
      · subst hStep
        have hInner : ∀ l ∈ ls, Fair path l :=
          fun l hMem => fair_below_iff.mp (hFair' l hMem)
        have hField : (v.withField name
            (g ((v.field? name).getD fresh))).at? (.field name :: path) =
            (g ((v.field? name).getD fresh)).at? path := by
          rw [Value.at?, Value.withField, Value.field?, Value.fields,
            Value.lookup_setField_self]
          rfl
        rw [hField, hSets.found _ _ hInner, afterwards_below, Value.at?]
        cases hThere : v.field? name with
        | some u => rfl
        | none =>
          by_cases hHere : path = []
          · subst hHere
            exact afterwards_of_eq hNe
              (fun l hMem => eq_nil_of_fair (hInner l hMem)) _ _
          · rw [Option.getD_none,
              Value.at?_of_fields_eq_nil hFields hHere]
            rfl
      · have hOther : ∀ l ∈ ls.map (below [.field name]),
            l.1 ≠ step :: path := by
          intro l hMem hEq
          rcases List.mem_map.mp hMem with ⟨l', -, rfl⟩
          exact hStep (List.cons.inj hEq).1.symm
        rw [afterwards_of_ne hOther]
        cases step with
        | index i => rfl
        | field other =>
          have hName : other ≠ name := fun hEq => hStep (hEq ▸ rfl)
          rw [Value.at?, Value.at?, Value.withField, Value.field?,
            Value.fields, Value.lookup_setField_of_ne _ _ hName,
            Value.field?]
  within v w path hWithin := by
    rcases Value.within_withField hWithin with
      ⟨rfl, fields, rfl⟩ | ⟨rest, rfl, hRest⟩ | ⟨-, -, -, hOld⟩
    · exact Or.inr (made_around hNe _ fields)
    · cases hThere : v.field? name with
      | none =>
        rw [hThere] at hRest
        exact Or.inr ((hMakes w rest hRest).below _)
      | some x =>
        rw [hThere] at hRest
        rcases hSets.within _ _ _ hRest with hBefore | hMade
        · exact Or.inl ⟨x, Value.mem_of_field? hThere, hBefore⟩
        · exact Or.inr (hMade.below _)
    · exact Or.inl hOld

/- What the change of a field makes of a value without fields. -/
theorem makes_into
    (hFields : Value.fields v = [])
    {fresh : Value}
    (hMakes : Makes g fresh ls)
    (hNe : ls ≠ [])
    (name : String) :
    Makes (fun v => v.withField name (g ((v.field? name).getD fresh))) v
      (ls.map (below [.field name])) := by
  intro w path hWithin
  rcases Value.within_withField hWithin with
    ⟨rfl, fields, rfl⟩ | ⟨rest, rfl, hRest⟩ | ⟨step, rest, rfl, hOld⟩
  · exact made_around hNe _ fields
  · have hNone : v.field? name = none := by
      rw [Value.field?, hFields]
      rfl
    rw [hNone] at hRest
    exact (hMakes w rest hRest).below _
  · exact absurd hOld
      (Value.not_within_of_fields_eq_nil hFields step rest)

end Sets

end Settings

end ResourcePack

------------------------------------------------------------
-- Setting Values
------------------------------------------------------------

namespace ResourcePack

namespace Settings

/-
  The change that a value makes where it is assigned: to set its
  leaves, from an empty table on if nothing is there.
-/
structure Changes
    (g : Value → Value)
    (w : Value) : Prop where
  assign : ∀ (v : Value) (name : String), v.assign name w =
    v.withField (Text.lowerCase name)
      (g ((v.field? (Text.lowerCase name)).getD .empty))
  sets : Sets g (leaves w)
  makes : Makes g .empty (leaves w)

/- A value that is no table takes the place of any other. -/
theorem changes_of_not_table
    {w : Value}
    (hTable : ∀ fields, w ≠ .table fields) :
    Changes (fun _ => w) w := by
  have hAssign : ∀ (v : Value) (name : String), v.assign name w =
      v.withField (Text.lowerCase name) w := by
    intro v name
    rw [Value.assign]
    exact hTable
  have hLeaves : leaves w = [([], w)] := by
    rw [leaves]
    exact hTable
  have hFields : w.fields = [] := by
    rw [Value.fields]
    exact hTable
  have hMade : Makes (fun _ => w) .empty (leaves w) := by
    intro w' path hWithin
    cases path with
    | nil =>
      rw [hLeaves, ← show w = w' from hWithin]
      exact Or.inl List.mem_cons_self
    | cons step rest =>
      exact absurd hWithin
        (Value.not_within_of_fields_eq_nil hFields step rest)
  refine ⟨hAssign, ⟨?_, ?_⟩, hMade⟩
  · intro v path hFair
    rw [hLeaves] at hFair ⊢
    have hPath : [] = path := by
      rcases hFair _ List.mem_cons_self with
        ⟨hEq, -⟩ | ⟨hApart, -⟩ | ⟨-, -, hEmpty⟩
      · exact hEq
      · exact absurd List.nil_prefix hApart
      · exact absurd hEmpty (hTable [])
    subst hPath
    rfl
  · intro v w' path hWithin
    exact Or.inr (hMade w' path hWithin)

/- An empty table leaves what is there. -/
theorem changes_empty :
    Changes (fun v => v) (.table []) where
  assign v name := by
    rw [Value.assign]
    rfl
  sets := {
    found := by
      intro v path hFair
      have hPath : [] ≠ path := by
        rcases hFair _ (List.mem_singleton.mpr rfl) with
          ⟨-, hTable⟩ | ⟨hApart, -⟩ | ⟨-, hNe, -⟩
        · exact absurd rfl (hTable [])
        · exact absurd List.nil_prefix hApart
        · exact hNe
      refine (afterwards_of_ne ?_ _).symm
      intro l hMem
      rw [List.mem_singleton.mp hMem]
      exact hPath
    within := fun _ _ _ hWithin => Or.inl hWithin }
  makes := by
    intro w path hWithin
    cases path with
    | nil =>
      rw [← show Value.table [] = w from hWithin]
      exact Or.inl (List.mem_singleton.mpr rfl)
    | cons step rest =>
      exact absurd hWithin
        (Value.not_within_of_fields_eq_nil rfl step rest)

/- To assign a value to a field is to set its leaves there. -/
theorem Changes.sets_assign
    {g : Value → Value}
    {w : Value}
    (hChanges : Changes g w)
    (name : String) :
    Sets (fun v => v.assign name w)
      ((leaves w).map (below [.field (Text.lowerCase name)])) := by
  simp only [hChanges.assign]
  exact hChanges.sets.into rfl hChanges.makes (leaves_ne_nil w) _

/- Assigned to a field of nothing, it makes nothing else. -/
theorem Changes.makes_assign
    {g : Value → Value}
    {v w : Value}
    (hChanges : Changes g w)
    (hFields : v.fields = [])
    (name : String) :
    Makes (fun v => v.assign name w) v
      ((leaves w).map (below [.field (Text.lowerCase name)])) := by
  simp only [hChanges.assign]
  exact Sets.makes_into hFields hChanges.makes (leaves_ne_nil w) _

mutual

/- Every value makes a change of this kind. -/
theorem exists_changes
    (w : Value) :
    ∃ g, Changes g w := by
  cases w with
  | table fields =>
    cases fields with
    | nil => exact ⟨_, changes_empty⟩
    | cons f rest =>
      rcases sets_assignAll (f :: rest) with ⟨hSets, hMakes⟩
      have hLeaves : leaves (.table (f :: rest)) =
          fieldLeaves (f :: rest) := by
        rw [leaves]
        rfl
      refine ⟨fun v => v.assignAll (f :: rest), ?_, ?_, ?_⟩
      · intro v name
        rw [Value.assign]
      · exact hLeaves ▸ hSets
      · exact hLeaves ▸ hMakes (List.cons_ne_nil _ _)
  | _ =>
    refine ⟨_, changes_of_not_table ?_⟩
    intro fields hTable
    cases hTable

/- To assign several fields is to set the leaves of all of them. -/
theorem sets_assignAll
    (fields : List (String × Value)) :
    Sets (fun v => v.assignAll fields) (fieldLeaves fields) ∧
      (fields ≠ [] →
        Makes (fun v => v.assignAll fields) .empty (fieldLeaves fields)) := by
  cases fields with
  | nil =>
    simp only [Value.assignAll, fieldLeaves]
    exact ⟨Sets.id, fun hNe => absurd rfl hNe⟩
  | cons f rest =>
    rcases f with ⟨name, w⟩
    rcases exists_changes w with ⟨g, hFirst⟩
    have hRest := (sets_assignAll rest).1
    simp only [Value.assignAll, fieldLeaves]
    refine ⟨(hFirst.sets_assign name).comp hRest, fun _ => ?_⟩
    exact Sets.makes_comp (hFirst.makes_assign rfl name) hRest

end

end Settings

end ResourcePack

------------------------------------------------------------
-- Setting Keys
------------------------------------------------------------

namespace ResourcePack

namespace Settings

/- A step to a field, not to an item of a list. -/
def IsName
    (step : KeyStep) : Prop :=
  ∃ name, step = .field name

/- A path whose last name is put in lower case has the same steps. -/
theorem isName_of_lowerLast
    {path : List KeyStep}
    (hNames : ∀ step ∈ lowerLast path, IsName step) :
    ∀ step ∈ path, IsName step := by
  fun_induction lowerLast path with
  | case1 => exact hNames
  | case2 name =>
    intro step hMem
    exact ⟨name, List.mem_singleton.mp hMem⟩
  | case3 step path hNot ih =>
    rw [List.forall_mem_cons] at hNames ⊢
    exact ⟨hNames.1, ih hNames.2⟩

/- To set a value at a path of names is to set its leaves there. -/
theorem sets_setAt
    (w : Value)
    {path : List KeyStep}
    (hNames : ∀ step ∈ path, IsName step)
    (hNe : path ≠ []) :
    Sets (Value.setAt w path) ((leaves w).map (below (lowerLast path))) ∧
      ∀ v, v.fields = [] →
        Makes (Value.setAt w path) v
          ((leaves w).map (below (lowerLast path))) := by
  induction path with
  | nil => exact absurd rfl hNe
  | cons step path ih =>
    rw [List.forall_mem_cons] at hNames
    rcases hNames with ⟨⟨name, rfl⟩, hRest⟩
    cases path with
    | nil =>
      rcases exists_changes w with ⟨g, hChanges⟩
      exact ⟨hChanges.sets_assign name,
        fun v hFields => hChanges.makes_assign hFields name⟩
    | cons next path =>
      rcases ih hRest (List.cons_ne_nil _ _) with ⟨hSets, hMakes⟩
      have hInner : (leaves w).map (below (lowerLast (next :: path))) ≠
          [] := by
        intro hNil
        exact leaves_ne_nil w (List.map_eq_nil_iff.mp hNil)
      have hLeaves : (leaves w).map
          (below (lowerLast (.field name :: next :: path))) =
          ((leaves w).map (below (lowerLast (next :: path)))).map
            (below [.field name]) := by
        rw [List.map_map]
        rfl
      rw [hLeaves]
      constructor
      · exact hSets.into rfl (hMakes .nil rfl) hInner name
      · intro v hFields
        exact Sets.makes_into hFields (hMakes .nil rfl) hInner name

/- To set the value of a key is to set its leaves at its place. -/
theorem sets_set
    (key : String)
    (w : Value)
    (hNames : ∀ step ∈ placeOf key, IsName step) :
    Sets (fun v => v.set key w) ((leaves w).map (below (placeOf key))) := by
  have hNe : (keyPath? (Text.lowerCase key)).getD
      [.field (Text.lowerCase key)] ≠ [] := by
    cases hPath : keyPath? (Text.lowerCase key) with
    | none => exact List.cons_ne_nil _ _
    | some path =>
      unfold keyPath? at hPath
      rcases Option.bind_eq_some_iff.mp hPath with ⟨⟨name, rest⟩, -, hSteps⟩
      rcases Option.bind_eq_some_iff.mp hSteps with ⟨steps, -, hPath'⟩
      cases hPath'
      exact List.cons_ne_nil _ _
  exact (sets_setAt w (isName_of_lowerLast hNames) hNe).1

/- To set keys one after the other is to set all leaves in a row. -/
theorem sets_foldl
    {settings : List (String × Value)}
    (hNames : ∀ l ∈ leavesOf settings, ∀ step ∈ l.1, IsName step) :
    Sets (fun v => settings.foldl (fun v f => v.set f.1 f.2) v)
      (leavesOf settings) := by
  induction settings with
  | nil => exact Sets.id
  | cons f rest ih =>
    rw [leavesOf, List.flatMap_cons, List.forall_mem_append] at hNames
    have hPlace : ∀ step ∈ placeOf f.1, IsName step := by
      rcases List.exists_mem_of_ne_nil _ (leaves_ne_nil f.2) with
        ⟨l, hMem⟩
      intro step hStep
      exact hNames.1 _ (List.mem_map_of_mem hMem) step
        (List.mem_append_left _ hStep)
    exact (sets_set f.1 f.2 hPlace).comp (ih hNames.2)

/- To set all settings is to set their leaves, in some order. -/
theorem sets_setAll
    {settings : List (String × Value)}
    (hNames : ∀ l ∈ leavesOf settings, ∀ step ∈ l.1, IsName step) :
    ∃ ls, ls.Perm (leavesOf settings) ∧
      Sets (fun v => v.setAll settings) ls := by
  have hSorted := leavesOf_perm (List.mergeSort_perm settings
    fun a b => !decide (b.1 < a.1))
  refine ⟨_, hSorted, sets_foldl ?_⟩
  intro l hMem
  exact hNames l (hSorted.mem_iff.mp hMem)

/-
  Where settings are told apart from a path that they set once at
  most, there is what they set, or else what there was.
-/
theorem at?_setAll
    {settings : List (String × Value)}
    {path : List KeyStep}
    (hNames : ∀ l ∈ leavesOf settings, ∀ step ∈ l.1, IsName step)
    (hFair : ∀ l ∈ leavesOf settings, Fair path l)
    (hOnce : ((leavesOf settings).map Prod.fst).count path ≤ 1)
    (v : Value) :
    (v.setAll settings).at? path =
      ((leavesOf settings).lookup path).or (v.at? path) := by
  rcases sets_setAll hNames with ⟨ls, hPerm, hSets⟩
  have hFair' : ∀ l ∈ ls, Fair path l :=
    fun l hMem => hFair l (hPerm.mem_iff.mp hMem)
  have hOnce' : (ls.map Prod.fst).count path ≤ 1 := by
    rw [(hPerm.map Prod.fst).count_eq path]
    exact hOnce
  rw [hSets.found v path hFair', afterwards_eq_lookup hOnce',
    lookup_eq_of_perm hPerm hOnce']

/- Behind settings, there is what they make, or what there was. -/
theorem within_setAll
    {settings : List (String × Value)}
    (hNames : ∀ l ∈ leavesOf settings, ∀ step ∈ l.1, IsName step)
    {v w : Value}
    {path : List KeyStep}
    (hWithin : w.Within (v.setAll settings) path) :
    w.Within v path ∨ Made (leavesOf settings) w path := by
  rcases sets_setAll hNames with ⟨ls, hPerm, hSets⟩
  rcases hSets.within v w path hWithin with hBefore | hMade
  · exact Or.inl hBefore
  · exact Or.inr (hMade.perm hPerm)

end Settings

end ResourcePack
