import ResourcePack.Proofs.Config.Keys
import ResourcePack.Proofs.Steps

/-
  A configuration is read from settings field by field.

  Key definitions include:
    * `ResourcePack.Config.Readable`
    * `ResourcePack.Config.reading`

  Main declarations:
    * `ResourcePack.Config.setting_eq`
    * `ResourcePack.Config.ofSettings_of_readable`

  Where every field can read what is set at its place, no step fails,
  and each field is what it reads there, or its default.
-/

namespace ResourcePack

namespace Config

open Settings

------------------------------------------------------------
-- Single Fields
------------------------------------------------------------

/- Settings that every field can read. -/
structure Readable
    (v : Value) : Prop where
  keys : ∀ (k : Key) w, v.at? k.path = some w → (k.kind.read w).isSome
  logging : ∀ w, v.at? [.field "logging"] = some w →
    ∃ fields, w = .table fields
  modules : ∀ w, v.at? [.field "logging", .field "modules"] = some w →
    ∃ levels, w.toTextMap? = some levels

/- What a field reads in settings, or its default. -/
def reading
    (v : Value)
    (k : Key) : k.kind.Carrier :=
  ((v.at? k.path).bind k.kind.read).getD (({} : Config).get k)

/- A field that is not set, or set to a value that can be read. -/
theorem setting_eq
    {α : Type}
    {fields : List (String × Value)}
    {name : String}
    {read : Value → Option α}
    (hRead : ∀ w, fields.lookup name = some w → (read w).isSome)
    (default : α) :
    setting fields name read default =
      .ok (((fields.lookup name).bind read).getD default) := by
  unfold setting
  cases hLookup : fields.lookup name with
  | none => rfl
  | some w =>
    rcases Option.isSome_iff_exists.mp (hRead w hLookup) with ⟨a, hA⟩
    simp only [hA, Option.bind_some]
    rfl

theorem at?_singleton
    (v : Value)
    (name : String) :
    v.at? [.field name] = v.fields.lookup name := by
  rw [Value.at?, Value.field?]
  cases v.fields.lookup name <;> rfl

/- A field whose place is a name in a table of readable settings. -/
theorem setting_of_readable
    {v : Value}
    (hReadable : Readable v)
    (k : Key)
    {fields : List (String × Value)}
    {name : String}
    (hAt : v.at? k.path = fields.lookup name) :
    setting fields name k.kind.read (({} : Config).get k) =
      .ok (reading v k) := by
  unfold reading
  rw [hAt]
  apply setting_eq
  intro w hLookup
  exact hReadable.keys k w (hAt.trans hLookup)

theorem setting_top
    {v : Value}
    (hReadable : Readable v)
    (k : Key)
    {name : String}
    (hPath : k.path = [.field name]) :
    setting v.fields name k.kind.read (({} : Config).get k) =
      .ok (reading v k) := by
  apply setting_of_readable hReadable
  rw [hPath, at?_singleton]

------------------------------------------------------------
-- All Fields
------------------------------------------------------------

/- The table of logging settings, which may be missing. -/
theorem setting_log
    {v : Value}
    (hReadable : Readable v) :
    ∃ table,
      setting v.fields "logging"
          (fun w => (settingFields? logFieldNames w).map some) none =
        .ok table ∧
      ∀ name, v.at? [.field "logging", .field name] =
        (table.getD []).lookup name := by
  have hAt := at?_singleton v "logging"
  unfold setting
  cases hLookup : v.fields.lookup "logging" with
  | none =>
    refine ⟨none, rfl, ?_⟩
    intro name
    rw [Value.at?, Value.field?, hLookup]
    rfl
  | some w =>
    rcases hReadable.logging w (hAt.trans hLookup) with ⟨fields, rfl⟩
    refine ⟨some fields, rfl, ?_⟩
    intro name
    rw [Value.at?, Value.field?, hLookup]
    exact at?_singleton (.table fields) name

/-
  Without a table the fields are those of the default record, which
  a table without fields gives as well.
-/
theorem logOfTable_eq
    (table : Option (List (String × Value))) :
    logOfTable table = logOfFields (table.getD []) := by
  cases table <;> rfl

theorem logOfFields_of_readable
    {v : Value}
    (hReadable : Readable v)
    {fields : List (String × Value)}
    (hAt : ∀ name, v.at? [.field "logging", .field name] =
      fields.lookup name) :
    ∃ modules, logOfFields fields =
      .ok ⟨reading v .enabled, reading v .level, reading v .format,
        reading v .output, reading v .file, reading v .color,
        modules⟩ := by
  have hField : ∀ (k : Key) name,
      k.path = [.field "logging", .field name] →
      setting fields name k.kind.read (({} : Config).get k) =
        .ok (reading v k) := by
    intro k name hPath
    apply setting_of_readable hReadable
    rw [hPath, hAt]
  have hModules : ∃ modules,
      setting fields "modules" Value.toTextMap? [] = .ok modules := by
    refine ⟨_, setting_eq ?_ []⟩
    intro w hLookup
    rcases hReadable.modules w ((hAt "modules").trans hLookup) with
      ⟨modules, hRead⟩
    exact Option.isSome_iff_exists.mpr ⟨modules, hRead⟩
  rcases hModules with ⟨modules, hModules⟩
  refine ⟨modules, ?_⟩
  unfold logOfFields
  refine bind_of_eq_ok (hField .enabled _ rfl) ?_
  refine bind_of_eq_ok (hField .level _ rfl) ?_
  refine bind_of_eq_ok (hField .format _ rfl) ?_
  refine bind_of_eq_ok (hField .output _ rfl) ?_
  refine bind_of_eq_ok (hField .file _ rfl) ?_
  refine bind_of_eq_ok (hField .color _ rfl) ?_
  exact bind_of_eq_ok hModules rfl

/- A configuration is read from readable settings, field by field. -/
theorem ofSettings_of_readable
    {v : Value}
    (hReadable : Readable v) :
    ∃ c, ofSettings v = .ok c ∧ ∀ k : Key, c.get k = reading v k := by
  rcases setting_log hReadable with ⟨table, hTable, hAt⟩
  rcases logOfFields_of_readable hReadable hAt with ⟨modules, hLog⟩
  rw [← logOfTable_eq] at hLog
  refine ⟨⟨reading v .symbolPrefix, reading v .scope, reading v .guard,
    reading v .resourceClass, reading v .includes, reading v .search,
    reading v .align, reading v .order, reading v .policy,
    ⟨reading v .enabled, reading v .level, reading v .format,
      reading v .output, reading v .file, reading v .color,
      modules⟩⟩, ?_, ?_⟩
  · unfold ofSettings
    refine bind_of_eq_ok (setting_top hReadable .symbolPrefix rfl) ?_
    refine bind_of_eq_ok (setting_top hReadable .scope rfl) ?_
    refine bind_of_eq_ok (setting_top hReadable .guard rfl) ?_
    refine bind_of_eq_ok (setting_top hReadable .resourceClass rfl) ?_
    refine bind_of_eq_ok (setting_top hReadable .includes rfl) ?_
    refine bind_of_eq_ok (setting_top hReadable .search rfl) ?_
    refine bind_of_eq_ok (setting_top hReadable .align rfl) ?_
    refine bind_of_eq_ok (setting_top hReadable .order rfl) ?_
    refine bind_of_eq_ok (setting_top hReadable .policy rfl) ?_
    refine bind_of_eq_ok hTable ?_
    exact bind_of_eq_ok hLog rfl
  · intro k
    cases k <;> rfl

end Config

end ResourcePack
