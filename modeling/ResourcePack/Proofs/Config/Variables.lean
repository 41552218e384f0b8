import ResourcePack.Proofs.Config.Layers
import ResourcePack.Proofs.Settings.Scalars
import ResourcePack.Proofs.Text.LowerCase
import ResourcePack.Proofs.Text.Pieces
import ResourcePack.Transcript

/-
  What a single variable of the environment makes of a configuration.

  Key definitions include:
    * `ResourcePack.Config.Key.variableName`
    * `ResourcePack.Config.Key.name`
    * `ResourcePack.Environment.SetsOnly`
    * `ResourcePack.Config.textAt?`
    * `ResourcePack.Config.textsAt?`

  Main declarations:
    * `ResourcePack.Config.readable_alone`
    * `ResourcePack.Config.load_alone`
    * `ResourcePack.Config.texts_arrive`

  The value of a variable is read before the field is known that it
  is meant for.  A text arrives as it was written unless it can be
  read as a truth value or a number: then it arrives as that scalar
  is written.
-/

------------------------------------------------------------
-- Variables
------------------------------------------------------------

namespace ResourcePack

namespace Environment

open Settings (Value)

/-
  The only variable of the environment that sets a key has this name
  and this value.
-/
def SetsOnly
    (env : Environment)
    (name text : String) : Prop :=
  env.filter (fun f => (key? f.1).isSome) = [(name, text)]

instance
    (env : Environment)
    (name text : String) :
    Decidable (env.SetsOnly name text) := by
  unfold SetsOnly
  infer_instance

/- Then its key is the only setting. -/
theorem SetsOnly.settings_eq
    {env : Environment}
    {name text key : String}
    (hOnly : env.SetsOnly name text)
    (hKey : key? name = some key) :
    env.settings = [(key, value key text)] := by
  have hSkip : env.settings =
      Environment.settings (env.filter fun f => (key? f.1).isSome) := by
    unfold settings
    rw [List.filterMap_filter]
    apply List.filterMap_congr
    intro f _
    cases hNone : key? f.1 <;> simp [hNone]
  rw [hSkip, hOnly]
  simp [settings, hKey]

end Environment

namespace Config

open Settings (Value KeyStep keyPath? lowerLast placeOf)

/- The variable that sets a field. -/
def Key.variableName : Key → String
  | symbolPrefix => "GENRSRC__PREFIX"
  | scope => "GENRSRC__NAMESPACE"
  | guard => "GENRSRC__GUARD"
  | resourceClass => "GENRSRC__RESOURCE_CLASS"
  | includes => "GENRSRC__INCLUDES"
  | search => "GENRSRC__SEARCH"
  | align => "GENRSRC__ALIGN"
  | order => "GENRSRC__ORDER"
  | policy => "GENRSRC__SYMBOL_POLICY"
  | enabled => "GENRSRC__LOGGING__ENABLED"
  | level => "GENRSRC__LOGGING__LEVEL"
  | format => "GENRSRC__LOGGING__FORMAT"
  | output => "GENRSRC__LOGGING__OUTPUT"
  | file => "GENRSRC__LOGGING__FILE"
  | color => "GENRSRC__LOGGING__COLOR"

/- The key of a field. -/
def Key.name : Key → String
  | symbolPrefix => "prefix"
  | scope => "namespace"
  | guard => "guard"
  | resourceClass => "resource_class"
  | includes => "includes"
  | search => "search"
  | align => "align"
  | order => "order"
  | policy => "symbol_policy"
  | enabled => "logging.enabled"
  | level => "logging.level"
  | format => "logging.format"
  | output => "logging.output"
  | file => "logging.file"
  | color => "logging.color"

/- The fields that hold a text, which may be missing. -/
def Key.textKeys : List Key := [
  symbolPrefix, scope, guard, resourceClass, level, format, output, file]

/- The fields that hold a list of texts. -/
def Key.listKeys : List Key :=
  [search, includes]

theorem Key.key?_variableName
    (k : Key) :
    Environment.key? k.variableName = some k.name := by
  have hAscii : ∀ c ∈ k.variableName.toList, c.toNat < 128 := by
    cases k <;> simp [variableName]
  unfold Environment.key?
  rw [Text.lowerCase_of_ascii hAscii]
  cases k <;> rfl

theorem lowerLast_of_isLower
    {path : List KeyStep}
    (hNames : ∀ name, .field name ∈ path → Text.isLower name = true) :
    lowerLast path = path := by
  fun_induction lowerLast path with
  | case1 => rfl
  | case2 name =>
    rw [Text.lowerCase_of_isLower (hNames name List.mem_cons_self)]
  | case3 step path hNot ih =>
    rw [ih fun name hMem => hNames name (List.mem_cons_of_mem step hMem)]

theorem Key.placeOf_name
    (k : Key) :
    placeOf k.name = k.path := by
  have hLower : Text.lowerCase k.name = k.name :=
    Text.lowerCase_of_isLower (by cases k <;> rfl)
  have hPath : keyPath? k.name = some k.path := by
    cases k <;> rfl
  have hNames : ∀ name, .field name ∈ k.path → Text.isLower name = true := by
    cases k <;> simp [Key.path, Text.isLower]
  rw [placeOf, hLower, hPath, Option.getD_some, lowerLast_of_isLower hNames]

theorem Key.name_mem_listKeys_iff
    (k : Key) :
    k.name ∈ Environment.listKeys ↔ k ∈ listKeys := by
  cases k <;> simp [name, Environment.listKeys, listKeys]

end Config

end ResourcePack

------------------------------------------------------------
-- A Single Setting
------------------------------------------------------------

namespace ResourcePack

namespace Config

open Settings

/- A setting that is no table is found at its place only. -/
theorem fair_alone
    {k : Key}
    {w : Value}
    (hTable : ∀ fields, w ≠ .table fields)
    (k' : Key) :
    Fair k'.path (k.path, w) := by
  by_cases hKey : k = k'
  · exact .inl ⟨congrArg Key.path hKey, hTable⟩
  · exact .inr (.inl (path_apart hKey))

section Alone

variable {k : Key} {w : Value} {settings : List (String × Value)}

theorem isName_alone
    (hLeaves : leavesOf settings = [(k.path, w)]) :
    ∀ l ∈ leavesOf settings, ∀ step ∈ l.1, IsName step := by
  rw [hLeaves]
  exact List.forall_mem_singleton.mpr k.isName_path

/-
  Where one field is all that is set, its setting is found at its
  place, and nothing at the places of the others.
-/
theorem at?_alone
    (hTable : ∀ fields, w ≠ .table fields)
    (hLeaves : leavesOf settings = [(k.path, w)])
    (k' : Key) :
    (Value.empty.setAll settings).at? k'.path =
      if k' = k then some w else none := by
  have hFair : ∀ l ∈ leavesOf settings, Fair k'.path l := by
    rw [hLeaves]
    exact List.forall_mem_singleton.mpr (fair_alone hTable k')
  have hOnce : ((leavesOf settings).map Prod.fst).count k'.path ≤ 1 := by
    rw [hLeaves]
    exact List.count_le_length
  rw [at?_setAll (isName_alone hLeaves) hFair hOnce,
    Value.at?_of_fields_eq_nil rfl k'.path_ne_nil, Option.or_none,
    hLeaves]
  by_cases hKey : k' = k
  · rw [if_pos hKey, hKey, List.lookup_cons_self]
  · have hApart : (k'.path == k.path) = false := by
      rw [beq_eq_false_iff_ne]
      intro hPath
      exact (path_apart hKey).1 (hPath ▸ List.prefix_rfl)
    rw [if_neg hKey, List.lookup_cons, hApart]
    rfl

/- Whatever else is found is a table around that setting. -/
theorem made_alone
    (hLeaves : leavesOf settings = [(k.path, w)])
    {step : KeyStep}
    {rest : List KeyStep}
    {u : Value}
    (hAt : (Value.empty.setAll settings).at? (step :: rest) = some u) :
    (k.path = step :: rest ∧ w = u) ∨
      ((∃ fields, u = .table fields) ∧ step :: rest <+: k.path) := by
  rcases within_setAll (isName_alone hLeaves) (Value.within_of_at? hAt)
    with hEmpty | hMade
  · exact absurd hEmpty (Value.not_within_of_fields_eq_nil rfl step rest)
  · rw [hLeaves] at hMade
    rcases hMade with hLeaf | ⟨hTable, l, hMem, hAbove, -⟩
    · have hEq := List.mem_singleton.mp hLeaf
      exact .inl ⟨(congrArg Prod.fst hEq).symm, (congrArg Prod.snd hEq).symm⟩
    · rw [List.mem_singleton.mp hMem] at hAbove
      exact .inr ⟨hTable, hAbove⟩

/-
  Where one field is all that is set, and can read its setting, all
  fields can be read.
-/
theorem readable_alone
    (hTable : ∀ fields, w ≠ .table fields)
    (hLeaves : leavesOf settings = [(k.path, w)])
    (hRead : (k.kind.read w).isSome) :
    Readable (Value.empty.setAll settings) where
  keys k' u hAt := by
    rw [at?_alone hTable hLeaves] at hAt
    by_cases hKey : k' = k
    · rw [if_pos hKey] at hAt
      cases hAt
      exact hKey ▸ hRead
    · rw [if_neg hKey] at hAt
      cases hAt
  logging u hAt := by
    rcases made_alone hLeaves hAt with ⟨hPath, -⟩ | ⟨hFields, -⟩
    · exact absurd ⟨[.field "modules"], congrArg (· ++ _) hPath⟩
        (path_not_prefix_modules k).1
    · exact hFields
  modules u hAt := by
    rcases made_alone hLeaves hAt with ⟨hPath, -⟩ | ⟨-, hAbove⟩
    · exact absurd (hPath ▸ List.prefix_rfl) (path_not_prefix_modules k).1
    · exact absurd hAbove (path_not_prefix_modules k).2

end Alone

end Config

end ResourcePack

------------------------------------------------------------
-- Loading a Single Variable
------------------------------------------------------------

namespace ResourcePack

namespace Config

open Settings
open Environment (value arrival Plain)
open Generation (Returns returns_bind_iff returns_pure_iff
  returns_ofExcept_iff)

variable {σ : Type} [Workspace (StateM σ)] {env : Environment} {k : Key}

/-
  If the only variable that is set can be read by its field, the
  configuration is loaded, with what the field reads and with the
  defaults of all others.
-/
theorem load_alone
    {text : String}
    (hOnly : env.SetsOnly k.variableName text)
    {a : k.kind.Carrier}
    (hRead : k.kind.read (value k.name text) = some a)
    (s : σ) :
    ∃ c, Returns (load env none) s c s ∧ c.get k = a ∧
      ∀ k' ≠ k, c.get k' = ({} : Config).get k' := by
  have hTable := Environment.value_ne_table k.name text
  have hLeaves : leavesOf env.settings = [(k.path, value k.name text)] := by
    rw [hOnly.settings_eq k.key?_variableName, leavesOf,
      List.flatMap_singleton, leaves_of_ne_table hTable, k.placeOf_name,
      List.map_singleton, below, List.append_nil]
  have hReadable := readable_alone hTable hLeaves
    (Option.isSome_iff_exists.mpr ⟨a, hRead⟩)
  rcases ofSettings_of_readable hReadable with ⟨c, hOk, hGet⟩
  have hAt := at?_alone hTable hLeaves
  refine ⟨c, ?_, ?_, ?_⟩
  · have hLayered : layered [] env = .ok c := by
      unfold layered
      rw [show Value.empty.setAll [] = Value.empty by
        simp [Value.setAll]]
      exact hOk
    rw [load_eq]
    exact returns_bind_iff.mpr ⟨[], s, returns_pure_iff.mpr ⟨rfl, rfl⟩,
      returns_ofExcept_iff.mpr ⟨hLayered, rfl⟩⟩
  · rw [hGet, reading, hAt, if_pos rfl, Option.bind_some, hRead]
    rfl
  · intro k' hNe
    rw [hGet, reading, hAt, if_neg hNe]
    rfl

namespace Kind

/- The text that a field holds, if it holds one. -/
def text? : (k : Kind) → k.Carrier → Option String
  | text, s => some s
  | optionText, s? => s?
  | _, _ => none

/- The list that a field holds, if it holds one. -/
def texts? : (k : Kind) → k.Carrier → Option (List String)
  | texts, items => some items
  | _, _ => none

end Kind

/- The text that a field holds, if it holds one. -/
def textAt?
    (c : Config)
    (k : Key) : Option String :=
  k.kind.text? (c.get k)

/- The list that a field holds, if it holds one. -/
def textsAt?
    (c : Config)
    (k : Key) : Option (List String) :=
  k.kind.texts? (c.get k)

/- A field for texts reads what can be converted to one. -/
theorem read_of_toText?
    (hKey : k ∈ Key.textKeys)
    {w : Value}
    {text : String}
    (hText : w.toText? = some text) :
    ∃ a, k.kind.read w = some a ∧ k.kind.text? a = some text := by
  have hKind : k.kind = .text ∨ k.kind = .optionText := by
    cases k <;>
      first
        | exact .inl rfl
        | exact .inr rfl
        | exact absurd hKey (by decide)
  rcases hKind with hKind | hKind <;> rw [hKind]
  · exact ⟨text, hText, rfl⟩
  · refine ⟨some text, ?_, rfl⟩
    cases w with
    | nil => cases hText
    | _ => exact congrArg (Option.map some) hText

theorem read_texts
    (hKey : k ∈ Key.listKeys)
    (items : List String) :
    ∃ a, k.kind.read (.list (items.map .text)) = some a ∧
      k.kind.texts? a = some items := by
  have hKind : k.kind = .texts := by
    cases k <;> first | rfl | exact absurd hKey (by decide)
  have hItems : (items.map Value.text).mapM Value.toText? = some items :=
    mapM_map_eq_some Value.text Value.toText? (fun _ => rfl) items
  rw [hKind]
  exact ⟨items, hItems, rfl⟩

/- Items that are joined by commas are plain unless there is only one. -/
theorem plain_intercalate
    {items : List String}
    (hNe : items ≠ [])
    (hSingle : ∀ item, items = [item] → Plain item) :
    Plain (",".intercalate items) := by
  cases items with
  | nil => exact absurd rfl hNe
  | cons item rest =>
    cases rest with
    | nil =>
      rw [String.intercalate_singleton]
      exact hSingle item rfl
    | cons next others =>
      apply @Environment.plain_of_mem ',' (by decide) (by decide +kernel)
      rw [String.intercalate_cons_cons, String.toList_append,
        String.toList_append]
      exact List.mem_append_left _
        (List.mem_append_right _ List.mem_cons_self)

/-
  With one variable set, the configuration is loaded, whatever its
  value.  A field for texts gets the text in which the value arrives,
  which is the value itself if it is neither a truth value nor a
  number.  A field for a list gets the items that the commas divide;
  a single one must not be read as a scalar.  All other fields have
  their defaults.
-/
theorem texts_arrive
    (env : Environment)
    (s : σ) :
    (∀ k ∈ Key.textKeys, ∀ text, env.SetsOnly k.variableName text →
      ∃ c, Returns (load env none) s c s ∧
        c.textAt? k = some (arrival text) ∧
        (Plain text → c.textAt? k = some text) ∧
        ∀ k' ≠ k, c.get k' = ({} : Config).get k') ∧
    (∀ k ∈ Key.listKeys, ∀ items : List String, items ≠ [] →
      (∀ item ∈ items, ',' ∉ item.toList) →
      (∀ item, items = [item] → Plain item) →
      env.SetsOnly k.variableName (",".intercalate items) →
      ∃ c, Returns (load env none) s c s ∧
        c.textsAt? k = some items ∧
        ∀ k' ≠ k, c.get k' = ({} : Config).get k') := by
  constructor
  · intro k hText text hOnly
    have hApart : ∀ k ∈ Key.textKeys, k ∉ Key.listKeys := by
      decide
    have hNotList : k.name ∉ Environment.listKeys :=
      fun hMem => hApart k hText (k.name_mem_listKeys_iff.mp hMem)
    have hValue := Environment.toText?_value hNotList text
    rcases read_of_toText? hText hValue with ⟨a, hRead, hA⟩
    rcases load_alone hOnly hRead s with ⟨c, hReturns, hGet, hOthers⟩
    have hAt : c.textAt? k = some (arrival text) := by
      rw [textAt?, hGet, hA]
    refine ⟨c, hReturns, hAt, ?_, hOthers⟩
    intro hPlain
    rw [hAt, Environment.arrival_of_plain hPlain]
  · intro k hTexts items hNe hCommas hSingle hOnly
    have hPlain := plain_intercalate hNe hSingle
    have hList := k.name_mem_listKeys_iff.mpr hTexts
    have hValue := Environment.value_of_plain hList hPlain
    rw [Text.splitOn_intercalate rfl hCommas hNe] at hValue
    rcases read_texts hTexts items with ⟨a, hRead, hA⟩
    rw [← hValue] at hRead
    rcases load_alone hOnly hRead s with ⟨c, hReturns, hGet, hOthers⟩
    refine ⟨c, hReturns, ?_, hOthers⟩
    rw [textsAt?, hGet, hA]

/-
  A prefix that is a number in another notation arrives as the number
  is written, and a list with such an item arrives as it is.
-/
theorem texts_arrive_sample :
    (∃ c, Returns
        (load [("HOME", "/h"), ("GENRSRC__PREFIX", "1e2")] none)
        (Store.initial ["w"]) c (Store.initial ["w"]) ∧
      c.symbolPrefix = "100") ∧
    ∃ c, Returns (load [("GENRSRC__SEARCH", "a,007")] none)
        (Store.initial ["w"]) c (Store.initial ["w"]) ∧
      c.search = ["a", "007"] := by
  constructor
  · rcases (texts_arrive [("HOME", "/h"), ("GENRSRC__PREFIX", "1e2")]
      (Store.initial ["w"])).1 .symbolPrefix (by decide) "1e2"
      (by decide +kernel) with ⟨c, hReturns, hAt, -⟩
    have hArrival : arrival "1e2" = "100" := by
      decide +kernel
    exact ⟨c, hReturns, Option.some.inj (hArrival ▸ hAt)⟩
  · rcases (texts_arrive [("GENRSRC__SEARCH", "a,007")]
      (Store.initial ["w"])).2 .search (by decide) ["a", "007"]
      (by decide) (by decide) (by simp) (by decide +kernel) with
      ⟨c, hReturns, hAt, -⟩
    exact ⟨c, hReturns, Option.some.inj hAt⟩

/-
  Zeros in front of a number are lost, and with a number as its only
  item a list is not loaded.
-/
theorem numbers_not_as_written :
    (¬∃ c s', Returns (load [("GENRSRC__PREFIX", "007")] none)
        (Store.initial ["w"]) c s' ∧ c.symbolPrefix = "007") ∧
    ¬∃ c s', Returns (load [("GENRSRC__SEARCH", "2024")] none)
        (Store.initial ["w"]) c s' := by
  have hPrefix :
      ((load [("GENRSRC__PREFIX", "007")] none :
        ExceptT Error (StateM Store) Config).run.run
        (Store.initial ["w"])).1.toOption.map Config.symbolPrefix =
      some "7" := by
    decide +kernel
  have hSearch :
      ((load [("GENRSRC__SEARCH", "2024")] none :
        ExceptT Error (StateM Store) Config).run.run
        (Store.initial ["w"])).1.toOption.map Config.search = none := by
    decide +kernel
  constructor
  · rintro ⟨c, s', hReturns, hSame⟩
    rw [show _ = _ from hReturns] at hPrefix
    exact absurd (hSame.symm.trans (Option.some.inj hPrefix)) (by decide)
  · rintro ⟨c, s', hReturns⟩
    rw [show _ = _ from hReturns] at hSearch
    cases hSearch

end Config

end ResourcePack
