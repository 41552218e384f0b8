import Mathlib.Data.List.Find
import ResourcePack.Proofs.Config.Documents
import ResourcePack.Proofs.Config.Spelling

/-
  Every field of a configuration comes from the highest source that
  sets it.

  Key definitions include:
    * `ResourcePack.Config.Key.HasVariable`
    * `ResourcePack.Config.Variables`
    * `ResourcePack.Config.inEnvironment`
    * `ResourcePack.Config.DocumentAt`

  Main declarations:
    * `ResourcePack.Config.Variables.layer`
    * `ResourcePack.Program.get_configure`

  The sources are the arguments, the variables of the environment,
  the document in a file and the defaults.  Variables and documents
  are seen as they are written, without regard to how they are read:
  a field is set by the variable of its name or by its keys, to the
  value of its type that is spelled there.
-/

------------------------------------------------------------
-- Variables
------------------------------------------------------------

namespace ResourcePack

namespace Config

open Settings
open Environment (Plain value key? dotted)

/-
  Whether a name, in letters of any case, is that of the variable of
  a field.  A dot may stand for the separator inside of it.
-/
def Key.HasVariable
    (k : Key)
    (name : String) : Prop :=
  Text.lowerCase name = Text.lowerCase k.variableName ∨
    Text.lowerCase name = "genrsrc__" ++ k.name

instance
    (k : Key)
    (name : String) :
    Decidable (k.HasVariable name) := by
  unfold Key.HasVariable
  infer_instance

/- Whether a variable has a name that matters. -/
def IsMarked
    (name : String) : Prop :=
  "genrsrc__".toList <+: (Text.lowerCase name).toList

instance : DecidablePred IsMarked := by
  intro name
  unfold IsMarked
  infer_instance

/- What the variables of modules begin with. -/
def moduleMarkers : List String := [
  "genrsrc__logging__modules__", "genrsrc__logging__modules.",
  "genrsrc__logging.modules__", "genrsrc__logging.modules."]

/- Whether there is a separator in a name. -/
def hasSeparator : List Char → Bool
  | '_' :: '_' :: _ => true
  | _ :: rest => hasSeparator rest
  | [] => false

/- Whether a variable is one of a module, without a further separator. -/
def isModuleVariable
    (name : String) : Bool :=
  moduleMarkers.any fun marker =>
    (moduleBehind? marker (Text.lowerCase name)).any fun rest =>
      !hasSeparator rest

/- A variable of a known field, with a text that spells a value of it. -/
def IsKnownVariable
    (f : String × String) : Prop :=
  (∃ k ∈ Key.all, k.HasVariable f.1 ∧ (k.kind.spelled? f.2).isSome) ∨
    (isModuleVariable f.1 ∧ Plain f.2)

instance : DecidablePred IsKnownVariable := by
  intro f
  unfold IsKnownVariable
  infer_instance

/-
  Variables of known fields, each of which has one at most.  Those
  without the marker are of no concern.
-/
structure Variables
    (env : Environment) : Prop where
  known : ∀ f ∈ env, IsMarked f.1 → IsKnownVariable f
  once : ∀ k : Key, env.countP (fun f => k.HasVariable f.1) ≤ 1

instance
    (env : Environment) :
    Decidable (Variables env) :=
  decidable_of_iff
    ((∀ f ∈ env, IsMarked f.1 → IsKnownVariable f) ∧
      ∀ k ∈ Key.all, env.countP (fun f => k.HasVariable f.1) ≤ 1)
    ⟨fun h => ⟨h.1, fun k => h.2 k (Key.mem_all k)⟩,
      fun h => ⟨h.known, fun k _ => h.once k⟩⟩

/- The value that the variable of a field spells. -/
def inEnvironment
    (env : Environment)
    (k : Key) : Option k.kind.Carrier :=
  (env.find? fun f => k.HasVariable f.1).bind
    fun f => k.kind.spelled? f.2

/- What a variable sets. -/
def leafOfVariable
    (f : String × String) : Leaf :=
  let key := (key? f.1).getD ""
  (placeOf key, value key f.2)

/- A variable sets something if it is marked. -/
theorem isSome_key?_iff
    {name : String} :
    (key? name).isSome = true ↔ IsMarked name := by
  unfold key? IsMarked
  rw [← List.isPrefixOf_iff_prefix]
  change (if "genrsrc__".toList.isPrefixOf (Text.lowerCase name).toList = true
    then _ else none : Option String).isSome = true ↔ _
  split <;> simp_all

/- The settings of an environment are those of its marked variables. -/
theorem leavesOf_settings
    (env : Environment) :
    leavesOf env.settings =
      (env.filter fun f => IsMarked f.1).map leafOfVariable := by
  induction env with
  | nil => rfl
  | cons f rest ih =>
    rcases f with ⟨name, text⟩
    by_cases hMarked : IsMarked name
    · rcases Option.isSome_iff_exists.mp (isSome_key?_iff.mpr hMarked) with
        ⟨key, hKey⟩
      have hLeaf : leafOfVariable (name, text) =
          (placeOf key, value key text) := by
        simp [leafOfVariable, hKey]
      have hSettings : Environment.settings ((name, text) :: rest) =
          (key, value key text) :: Environment.settings rest := by
        simp [Environment.settings, hKey]
      rw [List.filter_cons_of_pos (by simpa using hMarked), List.map_cons,
        hLeaf, ← ih, hSettings, leavesOf, List.flatMap_cons,
        leaves_of_ne_table (Environment.value_ne_table key text)]
      simp [below, leavesOf]
    · have hKey : key? name = none := by
        rw [← Option.not_isSome_iff_eq_none, isSome_key?_iff]
        exact hMarked
      have hSettings : Environment.settings ((name, text) :: rest) =
          Environment.settings rest := by
        simp [Environment.settings, hKey]
      rw [List.filter_cons_of_neg (by simpa using hMarked), hSettings, ih]

theorem Key.HasVariable.key?_eq
    {k : Key}
    {name : String}
    (hVariable : k.HasVariable name) :
    key? name = some k.name := by
  rcases hVariable with hName | hName
  · have hSame : key? name = key? k.variableName := by
      unfold key?
      rw [hName]
    rw [hSame, k.key?_variableName]
  · unfold key?
    rw [hName]
    cases k <;> rfl

theorem Key.HasVariable.leafOfVariable_fst
    {k : Key}
    {f : String × String}
    (hVariable : k.HasVariable f.1) :
    (leafOfVariable f).1 = k.path := by
  rw [leafOfVariable, hVariable.key?_eq]
  exact k.placeOf_name

/- The variable of a field sets it to the value that it spells. -/
theorem Key.HasVariable.own_leafOfVariable
    {k : Key}
    {f : String × String}
    (hVariable : k.HasVariable f.1)
    {a : k.kind.Carrier}
    (hSpelled : k.kind.spelled? f.2 = some a) :
    k.kind.own (leafOfVariable f).2 = some a := by
  have hList : k.name ∈ Environment.listKeys ↔ k.kind = .texts := by
    cases k <;> simp [name, Environment.listKeys, kind]
  rw [leafOfVariable, hVariable.key?_eq]
  exact own_value hList hSpelled

/- Where there is no separator, nothing becomes a dot. -/
theorem dotted_of_hasSeparator
    {cs : List Char}
    (hNone : hasSeparator cs = false) :
    dotted cs = cs := by
  fun_induction dotted cs with
  | case1 rest => cases hNone
  | case2 c rest hOther ih =>
    rw [ih]
    rwa [hasSeparator] at hNone
    exact hOther
  | case3 => rfl

/- The separators in a marker stand for dots. -/
theorem dotted_of_mem_moduleMarkers
    {marker : String}
    (hMarker : marker ∈ moduleMarkers) :
    ∃ rest, marker.toList = Environment.marker ++ rest ∧
      ∀ name, dotted (rest ++ name) =
        "logging.modules.".toList ++ dotted name := by
  simp only [moduleMarkers, List.mem_cons, List.not_mem_nil,
    or_false] at hMarker
  rcases hMarker with rfl | rfl | rfl | rfl
  · exact ⟨"logging__modules__".toList, rfl, fun _ => rfl⟩
  · exact ⟨"logging__modules.".toList, rfl, fun _ => rfl⟩
  · exact ⟨"logging.modules__".toList, rfl, fun _ => rfl⟩
  · exact ⟨"logging.modules.".toList, rfl, fun _ => rfl⟩

/- What follows the first marker is the key. -/
theorem key?_of_toList
    {name : String}
    {rest : List Char}
    (hName : (Text.lowerCase name).toList = Environment.marker ++ rest) :
    key? name = some (String.ofList (dotted rest)) := by
  have hMarked : Environment.marker.isPrefixOf
      (Environment.marker ++ rest) = true :=
    List.isPrefixOf_iff_prefix.mpr (List.prefix_append _ _)
  simp only [key?, hName, List.drop_left, if_pos hMarked]

/- The variable of a module sets its level. -/
theorem leafOfVariable_module
    {f : String × String}
    (hModule : isModuleVariable f.1 = true)
    (hPlain : Plain f.2) :
    ∃ name, leafOfVariable f =
      ([.field "logging", .field "modules", .field name], .text f.2) := by
  rcases List.any_eq_true.mp hModule with ⟨marker, hMarker, hAny⟩
  rcases (Option.any_eq_true _ _).mp hAny with ⟨name, hBehind, hFurther⟩
  rcases moduleBehind?_eq_some_iff.mp hBehind with ⟨hLower, hName⟩
  have hSame : dotted name = name :=
    dotted_of_hasSeparator (by simpa using hFurther)
  rcases dotted_of_mem_moduleMarkers hMarker with ⟨rest, hRest, hDotted⟩
  have hKey : key? f.1 = some ("logging.modules." ++ String.ofList name) := by
    have hChars : (Text.lowerCase f.1).toList =
        Environment.marker ++ (rest ++ name) := by
      rw [hLower, String.toList_append, String.toList_ofList, hRest,
        List.append_assoc]
    rw [key?_of_toList hChars, hDotted, hSame, String.ofList_append,
      String.ofList_toList]
  have hPlace : placeOf ("logging.modules." ++ String.ofList name) =
      [.field "logging", .field "modules",
        .field (Text.lowerCase (String.ofList name))] := by
    rw [placeOf, Text.lowerCase_of_isLower (isLower_module hName),
      keyPath?_module hName]
    rfl
  have hNotList : "logging.modules." ++ String.ofList name ∉
      Environment.listKeys := by
    simp [Environment.listKeys, ← String.toList_inj]
  refine ⟨Text.lowerCase (String.ofList name), ?_⟩
  simp only [leafOfVariable, hKey, Option.getD_some, hPlace,
    Environment.value_of_plain_text hNotList hPlain]

theorem IsKnownVariable.known_leaf
    {f : String × String}
    (hKnown : IsKnownVariable f) :
    Known (leafOfVariable f) := by
  rcases hKnown with ⟨k, -, hVariable, hSpelled⟩ | ⟨hModule, hPlain⟩
  · rcases Option.isSome_iff_exists.mp hSpelled with ⟨a, hA⟩
    have hLeaf : leafOfVariable f = (k.path, (leafOfVariable f).2) :=
      Prod.ext hVariable.leafOfVariable_fst rfl
    rw [hLeaf]
    exact .key k (Option.isSome_iff_exists.mpr
      ⟨a, hVariable.own_leafOfVariable hA⟩)
  · rcases leafOfVariable_module hModule hPlain with ⟨name, hLeaf⟩
    rw [hLeaf]
    exact .moduleLevel name f.2

/- If it sets a field, it is the variable of that field, and spells a value. -/
theorem IsKnownVariable.hasVariable
    {f : String × String}
    (hKnown : IsKnownVariable f)
    {k : Key}
    (hPlace : (leafOfVariable f).1 = k.path) :
    k.HasVariable f.1 ∧ (k.kind.spelled? f.2).isSome := by
  rcases hKnown with ⟨k', -, hVariable, hSpelled⟩ | ⟨hModule, hPlain⟩
  · have hKey : k' = k := Key.path_injective
      (hVariable.leafOfVariable_fst.symm.trans hPlace)
    exact hKey ▸ ⟨hVariable, hSpelled⟩
  · rcases leafOfVariable_module hModule hPlain with ⟨name, hLeaf⟩
    rw [hLeaf] at hPlace
    exact absurd ⟨[.field name], hPlace⟩ (path_not_prefix_modules k).2

theorem Key.HasVariable.isMarked
    {k : Key}
    {name : String}
    (hVariable : k.HasVariable name) :
    IsMarked name := by
  rw [← isSome_key?_iff, hVariable.key?_eq]
  rfl

/- Variables are a layer, and set each field to what is spelled for it. -/
theorem Variables.layer
    {env : Environment}
    (hVariables : Variables env) :
    Layer env.settings ∧
      ∀ k, setBy env.settings k = inEnvironment env k := by
  have hFound : ∀ k : Key,
      (env.filter fun f => IsMarked f.1).find? (fun f => k.HasVariable f.1) =
        env.find? fun f => k.HasVariable f.1 := by
    intro k
    rw [List.find?_filter]
    apply List.find?_congr
    intro f _
    rw [Bool.eq_iff_iff]
    simpa using Key.HasVariable.isMarked
  have hKnown : ∀ f ∈ env.filter (fun f => IsMarked f.1),
      IsKnownVariable f := by
    intro f hMem
    rw [List.mem_filter, decide_eq_true_eq] at hMem
    exact hVariables.known f hMem.1 hMem.2
  have hLayer : Layer env.settings ∧ ∀ k, setBy env.settings k =
      ((env.filter fun f => IsMarked f.1).find?
        fun f => k.HasVariable f.1).bind
          fun f => k.kind.own (leafOfVariable f).2 := by
    apply layer_of_sources (fun k f => decide (k.HasVariable f.1))
      (leavesOf_settings env)
    · intro f hMem
      exact (hKnown f hMem).known_leaf
    · intro f hMem k
      rw [decide_eq_true_eq]
      exact ⟨fun hPlace => ((hKnown f hMem).hasVariable hPlace).1,
        Key.HasVariable.leafOfVariable_fst⟩
    · intro k
      exact Nat.le_trans List.filter_sublist.countP_le (hVariables.once k)
  refine ⟨hLayer.1, ?_⟩
  intro k
  rw [hLayer.2, hFound, inEnvironment]
  cases hFirst : env.find? fun f => k.HasVariable f.1 with
  | none => rfl
  | some f =>
    have hVariable : k.HasVariable f.1 := by
      simpa using List.find?_some hFirst
    have hMem := hVariables.known f (List.mem_of_find?_eq_some hFirst)
      hVariable.isMarked
    rcases Option.isSome_iff_exists.mp
      (hMem.hasVariable hVariable.leafOfVariable_fst).2 with ⟨a, hA⟩
    rw [Option.bind_some, Option.bind_some, hA,
      hVariable.own_leafOfVariable hA]

end Config

end ResourcePack

------------------------------------------------------------
-- Loading
------------------------------------------------------------

namespace ResourcePack

namespace Config

open Settings (Value)
open Generation (Returns returns_bind_iff returns_pure_iff
  returns_lift_iff)

variable {σ : Type} [Workspace (StateM σ)]

/-
  The document that is loaded: that of the text in the regular file
  which is named.  Without a file it is empty.
-/
def DocumentAt
    (file : Option String)
    (s : σ)
    (document : List (String × Value))
    (s' : σ) : Prop :=
  match file with
  | none => document = [] ∧ s' = s
  | some path =>
    ∃ s₁ text, (Workspace.isFile path : StateM σ Bool).run s = (true, s₁) ∧
      (Workspace.read path : StateM σ _).run s₁ = (.ok text, s') ∧
      Toml.parse? text = some document

/- That document is the layer of the file. -/
theorem DocumentAt.returns
    {file : Option String}
    {s s' : σ}
    {document : List (String × Value)}
    (hDocument : DocumentAt file s document s') :
    Returns (fileLayer file) s document s' := by
  cases file with
  | none =>
    rcases hDocument with ⟨rfl, rfl⟩
    exact returns_pure_iff.mpr ⟨rfl, rfl⟩
  | some path =>
    rcases hDocument with ⟨s₁, text, hFile, hRead, hParse⟩
    refine returns_bind_iff.mpr ⟨true, s₁, returns_lift_iff.mpr hFile, ?_⟩
    refine returns_bind_iff.mpr
      ⟨.ok text, s', returns_lift_iff.mpr hRead, ?_⟩
    simp only [hParse]
    exact returns_pure_iff.mpr ⟨rfl, rfl⟩

end Config

namespace Program

open Config Generation
open Settings (Value)

/-
  Where the document of the file and the variables are about known
  fields, with values of their types, the configuration of a call is
  loaded, and every field has the value of the highest source that
  sets it: the arguments, the environment, the file, or the default.
-/
theorem get_configure
    {σ : Type}
    [Workspace (StateM σ)]
    {env : Environment}
    {i : Invocation}
    {s s' : σ}
    {document : List (String × Value)}
    (hFile : DocumentAt i.configFile s document s')
    (hDocument : Document document)
    (hVariables : Variables env) :
    ∃ c, Returns (configure env i) s c s' ∧
      ∀ k : Key, c.get k =
        (((i.given k).or (inEnvironment env k)).or
          (inDocument document k)).getD (({} : Config).get k) := by
  rcases hDocument.layer with ⟨hLower, hSetLower⟩
  rcases hVariables.layer with ⟨hUpper, hSetUpper⟩
  rcases get_layered hLower hUpper with ⟨c, hLayered, hGet⟩
  have hLoad : Returns (Config.load env i.configFile) s c s' := by
    rw [load_eq]
    exact returns_bind_iff.mpr
      ⟨document, s', hFile.returns,
        returns_ofExcept_iff.mpr ⟨hLayered, rfl⟩⟩
  refine ⟨i.apply c, ?_, ?_⟩
  · unfold configure
    exact returns_bind_iff.mpr
      ⟨c, s', hLoad, returns_pure_iff.mpr ⟨rfl, rfl⟩⟩
  · intro k
    rw [Invocation.get_apply, hGet, hSetUpper, hSetLower, Option.or_assoc]
    cases i.given k <;> rfl

/- A document with a list, a number and settings of the log. -/
def sampleFile : String :=
  "search = [\"a\"]\nAlign = 8\nprefix = \"p_\"\n" ++
    "[logging]\nformat = \"json\"\nlevel = \"warn\"\n"

/- A store that holds it. -/
def sampleStore : Store :=
  ((Store.initial ["w"]).write "g.toml" sampleFile).2

/- Variables in letters of any case, one of which is of no concern. -/
def sampleEnvironment : Environment := [
  ("HOME", "/h"), ("genrsrc__Search", "c,d"), ("GENRSRC__ALIGN", "+16"),
  ("GENRSRC__LOGGING__LEVEL", "trace"),
  ("GENRSRC__LOGGING__MODULES__core", "info")]

/- Arguments with a guard and two flags. -/
def sampleInvocation : Invocation :=
  { configFile := some "g.toml", guard := some "H_H", sorted := true,
    verbose := true }

/-
  The list of the variable is taken whole, the level is that of the
  flag, and what no variable or argument sets comes from the file, or
  is the default.
-/
theorem get_configure_sample :
    ∃ document, DocumentAt sampleInvocation.configFile sampleStore
        document sampleStore ∧
      Document document ∧ Variables sampleEnvironment ∧
      ∃ c, Returns (configure sampleEnvironment sampleInvocation)
          sampleStore c sampleStore ∧
        c.guard = "H_H" ∧ c.order = .sorted ∧ c.log.level = "debug" ∧
        c.search = ["c", "d"] ∧ c.align = 16 ∧ c.symbolPrefix = "p_" ∧
        c.log.format = "json" ∧ c.log.enabled = true ∧
        c.scope = "resource" := by
  have hRead : sampleStore.isFile "g.toml" = true ∧
      (sampleStore.read "g.toml").toOption = some sampleFile := by
    decide +kernel
  have hParse : (Toml.parse? sampleFile).any (fun document =>
      Document document ∧ inDocument document .symbolPrefix = some "p_" ∧
        inDocument document .format = some "json" ∧
        inDocument document .enabled = none ∧
        inDocument document .scope = none) = true := by
    decide +kernel
  have hEnv : Variables sampleEnvironment ∧
      inEnvironment sampleEnvironment .search = some ["c", "d"] ∧
      inEnvironment sampleEnvironment .align = some 16 ∧
      inEnvironment sampleEnvironment .symbolPrefix = none ∧
      inEnvironment sampleEnvironment .format = none ∧
      inEnvironment sampleEnvironment .enabled = none ∧
      inEnvironment sampleEnvironment .scope = none := by
    decide +kernel
  have hText : sampleStore.read "g.toml" = .ok sampleFile := by
    cases hResult : sampleStore.read "g.toml" with
    | error e =>
      rw [hResult] at hRead
      cases hRead.2
    | ok text =>
      rw [hResult] at hRead
      exact congrArg Except.ok (Option.some.inj hRead.2)
  rcases (Option.any_eq_true _ _).mp hParse with ⟨document, hSome, hAll⟩
  rcases of_decide_eq_true hAll with
    ⟨hDocument, hPrefix, hFormat, hNotOn, hNotScope⟩
  rcases hEnv with ⟨hVariables, hSearch, hAlign, hNoPrefix, hNoFormat,
    hNoOn, hNoScope⟩
  have hFile : DocumentAt sampleInvocation.configFile sampleStore
      document sampleStore :=
    ⟨sampleStore, sampleFile, congrArg (·, sampleStore) hRead.1,
      congrArg (·, sampleStore) hText, hSome⟩
  rcases get_configure hFile hDocument hVariables with
    ⟨c, hConfigure, hGet⟩
  have hSearchGet := hGet .search
  have hAlignGet := hGet .align
  have hPrefixGet := hGet .symbolPrefix
  have hFormatGet := hGet .format
  have hOnGet := hGet .enabled
  have hScopeGet := hGet .scope
  rw [hSearch] at hSearchGet
  rw [hAlign] at hAlignGet
  rw [hNoPrefix, hPrefix] at hPrefixGet
  rw [hNoFormat, hFormat] at hFormatGet
  rw [hNoOn, hNotOn] at hOnGet
  rw [hNoScope, hNotScope] at hScopeGet
  exact ⟨document, hFile, hDocument, hVariables, c, hConfigure,
    hGet .guard, hGet .order, hGet .level, hSearchGet, hAlignGet,
    hPrefixGet, hFormatGet, hOnGet, hScopeGet⟩

end Program

end ResourcePack
