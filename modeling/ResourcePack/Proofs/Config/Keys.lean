import ResourcePack.CommandLine.Invocation
import ResourcePack.Config.Decode
import ResourcePack.Proofs.Settings.Leaves

/-
  The fields of a configuration, and the layers that set them.

  Key definitions include:
    * `ResourcePack.Config.Kind`
    * `ResourcePack.Config.Key`
    * `ResourcePack.Config.get`
    * `ResourcePack.Invocation.given`
    * `ResourcePack.Config.Layer`
    * `ResourcePack.Config.setBy`

  Main declarations:
    * `ResourcePack.Invocation.get_apply`
    * `ResourcePack.Config.Known.fair`
    * `ResourcePack.Config.Known.own`

  A layer is a list of settings, or the arguments of a call.  Each
  field has a place among the settings, and a layer sets it there to
  a value of its own type.  No place of a field lies inside another
  one, so a setting of one field never changes what another one is.
-/

------------------------------------------------------------
-- Fields
------------------------------------------------------------

namespace ResourcePack

namespace Config

open Settings (Value KeyStep Leaf)

/- The types of the fields. -/
inductive Kind where
  | text
  | optionText
  | texts
  | word
  | order
  | policy
  | flag

namespace Kind

/- The values of a field. -/
@[reducible]
def Carrier : Kind → Type
  | text => String
  | optionText => Option String
  | texts => List String
  | word => Nat
  | order => Order
  | policy => Policy
  | flag => Bool

/- The text of a setting that is a text. -/
def ownText? : Value → Option String
  | .text s => some s
  | _ => none

/- The order of a name, in letters of any case. -/
def orderNamed?
    (name : String) : Option Order :=
  match Text.lowerCase name with
  | "insertion" => some .insertion
  | "sorted" => some .sorted
  | _ => none

/- The policy of a name, in letters of any case. -/
def policyNamed?
    (name : String) : Option Policy :=
  match Text.lowerCase name with
  | "reject" => some .reject
  | "escape" => some .escape
  | _ => none

/- The value of a setting that is of the type of the field. -/
def own : (k : Kind) → Value → Option k.Carrier
  | text, v => ownText? v
  | optionText, v => (ownText? v).map some
  | texts, .list items => items.mapM ownText?
  | word, .int n => if 0 ≤ n ∧ n < 4294967296 then some n.toNat else none
  | order, .text s => orderNamed? s
  | policy, .text s => policyNamed? s
  | flag, .bool b => some b
  | _, _ => none

/- How a field reads its setting. -/
def read : (k : Kind) → Value → Option k.Carrier
  | text => Value.toText?
  | optionText => Value.toOptionText?
  | texts => Value.toTexts?
  | word => Value.toWord?
  | order => Value.toChoice? orders
  | policy => Value.toChoice? policies
  | flag => Value.toBool?

end Kind

/- The fields of a configuration, and of its logging settings. -/
inductive Key where
  | symbolPrefix
  | scope
  | guard
  | resourceClass
  | includes
  | search
  | align
  | order
  | policy
  | enabled
  | level
  | format
  | output
  | file
  | color
  deriving DecidableEq

namespace Key

/- The type of a field. -/
@[reducible]
def kind : Key → Kind
  | symbolPrefix | scope | guard | level | format | output => .text
  | resourceClass | file => .optionText
  | includes | search => .texts
  | align => .word
  | order => .order
  | policy => .policy
  | enabled | color => .flag

/- The place of a field among the settings. -/
def path : Key → List KeyStep
  | symbolPrefix => [.field "prefix"]
  | scope => [.field "namespace"]
  | guard => [.field "guard"]
  | resourceClass => [.field "resource_class"]
  | includes => [.field "includes"]
  | search => [.field "search"]
  | align => [.field "align"]
  | order => [.field "order"]
  | policy => [.field "symbol_policy"]
  | enabled => [.field "logging", .field "enabled"]
  | level => [.field "logging", .field "level"]
  | format => [.field "logging", .field "format"]
  | output => [.field "logging", .field "output"]
  | file => [.field "logging", .field "file"]
  | color => [.field "logging", .field "color"]

/- All of them. -/
def all : List Key := [
  symbolPrefix, scope, guard, resourceClass, includes, search, align,
  order, policy, enabled, level, format, output, file, color]

theorem mem_all
    (k : Key) :
    k ∈ all := by
  cases k <;> decide

end Key

/- The value of a field. -/
def get
    (c : Config) : (k : Key) → k.kind.Carrier
  | .symbolPrefix => c.symbolPrefix
  | .scope => c.scope
  | .guard => c.guard
  | .resourceClass => c.resourceClass
  | .includes => c.includes
  | .search => c.search
  | .align => c.align
  | .order => c.order
  | .policy => c.policy
  | .enabled => c.log.enabled
  | .level => c.log.level
  | .format => c.log.format
  | .output => c.log.output
  | .file => c.log.file
  | .color => c.log.color

end Config

namespace Invocation

open Config (Key)

/-
  The value that the arguments set a field to.  A list is set by one
  item or more, a flag only switches on, and an explicit level goes
  before the one of `--verbose`.
-/
def given
    (i : Invocation) : (k : Key) → Option k.kind.Carrier
  | .symbolPrefix => i.symbolPrefix
  | .scope => i.scope
  | .guard => i.guard
  | .resourceClass => i.resourceClass.map some
  | .includes => if i.includes = [] then none else some i.includes
  | .search => if i.search = [] then none else some i.search
  | .align => i.align
  | .order => if i.sorted then some .sorted else none
  | .policy => if i.escapeSymbols then some .escape else none
  | .enabled => none
  | .level => i.logLevel.or (if i.verbose then some "debug" else none)
  | .format => i.logFormat
  | .output => i.logOutput
  | .file => i.logFile.map some
  | .color => none

theorem or_eq_getD_map_some
    (x y : Option String) :
    x.or y = (x.map some).getD y := by
  cases x <;> rfl

theorem listOr_eq_getD
    (given default : List String) :
    listOr given default =
      (if given = [] then none else some given).getD default := by
  cases given <;> rfl

/- The arguments go over a configuration field by field. -/
theorem get_apply
    (i : Invocation)
    (c : Config)
    (k : Key) :
    (i.apply c).get k = (i.given k).getD (c.get k) := by
  cases k with
  | symbolPrefix | scope | guard | align | enabled | format | output
  | color => rfl
  | resourceClass => exact or_eq_getD_map_some _ _
  | file => exact or_eq_getD_map_some _ _
  | includes => exact listOr_eq_getD _ _
  | search => exact listOr_eq_getD _ _
  | order =>
    change (if i.sorted then Order.sorted else c.order) =
      (if i.sorted then some Order.sorted else none).getD c.order
    cases i.sorted <;> rfl
  | policy =>
    change (if i.escapeSymbols then Policy.escape else c.policy) =
      (if i.escapeSymbols then some Policy.escape else none).getD c.policy
    cases i.escapeSymbols <;> rfl
  | level =>
    change i.level?.getD c.log.level =
      (i.logLevel.or (if i.verbose then some "debug" else none)).getD
        c.log.level
    unfold level?
    cases i.logLevel <;> rfl

end Invocation

end ResourcePack

------------------------------------------------------------
-- Layers
------------------------------------------------------------

namespace ResourcePack

namespace Config

open Settings

/-
  A setting of a known field, with a value of the field's own type.
  There may be empty tables for the logging settings and the levels
  of modules, and those levels are texts.
-/
inductive Known : Leaf → Prop where
  | key (k : Key) {v : Value} (hOwn : (k.kind.own v).isSome) :
    Known (k.path, v)
  | logging : Known ([.field "logging"], .table [])
  | modules : Known ([.field "logging", .field "modules"], .table [])
  | moduleLevel (name level : String) :
    Known ([.field "logging", .field "modules", .field name], .text level)

/- Whether a setting is one of a field, or of the other forms. -/
def isKnown
    (l : Leaf) : Bool :=
  (Key.all.any fun k => l.1 = k.path && (k.kind.own l.2).isSome) ||
    match l with
    | ([.field "logging"], .table []) => true
    | ([.field "logging", .field "modules"], .table []) => true
    | ([.field "logging", .field "modules", .field _], .text _) => true
    | _ => false

/- To be known is decided by trying all fields. -/
theorem isKnown_iff
    {l : Leaf} :
    isKnown l = true ↔ Known l := by
  constructor
  · intro hCheck
    rcases Bool.or_eq_true_iff.mp hCheck with hKey | hOther
    · rcases List.any_eq_true.mp hKey with ⟨k, -, hBoth⟩
      rw [Bool.and_eq_true, decide_eq_true_eq] at hBoth
      rcases l with ⟨path, v⟩
      rcases hBoth with ⟨rfl, hOwn⟩
      exact .key k hOwn
    · split at hOther
      · exact .logging
      · exact .modules
      · exact .moduleLevel _ _
      · cases hOther
  · intro hKnown
    apply Bool.or_eq_true_iff.mpr
    cases hKnown with
    | key k hOwn =>
      refine Or.inl (List.any_eq_true.mpr ⟨k, Key.mem_all k, ?_⟩)
      exact Bool.and_eq_true_iff.mpr ⟨decide_eq_true rfl, hOwn⟩
    | logging => exact Or.inr rfl
    | modules => exact Or.inr rfl
    | moduleLevel name level => exact Or.inr rfl

instance : DecidablePred Known :=
  fun _ => decidable_of_iff _ isKnown_iff

/- Settings of known fields, each of which is set once at most. -/
structure Layer
    (settings : List (String × Value)) : Prop where
  known : ∀ l ∈ leavesOf settings, Known l
  once : ∀ k : Key, ((leavesOf settings).map Prod.fst).count k.path ≤ 1

instance
    (settings : List (String × Value)) :
    Decidable (Layer settings) :=
  decidable_of_iff
    ((∀ l ∈ leavesOf settings, Known l) ∧
      ∀ k ∈ Key.all, ((leavesOf settings).map Prod.fst).count k.path ≤ 1)
    ⟨fun h => ⟨h.1, fun k => h.2 k (Key.mem_all k)⟩,
      fun h => ⟨h.known, fun k _ => h.once k⟩⟩

/- The value that settings set a field to. -/
def setBy
    (settings : List (String × Value))
    (k : Key) : Option k.kind.Carrier :=
  ((leavesOf settings).lookup k.path).bind k.kind.own

theorem Key.path_ne_nil
    (k : Key) :
    k.path ≠ [] := by
  cases k <;> exact List.cons_ne_nil _ _

theorem Key.isName_path
    (k : Key) :
    ∀ step ∈ k.path, IsName step := by
  cases k <;> simp [Key.path, IsName]

/- Neither of two fields is set inside the other one. -/
theorem path_apart
    {k k' : Key}
    (hNe : k ≠ k') :
    ¬k.path <+: k'.path ∧ ¬k'.path <+: k.path := by
  have hAll : ∀ k ∈ Key.all, ∀ k' ∈ Key.all, k ≠ k' →
      ¬k.path <+: k'.path ∧ ¬k'.path <+: k.path := by
    decide +kernel
  exact hAll k (Key.mem_all k) k' (Key.mem_all k') hNe

/- No field is set at the places of the two tables, or around them. -/
theorem path_not_prefix_modules
    (k : Key) :
    ¬k.path <+: [.field "logging", .field "modules"] ∧
      ¬[KeyStep.field "logging", .field "modules"] <+: k.path := by
  have hAll : ∀ k ∈ Key.all,
      ¬k.path <+: [.field "logging", .field "modules"] ∧
        ¬[KeyStep.field "logging", .field "modules"] <+: k.path := by
    decide +kernel
  exact hAll k (Key.mem_all k)

theorem ne_table_of_own
    {k : Kind}
    {v : Value}
    (hOwn : (k.own v).isSome)
    (fields : List (String × Value)) :
    v ≠ .table fields := by
  rintro rfl
  cases k <;> cases hOwn

theorem Known.isName
    {l : Leaf}
    (hKnown : Known l) :
    ∀ step ∈ l.1, IsName step := by
  cases hKnown with
  | key k hOwn => exact k.isName_path
  | logging => simp [IsName]
  | modules => simp [IsName]
  | moduleLevel name level => simp [IsName]

/- Known settings can be told apart from what is found for a field. -/
theorem Known.fair
    {l : Leaf}
    (hKnown : Known l)
    (k : Key) :
    Fair k.path l := by
  cases hKnown with
  | key k' hOwn =>
    by_cases hKey : k' = k
    · exact Or.inl ⟨congrArg Key.path hKey, ne_table_of_own hOwn⟩
    · exact Or.inr (Or.inl (path_apart hKey))
  | logging =>
    have hModules := (path_not_prefix_modules k).1
    have hApart : ¬k.path <+: [.field "logging"] := by
      intro hPrefix
      exact hModules (hPrefix.trans ⟨[.field "modules"], rfl⟩)
    by_cases hPrefix : [KeyStep.field "logging"] <+: k.path
    · refine Or.inr (Or.inr ⟨hPrefix, ?_, rfl⟩)
      intro hEq
      exact hApart (hEq ▸ List.prefix_rfl)
    · exact Or.inr (Or.inl ⟨hPrefix, hApart⟩)
  | modules =>
    exact Or.inr (Or.inl (path_not_prefix_modules k).symm)
  | moduleLevel name level =>
    have hModules := path_not_prefix_modules k
    have hInside : [KeyStep.field "logging", .field "modules"] <+:
        [.field "logging", .field "modules", .field name] :=
      ⟨[.field name], rfl⟩
    refine Or.inr (Or.inl ⟨?_, ?_⟩)
    · intro hPrefix
      exact hModules.2 (hInside.trans hPrefix)
    · intro hPrefix
      have hPrefix' : k.path <+:
          [KeyStep.field "logging", .field "modules"] ++ [.field name] :=
        hPrefix
      rcases List.prefix_concat_iff.mp hPrefix' with hEq | hAbove
      · exact hModules.2 (hEq ▸ hInside)
      · exact hModules.1 hAbove

/- Known settings are at most three steps down. -/
theorem Known.length_le
    {l : Leaf}
    (hKnown : Known l) :
    l.1.length ≤ 3 := by
  cases hKnown with
  | key k hOwn => cases k <;> simp [Key.path]
  | logging => decide
  | modules => decide
  | moduleLevel name level => exact Nat.le_refl 3

/- At the place of a field, known settings are of its type. -/
theorem Known.own
    {k : Key}
    {v : Value}
    (hKnown : Known (k.path, v)) :
    (k.kind.own v).isSome := by
  rcases hKnown.fair k with ⟨-, hTable⟩ | ⟨hApart, -⟩ | ⟨-, hNe, -⟩
  · generalize hPlace : k.path = path at hKnown
    cases hKnown with
    | key k' hOwn =>
      by_cases hKey : k = k'
      · exact hKey ▸ hOwn
      · exact absurd (hPlace ▸ List.prefix_rfl) (path_apart hKey).1
    | logging => exact absurd rfl (hTable [])
    | modules => exact absurd rfl (hTable [])
    | moduleLevel name level =>
      have hModules := (path_not_prefix_modules k).2
      exact absurd ⟨[.field name], hPlace.symm⟩ hModules
  · exact absurd List.prefix_rfl hApart
  · exact absurd rfl hNe

theorem Layer.isName
    {settings : List (String × Value)}
    (hLayer : Layer settings) :
    ∀ l ∈ leavesOf settings, ∀ step ∈ l.1, IsName step :=
  fun l hMem => (hLayer.known l hMem).isName

theorem Layer.fair
    {settings : List (String × Value)}
    (hLayer : Layer settings)
    (k : Key) :
    ∀ l ∈ leavesOf settings, Fair k.path l :=
  fun l hMem => (hLayer.known l hMem).fair k

end Config

end ResourcePack
