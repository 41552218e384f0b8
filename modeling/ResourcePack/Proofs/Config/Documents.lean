import Mathlib.Data.List.Find
import ResourcePack.Proofs.Config.Variables

/-
  What a document says of the fields of a configuration.

  Key definitions include:
    * `ResourcePack.Settings.statementsOf`
    * `ResourcePack.Settings.placeOfWords`
    * `ResourcePack.Config.Key.IsNamedBy`
    * `ResourcePack.Config.Document`
    * `ResourcePack.Config.inDocument`

  Main declarations:
    * `ResourcePack.Settings.leavesOf_eq_map`
    * `ResourcePack.Config.layer_of_sources`
    * `ResourcePack.Config.Document.layer`

  A document is read statement by statement: a value, and the keys
  around it as they are written.  The keys of a field may stand by
  themselves or be joined by dots, and are in letters of any case.
-/

------------------------------------------------------------
-- What a Document States
------------------------------------------------------------

namespace ResourcePack

namespace Settings

/- A value, and the keys around it from the outside in, as written. -/
abbrev Statement := List String × Value

/- A statement in a table that has a key. -/
def under
    (key : String)
    (e : Statement) : Statement :=
  (key :: e.1, e.2)

mutual

/- What a value states: itself, or what the fields of a table state. -/
def statements : Value → List Statement
  | .table fields =>
    if fields.isEmpty then [([], .table [])] else statementsOf fields
  | v => [([], v)]

/- What fields state, one after the other. -/
def statementsOf : List (String × Value) → List Statement
  | [] => []
  | (key, v) :: rest => (statements v).map (under key) ++ statementsOf rest

end

/- The place of words in lower case; only the first may be a path. -/
def placeOfWords : List String → List KeyStep
  | [] => []
  | first :: rest =>
    lowerLast ((keyPath? first).getD [.field first]) ++ rest.map .field

/- A statement puts its value at the place of its keys. -/
def Statement.leaf
    (e : Statement) : Leaf :=
  (placeOfWords (e.1.map Text.lowerCase), e.2)

/- Inside of other keys, all keys are names. -/
def nested
    (e : Statement) : Leaf :=
  (e.1.map fun key => .field (Text.lowerCase key), e.2)

theorem below_placeOf
    (key : String)
    (e : Statement) :
    below (placeOf key) (nested e) = (under key e).leaf := by
  simp [below, nested, under, Statement.leaf, placeOfWords, placeOf]

mutual

/- A value sets what it states. -/
theorem leaves_eq_map
    (v : Value) :
    leaves v = (statements v).map nested := by
  cases v with
  | table fields =>
    rw [leaves, statements, fieldLeaves_eq_map fields]
    cases fields <;> rfl
  | _ => rfl

theorem fieldLeaves_eq_map
    (fields : List (String × Value)) :
    fieldLeaves fields = (statementsOf fields).map nested := by
  cases fields with
  | nil => rfl
  | cons f rest =>
    rcases f with ⟨key, v⟩
    rw [fieldLeaves, statementsOf, List.map_append,
      ← fieldLeaves_eq_map rest, leaves_eq_map v, List.map_map,
      List.map_map]
    rfl

end

/- So do the fields of a document. -/
theorem leavesOf_eq_map
    (fields : List (String × Value)) :
    leavesOf fields = (statementsOf fields).map Statement.leaf := by
  induction fields with
  | nil => rfl
  | cons f rest ih =>
    rcases f with ⟨key, v⟩
    have hFirst : (leaves v).map (below (placeOf key)) =
        ((statements v).map (under key)).map Statement.leaf := by
      rw [leaves_eq_map, List.map_map, List.map_map]
      exact List.map_congr_left fun e _ => below_placeOf key e
    rw [statementsOf, List.map_append, ← ih, ← hFirst]
    rfl

end Settings

end ResourcePack

------------------------------------------------------------
-- Layers of Parts
------------------------------------------------------------

namespace ResourcePack

namespace Config

open Settings

/-
  If the settings are made of what a source holds, and it is known
  which field each part of the source sets, they are a layer, and a
  field is set by the part that is there for it.
-/
theorem layer_of_sources
    {ξ : Type}
    {settings : List (String × Value)}
    {xs : List ξ}
    {leaf : ξ → Leaf}
    (sets : Key → ξ → Bool)
    (hLeaves : leavesOf settings = xs.map leaf)
    (hKnown : ∀ x ∈ xs, Known (leaf x))
    (hSets : ∀ x ∈ xs, ∀ k : Key, (leaf x).1 = k.path ↔ sets k x = true)
    (hOnce : ∀ k, xs.countP (sets k) ≤ 1) :
    Layer settings ∧ ∀ k, setBy settings k =
      (xs.find? (sets k)).bind fun x => k.kind.own (leaf x).2 := by
  refine ⟨⟨?_, ?_⟩, ?_⟩
  · rw [hLeaves]
    exact List.forall_mem_map.mpr hKnown
  · intro k
    rw [hLeaves, List.map_map, List.count, List.countP_map]
    refine Nat.le_trans (Nat.le_of_eq ?_) (hOnce k)
    apply List.countP_congr
    intro x hMem
    simpa using hSets x hMem k
  · intro k
    have hFind : xs.find? (fun x => k.path == (leaf x).1) =
        xs.find? (sets k) := by
      apply List.find?_congr
      intro x hMem
      rw [Bool.eq_iff_iff, beq_iff_eq, eq_comm, hSets x hMem k]
    rw [setBy, hLeaves, lookup_map, hFind]
    cases xs.find? (sets k) <;> rfl

theorem Key.path_injective
    {k k' : Key}
    (hPath : k.path = k'.path) :
    k = k' := by
  by_contra hNe
  exact (path_apart hNe).1 (hPath ▸ List.prefix_rfl)

end Config

end ResourcePack

------------------------------------------------------------
-- Names of Modules
------------------------------------------------------------

namespace ResourcePack

namespace Config

open Settings

/- The name of a module as far as a path can hold it. -/
def isModuleName
    (name : List Char) : Bool :=
  !name.isEmpty && name.all fun c =>
    c.isLower || c.isDigit || c = '_' || c = '-' || c = ' '

/- The name of a module that stands behind a marker. -/
def moduleBehind?
    (marker word : String) : Option (List Char) :=
  (marker.toList.isPrefixOf? word.toList).filter isModuleName

theorem moduleBehind?_eq_some_iff
    {marker word : String}
    {name : List Char} :
    moduleBehind? marker word = some name ↔
      word = marker ++ String.ofList name ∧ isModuleName name = true := by
  rw [moduleBehind?, Option.filter_eq_some_iff,
    List.isPrefixOf?_eq_some_iff_append_eq, ← String.toList_inj,
    String.toList_append, String.toList_ofList, eq_comm]

/- Its characters are those of names, and none is a capital letter. -/
theorem char_of_isModuleName
    {name : List Char}
    (hName : isModuleName name = true)
    {c : Char}
    (hMem : c ∈ name) :
    isNameChar c = true ∧ c.toNat < 128 ∧ c.toLower = c := by
  have hAll : ∀ n < 128,
      (Char.ofNat n).isLower = true ∨ (Char.ofNat n).isDigit = true →
        isNameChar (Char.ofNat n) = true ∧
          (Char.ofNat n).toLower = Char.ofNat n := by
    decide +kernel
  rw [isModuleName, Bool.and_eq_true, List.all_eq_true] at hName
  have hChar := hName.2 c hMem
  simp only [Bool.or_eq_true, decide_eq_true_eq] at hChar
  rcases hChar with ((hEither | rfl) | rfl) | rfl
  · have hAlphanum : c.isAlphanum = true := by
      rcases hEither with hLower | hDigit
      · have hAlpha : c.isAlpha = true :=
          Bool.or_eq_true_iff.mpr (.inr hLower)
        exact Bool.or_eq_true_iff.mpr (.inl hAlpha)
      · exact Bool.or_eq_true_iff.mpr (.inr hDigit)
    have hAscii := Identifier.toNat_lt_of_isAlphanum hAlphanum
    have hBoth := Text.of_forall_lt
      (fun c => c.isLower = true ∨ c.isDigit = true →
        isNameChar c = true ∧ c.toLower = c)
      hAll hAscii hEither
    exact ⟨hBoth.1, hAscii, hBoth.2⟩
  all_goals decide

/- The key of a module has no capital letters. -/
theorem isLower_module
    {name : List Char}
    (hName : isModuleName name = true) :
    Text.isLower ("logging.modules." ++ String.ofList name) = true := by
  have hMarker : "logging.modules.".toList.all (fun c =>
      c.toNat < 128 && c.toLower = c) = true := by
    decide
  unfold Text.isLower
  rw [String.toList_append, List.all_append, hMarker, Bool.true_and,
    String.toList_ofList, List.all_eq_true]
  intro c hMem
  rw [Bool.and_eq_true, decide_eq_true_eq, decide_eq_true_eq]
  exact (char_of_isModuleName hName hMem).2

/- A name in a path ends before what is no character of names. -/
theorem name?_append
    {name rest : List Char}
    (hNe : name ≠ [])
    (hName : name.all isNameChar = true)
    (hRest : rest.head?.any isNameChar = false) :
    name? (name ++ rest) = some (String.ofList name, rest) := by
  have hChars := List.all_eq_true.mp hName
  have hTake : (name ++ rest).takeWhile isNameChar = name := by
    rw [List.takeWhile_append_of_pos hChars]
    cases rest with
    | nil => simp
    | cons c cs => simp [show isNameChar c = false from hRest]
  have hDrop : (name ++ rest).dropWhile isNameChar = rest := by
    rw [List.dropWhile_append_of_pos hChars]
    cases rest with
    | nil => rfl
    | cons c cs => simp [show isNameChar c = false from hRest]
  unfold name?
  rw [hTake, hDrop]
  cases name with
  | nil => exact absurd rfl hNe
  | cons c cs => rfl

/- A module has its place inside the table of the modules. -/
theorem keyPath?_module
    {name : List Char}
    (hName : isModuleName name = true) :
    keyPath? ("logging.modules." ++ String.ofList name) =
      some [.field "logging", .field "modules",
        .field (String.ofList name)] := by
  have hNe : name ≠ [] := by
    rintro rfl
    cases hName
  have hKey : ("logging.modules." ++ String.ofList name).toList =
      "logging".toList ++ '.' :: ("modules".toList ++ '.' :: (name ++ [])) := by
    simp
  have hChars : name.all isNameChar = true :=
    List.all_eq_true.mpr fun _ hMem => (char_of_isModuleName hName hMem).1
  have hLogging : "logging".toList.all isNameChar = true := by
    decide
  have hModules : "modules".toList.all isNameChar = true := by
    decide
  unfold keyPath?
  rw [hKey, name?_append (by decide) hLogging rfl]
  simp only [Option.bind_eq_bind, Option.bind_some, List.length_cons,
    List.length_append, keySteps?]
  rw [name?_append (by decide) hModules rfl]
  simp only [Option.bind_some, ← Nat.add_assoc, keySteps?]
  rw [name?_append hNe hChars rfl]
  simp [keySteps?]

end Config

end ResourcePack

------------------------------------------------------------
-- Documents
------------------------------------------------------------

namespace ResourcePack

namespace Config

open Settings

/-
  Whether keys are those of a field, in letters of any case: each of
  its names by itself, or all of them in one with a dot between.
-/
def Key.IsNamedBy
    (k : Key)
    (keys : List String) : Prop :=
  keys.map Text.lowerCase = Text.splitOn '.' k.name ∨
    keys.map Text.lowerCase = [k.name]

instance
    (k : Key)
    (keys : List String) :
    Decidable (k.IsNamedBy keys) := by
  unfold Key.IsNamedBy
  infer_instance

/- Whether words in lower case are the keys of a module. -/
def areModuleWords : List String → Bool
  | ["logging", "modules", _] => true
  | ["logging.modules", _] => true
  | [word] => (moduleBehind? "logging.modules." word).isSome
  | _ => false

/- Words for the tables of the logging settings. -/
def tableWords : List (List String) :=
  [["logging"], ["logging", "modules"], ["logging.modules"]]

/- Whether a value is a table without fields. -/
def isEmptyTable : Value → Bool
  | .table [] => true
  | _ => false

/-
  A statement about a known field, with a value of its type.  The
  levels of modules are texts, and the tables may be empty.
-/
def IsKnownStatement
    (e : Statement) : Prop :=
  (∃ k ∈ Key.all, k.IsNamedBy e.1 ∧ (k.kind.own e.2).isSome) ∨
    (e.1.map Text.lowerCase ∈ tableWords ∧ isEmptyTable e.2) ∨
    (areModuleWords (e.1.map Text.lowerCase) ∧
      (Kind.ownText? e.2).isSome)

instance : DecidablePred IsKnownStatement := by
  intro e
  unfold IsKnownStatement
  infer_instance

/- A document about known fields, each of which it states once at most. -/
structure Document
    (fields : List (String × Value)) : Prop where
  known : ∀ e ∈ statementsOf fields, IsKnownStatement e
  once : ∀ k : Key,
    (statementsOf fields).countP (fun e => k.IsNamedBy e.1) ≤ 1

instance
    (fields : List (String × Value)) :
    Decidable (Document fields) :=
  decidable_of_iff
    ((∀ e ∈ statementsOf fields, IsKnownStatement e) ∧
      ∀ k ∈ Key.all,
        (statementsOf fields).countP (fun e => k.IsNamedBy e.1) ≤ 1)
    ⟨fun h => ⟨h.1, fun k => h.2 k (Key.mem_all k)⟩,
      fun h => ⟨h.known, fun k _ => h.once k⟩⟩

/- The value that a document states for a field. -/
def inDocument
    (fields : List (String × Value))
    (k : Key) : Option k.kind.Carrier :=
  ((statementsOf fields).find? fun e => k.IsNamedBy e.1).bind
    fun e => k.kind.own e.2

/- The keys of a field lead to its place. -/
theorem Key.IsNamedBy.leaf_fst
    {k : Key}
    {e : Statement}
    (hNamed : k.IsNamedBy e.1) :
    e.leaf.1 = k.path := by
  have hSplit : placeOfWords (Text.splitOn '.' k.name) = k.path := by
    cases k <;> decide +kernel
  have hJoined : placeOfWords [k.name] = k.path := by
    cases k <;> decide +kernel
  rw [Statement.leaf]
  rcases hNamed with hWords | hWords
  · rw [hWords, hSplit]
  · rw [hWords, hJoined]

theorem exists_place_module
    {words : List String}
    (hWords : areModuleWords words = true) :
    ∃ name, placeOfWords words =
      [.field "logging", .field "modules", .field name] := by
  unfold areModuleWords at hWords
  split at hWords
  · next name => exact ⟨_, rfl⟩
  · next name => exact ⟨_, rfl⟩
  · next word _ =>
    rcases Option.isSome_iff_exists.mp hWords with ⟨name, hBehind⟩
    rcases moduleBehind?_eq_some_iff.mp hBehind with ⟨rfl, hName⟩
    exact ⟨_, by rw [placeOfWords, keyPath?_module hName]; rfl⟩
  · cases hWords

theorem placeOfWords_of_mem
    {words : List String}
    (hWords : words ∈ tableWords) :
    placeOfWords words = [.field "logging"] ∨
      placeOfWords words = [.field "logging", .field "modules"] := by
  have hAll : ∀ words ∈ tableWords,
      placeOfWords words = [.field "logging"] ∨
        placeOfWords words = [.field "logging", .field "modules"] := by
    decide +kernel
  exact hAll words hWords

theorem eq_of_isEmptyTable
    {v : Value}
    (hEmpty : isEmptyTable v = true) :
    v = .table [] := by
  unfold isEmptyTable at hEmpty
  split at hEmpty
  · rfl
  · cases hEmpty

theorem IsKnownStatement.known_leaf
    {e : Statement}
    (hKnown : IsKnownStatement e) :
    Known e.leaf := by
  rcases hKnown with
    ⟨k, -, hNamed, hOwn⟩ | ⟨hWords, hTable⟩ | ⟨hWords, hText⟩
  · have hLeaf : e.leaf = (k.path, e.2) :=
      Prod.ext hNamed.leaf_fst rfl
    rw [hLeaf]
    exact .key k hOwn
  · rcases e with ⟨keys, v⟩
    have hEmpty : v = .table [] := eq_of_isEmptyTable hTable
    rw [Statement.leaf, hEmpty]
    rcases placeOfWords_of_mem hWords with hPlace | hPlace
    · rw [hPlace]
      exact .logging
    · rw [hPlace]
      exact .modules
  · rcases e with ⟨keys, v⟩
    rcases exists_place_module hWords with ⟨name, hPlace⟩
    rcases Option.isSome_iff_exists.mp hText with ⟨level, hLevel⟩
    rw [Statement.leaf, hPlace, (toText?_of_ownText? hLevel).1]
    exact .moduleLevel name level

/- If it is about the place of a field, its keys are those of the field. -/
theorem IsKnownStatement.isNamedBy
    {e : Statement}
    (hKnown : IsKnownStatement e)
    {k : Key}
    (hPlace : e.leaf.1 = k.path) :
    k.IsNamedBy e.1 := by
  have hLeaf : Known (k.path, e.2) := hPlace ▸ hKnown.known_leaf
  rcases hKnown with
    ⟨k', -, hNamed, hOwn⟩ | ⟨hWords, hTable⟩ | ⟨hWords, hText⟩
  · exact Key.path_injective (hNamed.leaf_fst.symm.trans hPlace) ▸ hNamed
  · exact absurd (eq_of_isEmptyTable hTable) (ne_table_of_own hLeaf.own [])
  · rcases exists_place_module hWords with ⟨name, hModule⟩
    exact absurd ⟨[.field name], hModule.symm.trans hPlace⟩
      (path_not_prefix_modules k).2

/- A document is a layer, and sets each field to what it states. -/
theorem Document.layer
    {fields : List (String × Value)}
    (hDocument : Document fields) :
    Layer fields ∧ ∀ k, setBy fields k = inDocument fields k := by
  apply layer_of_sources (fun k e => decide (k.IsNamedBy e.1))
    (leavesOf_eq_map fields) ?_ ?_ hDocument.once
  · intro e hMem
    exact (hDocument.known e hMem).known_leaf
  · intro e hMem k
    rw [decide_eq_true_eq]
    exact ⟨(hDocument.known e hMem).isNamedBy, Key.IsNamedBy.leaf_fst⟩

end Config

end ResourcePack
