import Mathlib.Data.List.Nodup
import ResourcePack.Config.Json
import ResourcePack.Lookup
import ResourcePack.Proofs.Steps
import ResourcePack.Proofs.Text.Reading

/-
  Configurations read back from their JSON form.

  Key definitions include:
    * `ResourcePack.Json.fields`
    * `ResourcePack.Config.Edited`
    * `ResourcePack.Config.Abridged`
    * `ResourcePack.Config.without`

  Main declarations:
    * `ResourcePack.Config.member?_edited`
    * `ResourcePack.Config.logOfJson?_edited`
    * `ResourcePack.Config.decodes_with_defaults`

  A field is read by its name alone.  So the order of the fields and
  the unknown ones among them do not matter, and whichever of the known
  ones are left out have the values of an empty configuration.
-/

------------------------------------------------------------
-- Edited Objects
------------------------------------------------------------

namespace ResourcePack

/- The fields of an object; other values have none. -/
def Json.fields : Json → List (String × Json)
  | .object fields => fields
  | _ => []

namespace Config

/-
  Fields from which some have been removed and to which unknown ones
  have been added: in any order, the known ones among them are those
  of the first list that were not removed.
-/
def Edited
    (known removed : List String)
    (fields edited : List (String × Json)) : Prop :=
  (edited.filter fun f => f.1 ∈ known).Perm
    (fields.filter fun f => f.1 ∉ removed)

theorem edited_self
    {known : List String}
    {fields : List (String × Json)}
    (hKnown : ∀ f ∈ fields, f.1 ∈ known) :
    Edited known [] fields fields := by
  unfold Edited
  rw [List.filter_eq_self.mpr (by simpa using hKnown),
    List.filter_eq_self.mpr (by simp)]

theorem member?_eq_lookup
    (fields : List (String × Json))
    (name : String) :
    Json.member? fields name = fields.lookup name := by
  have hSame : fields.lookup name = (fields.map id).lookup name := by
    rw [List.map_id]
  rw [hSame, lookup_map, Json.member?]
  congr 2
  funext f
  rw [Bool.eq_iff_iff, decide_eq_true_eq, beq_iff_eq]
  exact eq_comm

variable {known removed : List String}
variable {fields edited : List (String × Json)} {name : String}

/- A known field is the one that was there, unless it was removed. -/
theorem member?_edited
    (hEdited : Edited known removed fields edited)
    (hNames : (fields.map Prod.fst).Nodup)
    (hKnown : name ∈ known) :
    Json.member? edited name =
      if name ∈ removed then none else Json.member? fields name := by
  have hLeft : ((fields.filter fun f => f.1 ∉ removed).map
      Prod.fst).Nodup :=
    (List.filter_sublist.map Prod.fst).nodup hNames
  rw [member?_eq_lookup, member?_eq_lookup]
  calc
    edited.lookup name =
        (edited.filter fun f => f.1 ∈ known).lookup name := by
      rw [lookup_filter edited (decide <| · ∈ known),
        if_pos (decide_eq_true hKnown)]
    _ = (fields.filter fun f => f.1 ∉ removed).lookup name := by
      apply lookup_eq_of_perm hEdited
      rw [(hEdited.map Prod.fst).count_eq]
      exact List.nodup_iff_count_le_one.mp hLeft name
    _ = if name ∈ removed then none else fields.lookup name := by
      rw [lookup_filter fields (decide <| · ∉ removed)]
      by_cases hRemoved : name ∈ removed <;> simp [hRemoved]

/- So a field is read as it was, or has its default. -/
theorem fieldOr?_edited
    {α : Type}
    {read : Json → Option α}
    {value default : α}
    {j : Json}
    (hEdited : Edited known removed fields edited)
    (hNames : (fields.map Prod.fst).Nodup)
    (hKnown : name ∈ known)
    (hField : Json.member? fields name = some j)
    (hRead : read j = some value) :
    fieldOr? edited name read default =
      some (if name ∈ removed then default else value) := by
  unfold fieldOr?
  rw [member?_edited hEdited hNames hKnown, hField]
  by_cases hRemoved : name ∈ removed
  · rw [if_pos hRemoved, if_pos hRemoved]
  · rw [if_neg hRemoved, if_neg hRemoved]
    exact hRead

end Config

end ResourcePack

------------------------------------------------------------
-- Values
------------------------------------------------------------

namespace ResourcePack

namespace Config

/- Texts are read back. -/
theorem texts?_textsJson
    (texts : List String) :
    texts? (textsJson texts) = some texts :=
  mapM_map_eq_some Json.text text? (fun _ => rfl) texts

theorem optionText?_optionJson
    (text : Option String) :
    optionText? (optionJson text) = some text := by
  cases text <;> rfl

theorem textMap?_object
    (entries : List (String × String)) :
    textMap? (.object (entries.map fun m => (m.1, .text m.2))) =
      some entries :=
  mapM_map_eq_some (fun m : String × String => (m.1, Json.text m.2))
    (fun f => (text? f.2).map fun s => (f.1, s)) (fun _ => rfl) entries

theorem word?_int
    {n : Nat}
    (hWord : n < 4294967296) :
    word? (.int n) = some n := by
  have hFits : Decimal.isWord32 n = true := Decimal.isWord32_ofNat hWord
  simp [word?, hFits]

theorem order?_orderName
    (order : Order) :
    order? (.text (orderName order)) = some order := by
  cases order <;> decide +kernel

theorem policy?_policyName
    (policy : Policy) :
    policy? (.text (policyName policy)) = some policy := by
  cases policy <;> decide +kernel

end Config

end ResourcePack

------------------------------------------------------------
-- Configurations
------------------------------------------------------------

namespace ResourcePack

/- Logging settings with the defaults of some fields. -/
def LogConfig.without
    (removed : List String)
    (l : LogConfig) : LogConfig :=
  let d : LogConfig := {}
  { enabled := if "enabled" ∈ removed then d.enabled else l.enabled
    level := if "level" ∈ removed then d.level else l.level
    format := if "format" ∈ removed then d.format else l.format
    output := if "output" ∈ removed then d.output else l.output
    file := if "file" ∈ removed then d.file else l.file
    color := if "color" ∈ removed then d.color else l.color
    modules := if "modules" ∈ removed then d.modules else l.modules }

namespace Config

/- A configuration with the defaults of some fields. -/
def without
    (removed removedLog : List String)
    (c : Config) : Config :=
  let d : Config := {}
  { symbolPrefix := if "prefix" ∈ removed then d.symbolPrefix else c.symbolPrefix
    scope := if "namespace" ∈ removed then d.scope else c.scope
    guard := if "guard" ∈ removed then d.guard else c.guard
    resourceClass :=
      if "resource_class" ∈ removed then d.resourceClass else c.resourceClass
    includes := if "includes" ∈ removed then d.includes else c.includes
    search := if "search" ∈ removed then d.search else c.search
    align := if "align" ∈ removed then d.align else c.align
    order := if "order" ∈ removed then d.order else c.order
    policy := if "symbol_policy" ∈ removed then d.policy else c.policy
    log := if "logging" ∈ removed then d.log else c.log.without removedLog }

/- Fields with other logging settings. -/
def withLogging
    (logFields : List (String × Json))
    (fields : List (String × Json)) : List (String × Json) :=
  fields.map fun f => if f.1 = "logging" then (f.1, .object logFields) else f

/-
  An object that is made from that of a configuration by removing and
  adding fields, also in the object of its logging settings.
-/
def Abridged
    (removed removedLog : List String)
    (c : Config)
    (j : Json) : Prop :=
  ∃ logFields fields,
    Edited logFieldNames removedLog (logToJson c.log).fields logFields ∧
      Edited fieldNames removed (withLogging logFields (toJson c).fields)
        fields ∧
      j = .object fields

/-
  The defaults that the fields have by themselves are those of the
  record: logging settings without a field are the default ones.
-/
theorem logOfJson?_nil :
    logOfJson? (.object []) = some {} :=
  rfl

/- Logging settings are read back, with defaults for what is missing. -/
theorem logOfJson?_edited
    {removed : List String}
    {l : LogConfig}
    {fields : List (String × Json)}
    (hEdited : Edited logFieldNames removed (logToJson l).fields fields) :
    logOfJson? (.object fields) = some (l.without removed) := by
  have hNames : ((logToJson l).fields.map Prod.fst).Nodup := by
    change logFieldNames.Nodup
    decide
  have hField : ∀ {α : Type} {read : Json → Option α} {value default : α}
      {j : Json} {name : String}, name ∈ logFieldNames →
      Json.member? (logToJson l).fields name = some j →
      read j = some value →
      fieldOr? fields name read default =
        some (if name ∈ removed then default else value) :=
    fieldOr?_edited hEdited hNames
  unfold logOfJson?
  refine bind_of_eq_some rfl ?_
  refine bind_of_eq_some (hField (by decide) rfl rfl) ?_
  refine bind_of_eq_some (hField (by decide) rfl rfl) ?_
  refine bind_of_eq_some (hField (by decide) rfl rfl) ?_
  refine bind_of_eq_some (hField (by decide) rfl rfl) ?_
  refine bind_of_eq_some
    (hField (by decide) rfl (optionText?_optionJson l.file)) ?_
  refine bind_of_eq_some (hField (by decide) rfl rfl) ?_
  exact bind_of_eq_some
    (hField (by decide) rfl (textMap?_object l.modules)) rfl

/- A configuration is read back, with defaults for what is missing. -/
theorem ofJson?_abridged
    {removed removedLog : List String}
    {c : Config}
    {j : Json}
    (hAlign : c.align < 4294967296)
    (hAbridged : Abridged removed removedLog c j) :
    ofJson? j = some (c.without removed removedLog) := by
  rcases hAbridged with ⟨logFields, fields, hLog, hEdited, rfl⟩
  have hNames : ((withLogging logFields (toJson c).fields).map
      Prod.fst).Nodup := by
    change fieldNames.Nodup
    decide
  have hField : ∀ {α : Type} {read : Json → Option α} {value default : α}
      {j : Json} {name : String}, name ∈ fieldNames →
      Json.member? (withLogging logFields (toJson c).fields) name =
        some j →
      read j = some value →
      fieldOr? fields name read default =
        some (if name ∈ removed then default else value) :=
    fieldOr?_edited hEdited hNames
  unfold ofJson?
  refine bind_of_eq_some rfl ?_
  refine bind_of_eq_some (hField (by decide) rfl rfl) ?_
  refine bind_of_eq_some (hField (by decide) rfl rfl) ?_
  refine bind_of_eq_some (hField (by decide) rfl rfl) ?_
  refine bind_of_eq_some
    (hField (by decide) rfl (optionText?_optionJson c.resourceClass)) ?_
  refine bind_of_eq_some
    (hField (by decide) rfl (texts?_textsJson c.includes)) ?_
  refine bind_of_eq_some
    (hField (by decide) rfl (texts?_textsJson c.search)) ?_
  refine bind_of_eq_some (hField (by decide) rfl (word?_int hAlign)) ?_
  refine bind_of_eq_some
    (hField (by decide) rfl (order?_orderName c.order)) ?_
  refine bind_of_eq_some
    (hField (by decide) rfl (policy?_policyName c.policy)) ?_
  exact bind_of_eq_some
    (hField (by decide) rfl (logOfJson?_edited hLog)) rfl

theorem without_nil
    (c : Config) :
    c.without [] [] = c :=
  rfl

/- The object of a configuration is made from it by leaving out nothing. -/
theorem abridged_toJson
    (c : Config) :
    Abridged [] [] c (toJson c) := by
  refine ⟨(logToJson c.log).fields, (toJson c).fields, ?_, ?_, rfl⟩
  · apply edited_self
    rw [← List.forall_mem_map (f := Prod.fst)]
    exact fun _ hMem => hMem
  · apply edited_self
    rw [← List.forall_mem_map (f := Prod.fst)]
    exact fun _ hMem => hMem

/-
  Every configuration is read back from its object.  When fields are
  left out of it or of the object of its logging settings, unknown
  ones are added, and all are written in any order, the same
  configuration is read but for the fields that were left out, which
  are those of an empty one.
-/
theorem decodes_with_defaults
    (c : Config)
    (hAlign : c.align < 4294967296) :
    ofJson? (toJson c) = some c ∧
      ∀ removed removedLog j, Abridged removed removedLog c j →
        ofJson? j = some (c.without removed removedLog) := by
  refine ⟨?_, fun _ _ _ hAbridged => ofJson?_abridged hAlign hAbridged⟩
  rw [ofJson?_abridged hAlign (abridged_toJson c), without_nil]

/- A configuration in which no field has its default. -/
def unusualConfig : Config where
  symbolPrefix := "r_"
  scope := "\u00fc"
  guard := ""
  resourceClass := some "core::R"
  includes := ["a \"b\".h"]
  search := ["", "d\u00e9/x"]
  align := 4294967295
  order := .sorted
  policy := .escape
  log := ⟨false, "off", "json", "file", some "l", false, [("m", "info")]⟩

/-
  It is read back.  Without four of its fields and two of its logging
  settings, in the opposite order and with unknown fields in front,
  these have their defaults and the others are read as before.
-/
theorem decodes_with_defaults_unusual :
    unusualConfig.align < 4294967296 ∧
      ofJson? (toJson unusualConfig) = some unusualConfig ∧
      ∃ j, Abridged ["prefix", "search", "align", "order"]
          ["level", "modules"] unusualConfig j ∧
        ofJson? j = some { unusualConfig with
          symbolPrefix := "", search := [], align := 4, order := .insertion,
          log := ⟨false, "warn", "json", "file", some "l", false, []⟩ } := by
  have hAlign : unusualConfig.align < 4294967296 := by decide
  -- the fields that are left, and what is written instead of them
  let logKept := (logToJson unusualConfig.log).fields.filter
    fun f => f.1 ∉ ["level", "modules"]
  let logFields := ("Level", Json.null) :: logKept.reverse
  let kept := (withLogging logFields (toJson unusualConfig).fields).filter
    fun f => f.1 ∉ ["prefix", "search", "align", "order"]
  let fields := ("log", Json.int 1) :: kept.reverse
  have hLog : Edited logFieldNames ["level", "modules"]
      (logToJson unusualConfig.log).fields logFields := by
    have hKnown : logFields.filter (fun f => f.1 ∈ logFieldNames) =
        logKept.reverse :=
      rfl
    rw [Edited, hKnown]
    exact List.reverse_perm logKept
  have hFields : Edited fieldNames ["prefix", "search", "align", "order"]
      (withLogging logFields (toJson unusualConfig).fields) fields := by
    have hKnown : fields.filter (fun f => f.1 ∈ fieldNames) =
        kept.reverse :=
      rfl
    rw [Edited, hKnown]
    exact List.reverse_perm kept
  have hAbridged : Abridged ["prefix", "search", "align", "order"]
      ["level", "modules"] unusualConfig (.object fields) :=
    ⟨logFields, fields, hLog, hFields, rfl⟩
  rcases decodes_with_defaults unusualConfig hAlign with ⟨hSame, hRead⟩
  exact ⟨hAlign, hSame, _, hAbridged, hRead _ _ _ hAbridged⟩

end Config

end ResourcePack
