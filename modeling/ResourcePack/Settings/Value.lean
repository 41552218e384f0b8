import ResourcePack.Double

/-
  Settings before their types are known.

  Key definitions include:
    * `ResourcePack.Settings.Value`
    * `ResourcePack.Settings.Value.field?`
    * `ResourcePack.Settings.Value.withField`

  A configuration file and the environment give settings as values
  of a few general kinds.  What a value means is decided by the
  field that asks for it.
-/

namespace ResourcePack

namespace Settings

/- A setting of any kind; `nil` is a gap in a list. -/
inductive Value where
  | nil
  | bool (b : Bool)
  | int (n : Int)
  | real (x : Double)
  | text (s : String)
  | list (items : List Value)
  | table (fields : List (String × Value))

namespace Value

instance : Inhabited Value :=
  ⟨nil⟩

/- The table without any fields. -/
def empty : Value :=
  table []

/- The fields of a table; other values have none. -/
def fields : Value → List (String × Value)
  | table fields => fields
  | _ => []

/- The field of a name. -/
def field?
    (v : Value)
    (name : String) : Option Value :=
  v.fields.lookup name

/- The items of a list; other values have none. -/
def items : Value → List Value
  | list items => items
  | _ => []

/- Fields with one of them set: in its place, or at the end. -/
def setField
    (name : String)
    (value : Value) : List (String × Value) → List (String × Value)
  | [] => [(name, value)]
  | f :: rest => if f.1 = name then (name, value) :: rest else f :: setField name value rest

/- A field that was set has its value. -/
theorem lookup_setField_self
    (name : String)
    (value : Value)
    (fields : List (String × Value)) :
    (setField name value fields).lookup name = some value := by
  induction fields with
  | nil => simp [setField]
  | cons f rest ih =>
    obtain ⟨key, v⟩ := f
    by_cases hName : key = name
    · simp [setField, hName]
    · have hSkip : (name == key) = false := by
        simpa using fun h => hName h.symm
      simp only [setField, hName, if_false]
      rw [List.lookup_cons, hSkip]
      exact ih

/- Setting a field changes no other field. -/
theorem lookup_setField_of_ne
    {name other : String}
    (value : Value)
    (fields : List (String × Value))
    (hNe : other ≠ name) :
    (setField name value fields).lookup other = fields.lookup other := by
  have hHead : (other == name) = false := by
    simpa using hNe
  induction fields with
  | nil =>
    rw [setField, List.lookup_cons, hHead]
  | cons f rest ih =>
    obtain ⟨key, v⟩ := f
    by_cases hName : key = name
    · subst hName
      simp only [setField, if_true]
      rw [List.lookup_cons, List.lookup_cons, hHead]
    · simp only [setField, hName, if_false]
      rw [List.lookup_cons, List.lookup_cons, ih]

/- A table with a field set; what is no table becomes one. -/
def withField
    (v : Value)
    (name : String)
    (value : Value) : Value :=
  table (setField name value v.fields)

end Value

end Settings

end ResourcePack
