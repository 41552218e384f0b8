import Mathlib.Data.List.Forall2
import ResourcePack.Proofs.Json.Scalars

/-
  Values read back from their JSON text.

  Key definitions include:
    * `ResourcePack.Json.Printable`
    * `ResourcePack.Json.tokensOf`
    * `ResourcePack.Json.Spells`
    * `ResourcePack.Json.Reads`

  Main declarations:
    * `ResourcePack.Json.spells_bracketed`
    * `ResourcePack.Json.spells_prettyAt`
    * `ResourcePack.Json.reads_tokensOf`
    * `ResourcePack.Json.read_pretty`

  A value is made of tokens that do not depend on how it is laid out.
  That its text spells these tokens is a matter of brackets, commas
  and white space; that they are read as the value is a matter of the
  stack.  Both go by induction over the value, and neither knows of
  the other.
-/

------------------------------------------------------------
-- Tokens
------------------------------------------------------------

namespace ResourcePack

namespace Json

/- White space is passed over. -/
theorem tokens?_blank
    {c : Char}
    (hBlank : isBlank c = true)
    (rest : List Char) :
    tokens? (c :: rest) = tokens? rest := by
  rw [tokens?, if_pos hBlank]

theorem tokens?_spaces
    (n : Nat)
    (rest : List Char) :
    tokens? ((Text.spaces n).toList ++ rest) = tokens? rest := by
  unfold Text.spaces
  rw [String.toList_ofList]
  induction n with
  | zero => rfl
  | succ n ih =>
    rw [List.replicate_succ, List.cons_append, tokens?_blank rfl, ih]

theorem tokens?_mark
    {c : Char}
    {t : Token}
    (hMark : mark? c = some t)
    (rest : List Char) :
    tokens? (c :: rest) = (tokens? rest).map (t :: ·) := by
  have hOther : ∀ d : Char, mark? d = none → c ≠ d := by
    rintro d hNone rfl
    rw [hNone] at hMark
    cases hMark
  have hBlank : isBlank c = false := by
    simp [isBlank, hOther ' ' rfl, hOther '\t' rfl, hOther '\n' rfl,
      hOther '\r' rfl]
  rw [tokens?, if_neg (by rw [hBlank]; decide), if_neg (hOther '"' rfl), hMark]

theorem tokens?_quoted
    (s : String)
    (rest : List Char) :
    tokens? ((quoted s).toList ++ rest) =
      (tokens? rest).map (.text s :: ·) := by
  have hRead := string?_flatMap s.toList rest
  rw [quoted, String.toList_ofList, List.cons_append, List.append_assoc,
    tokens?, if_neg (by decide), if_pos rfl]
  split
  · next text left hString =>
    rw [List.singleton_append, hRead] at hString
    cases hString
    rw [String.ofList_toList]
  · next hString =>
    rw [List.singleton_append, hRead] at hString
    cases hString

/- What follows does not belong to a number or constant in front of it. -/
def Ends
    (rest : List Char) : Prop :=
  ∀ c ∈ rest.head?, isBare c = false

/- A number or a constant is one token, if it ends where it should. -/
theorem tokens?_bare
    {word : List Char}
    {j : Json}
    (hWord : ∀ c ∈ word, isBare c = true)
    (hValue : bare? word = some j)
    {rest : List Char}
    (hEnds : Ends rest) :
    tokens? (word ++ rest) = (tokens? rest).map (.bare j :: ·) := by
  cases word with
  | nil => cases hValue
  | cons c word =>
    rw [List.forall_mem_cons] at hWord
    have hOther : ∀ d : Char, isBare d = false → c ≠ d := by
      rintro d hNone rfl
      rw [hNone] at hWord
      cases hWord.1
    have hBlank : isBlank c = false := by
      simp [isBlank, hOther ' ' rfl, hOther '\t' rfl, hOther '\n' rfl,
        hOther '\r' rfl]
    have hMark : mark? c = none := by
      simp [mark?, hOther '[' rfl, hOther ']' rfl, hOther '\x7b' rfl,
        hOther '\x7d' rfl, hOther ',' rfl, hOther ':' rfl]
    have hSpan := span_run hWord.2 hEnds
    rw [List.cons_append, tokens?, if_neg (by rw [hBlank]; decide),
      if_neg (hOther '"' rfl), hMark, hSpan.1, hSpan.2, hValue]

end Json

end ResourcePack

------------------------------------------------------------
-- Layout
------------------------------------------------------------

namespace ResourcePack

namespace Json

mutual

/-
  Whether a value has a text.  A decimal has none without a place, as
  the format wants a digit behind the point.
-/
def Printable : Json → Prop
  | .fraction _ places => 0 < places
  | .list items => PrintableItems items
  | .object fields => PrintableFields fields
  | _ => True

def PrintableItems : List Json → Prop
  | [] => True
  | j :: rest => Printable j ∧ PrintableItems rest

def PrintableFields : List (String × Json) → Prop
  | [] => True
  | (_, j) :: rest => Printable j ∧ PrintableFields rest

end

mutual

/- The tokens that a value is made of, however it is laid out. -/
def tokensOf : Json → List Token
  | .text s => [.text s]
  | .list items =>
    .openList :: ([.comma].intercalate (itemTokens items) ++ [.closeList])
  | .object fields =>
    .openObject :: ([.comma].intercalate (fieldTokens fields) ++ [.closeObject])
  | j => [.bare j]

def itemTokens : List Json → List (List Token)
  | [] => []
  | j :: rest => tokensOf j :: itemTokens rest

def fieldTokens : List (String × Json) → List (List Token)
  | [] => []
  | (name, j) :: rest => (.text name :: .colon :: tokensOf j) :: fieldTokens rest

end

/- A text has these tokens, in front of whatever ends a number. -/
def Spells
    (text : String)
    (ts : List Token) : Prop :=
  ∀ rest, Ends rest →
    tokens? (text.toList ++ rest) = (tokens? rest).map (ts ++ ·)

/- A number or a constant spells itself. -/
theorem spells_bare
    {word : String}
    {j : Json}
    (hWord : ∀ c ∈ word.toList, isBare c = true)
    (hValue : bare? word.toList = some j) :
    Spells word [.bare j] :=
  fun _ hEnds => tokens?_bare hWord hValue hEnds

theorem spells_null :
    Spells "null" [.bare .null] :=
  spells_bare (List.all_eq_true.mp rfl) rfl

theorem spells_bool
    (b : Bool) :
    Spells (if b then "true" else "false") [.bare (.bool b)] := by
  cases b with
  | true => exact spells_bare (List.all_eq_true.mp rfl) rfl
  | false => exact spells_bare (List.all_eq_true.mp rfl) rfl

theorem isBare_of_isDigit
    {c : Char}
    (hDigit : c.isDigit = true) :
    isBare c = true := by
  simp [isBare, Char.isAlphanum, hDigit]

theorem isBare_of_mem_signText
    {n : Int}
    {c : Char}
    (hMem : c ∈ signText n) :
    isBare c = true := by
  unfold signText at hMem
  split at hMem
  · rw [List.mem_singleton.mp hMem]
    rfl
  · cases hMem

theorem spells_toString
    (n : Int) :
    Spells (toString n) [.bare (.int n)] := by
  apply spells_bare _ (bare?_toString n)
  intro c hMem
  rw [toList_toString_int, List.mem_append] at hMem
  rcases hMem with hSign | hDigit
  · exact isBare_of_mem_signText hSign
  · exact isBare_of_isDigit (isDigit_of_mem_toDigits hDigit)

theorem spells_fractionText
    (mantissa : Int)
    {places : Nat}
    (hPlaces : 0 < places) :
    Spells (fractionText mantissa places) [.bare (.fraction mantissa places)] := by
  apply spells_bare _ (bare?_fractionText mantissa hPlaces)
  intro c hMem
  rw [toList_fractionText, List.mem_append, List.mem_append,
    List.mem_cons] at hMem
  rcases hMem with hSign | hWhole | hPoint | hPlace
  · exact isBare_of_mem_signText hSign
  · exact isBare_of_isDigit
      (isDigit_of_mem_padded _ _ (List.mem_of_mem_take hWhole))
  · rw [hPoint]
    rfl
  · exact isBare_of_isDigit
      (isDigit_of_mem_padded _ _ (List.mem_of_mem_drop hPlace))

/- A string spells its text. -/
theorem spells_quoted
    (s : String) :
    Spells (quoted s) [.text s] :=
  fun rest _ => tokens?_quoted s rest

/- A field spells its name and its value. -/
theorem spells_field
    (name : String)
    {text : String}
    {ts : List Token}
    (hText : Spells text ts) :
    Spells (quoted name ++ ": " ++ text) (.text name :: .colon :: ts) := by
  intro rest hEnds
  have hColon : (": " : String).toList = [':', ' '] := rfl
  rw [String.toList_append, String.toList_append, List.append_assoc,
    List.append_assoc, tokens?_quoted, hColon, List.cons_append,
    List.singleton_append, tokens?_mark rfl, tokens?_blank rfl,
    hText rest hEnds]
  simp [Function.comp_def]

/- Neither a comma nor a line feed belongs to a number. -/
theorem ends_cons
    {c : Char}
    (hOther : isBare c = false)
    (rest : List Char) :
    Ends (c :: rest) := by
  intro _ hMem
  cases hMem
  exact hOther

/- Indented parts on lines of their own spell what the parts spell. -/
theorem spells_parts
    {parts : List String}
    {tss : List (List Token)}
    (hParts : List.Forall₂ Spells parts tss)
    (depth : Nat) :
    Spells (String.intercalate ",\n" (parts.map fun p => Text.spaces depth ++ p))
      ([.comma].intercalate tss) := by
  induction hParts with
  | nil =>
    intro rest _
    simp
  | @cons part ts parts tss hPart hParts ih =>
    intro rest hEnds
    cases hParts with
    | nil =>
      rw [List.map_singleton, String.intercalate_singleton,
        List.intercalate_singleton, String.toList_append, List.append_assoc,
        tokens?_spaces, hPart rest hEnds]
    | @cons part' ts' parts tss hPart' hParts =>
      have hComma : (",\n" : String).toList = [',', '\n'] := rfl
      have hRest := ih rest hEnds
      rw [List.map_cons] at hRest
      rw [List.map_cons, List.map_cons, String.intercalate_cons_cons,
        List.intercalate_cons_cons]
      simp only [String.toList_append, List.append_assoc, hComma,
        List.cons_append, List.nil_append] at hRest ⊢
      rw [tokens?_spaces, hPart _ (ends_cons rfl _), tokens?_mark rfl,
        tokens?_blank rfl, hRest]
      simp [Function.comp_def]

/- Bracketed parts spell the marks around what the parts spell. -/
theorem spells_bracketed
    {opening closing : String}
    {first last : Char}
    {start stop : Token}
    (hOpening : opening.toList = [first])
    (hClosing : closing.toList = [last])
    (hStart : mark? first = some start)
    (hStop : mark? last = some stop)
    {parts : List String}
    {tss : List (List Token)}
    (hParts : List.Forall₂ Spells parts tss)
    (depth : Nat) :
    Spells (bracketed opening closing depth parts)
      (start :: ([.comma].intercalate tss ++ [stop])) := by
  intro rest _
  cases hParts with
  | nil =>
    rw [bracketed, String.toList_append, hOpening, hClosing]
    simp only [List.cons_append, List.nil_append]
    rw [tokens?_mark hStart, tokens?_mark hStop]
    simp [Function.comp_def]
  | @cons part ts parts tss hPart hParts =>
    have hFeed : ("\n" : String).toList = ['\n'] := rfl
    have hLines := spells_parts (List.Forall₂.cons hPart hParts) (2 * (depth + 1))
    unfold bracketed
    simp only [String.toList_append, List.append_assoc, hOpening, hClosing,
      hFeed, List.cons_append, List.nil_append]
    rw [tokens?_mark hStart, tokens?_blank rfl, hLines _ (ends_cons rfl _),
      tokens?_blank rfl, tokens?_spaces, tokens?_mark hStop]
    simp [Function.comp_def]

mutual

/- The text of a value spells the tokens that it is made of. -/
theorem spells_prettyAt
    (depth : Nat) :
    (j : Json) → Printable j → Spells (prettyAt depth j) (tokensOf j)
  | .null, _ => spells_null
  | .bool b, _ => spells_bool b
  | .int n, _ => spells_toString n
  | .fraction mantissa _, hPlaces => spells_fractionText mantissa hPlaces
  | .text s, _ => spells_quoted s
  | .list items, hItems =>
    spells_bracketed rfl rfl rfl rfl (spells_prettyItems (depth + 1) items hItems)
      depth
  | .object fields, hFields =>
    spells_bracketed rfl rfl rfl rfl
      (spells_prettyFields (depth + 1) fields hFields) depth

theorem spells_prettyItems
    (depth : Nat) :
    (items : List Json) → PrintableItems items →
      List.Forall₂ Spells (prettyItems depth items) (itemTokens items)
  | [], _ => .nil
  | j :: rest, hItems =>
    .cons (spells_prettyAt depth j hItems.1)
      (spells_prettyItems depth rest hItems.2)

theorem spells_prettyFields
    (depth : Nat) :
    (fields : List (String × Json)) → PrintableFields fields →
      List.Forall₂ Spells (prettyFields depth fields) (fieldTokens fields)
  | [], _ => .nil
  | (name, j) :: rest, hFields =>
    .cons (spells_field name (spells_prettyAt depth j hFields.1))
      (spells_prettyFields depth rest hFields.2)

end

end Json

end ResourcePack

------------------------------------------------------------
-- Values
------------------------------------------------------------

namespace ResourcePack

namespace Json

/- Tokens that are read as a value wherever a value may stand. -/
def Reads
    (ts : List Token)
    (j : Json) : Prop :=
  ∀ frames, run ⟨.value, frames⟩ ts = some ⟨.behind j, frames⟩

/- The tokens of a field: its name, a colon and its value. -/
def ReadsField
    (ts : List Token)
    (field : String × Json) : Prop :=
  ∃ value, ts = .text field.1 :: .colon :: value ∧ Reads value field.2

variable {ts : List Token} {tss : List (List Token)} {j : Json}
variable {items : List Json} {fields : List (String × Json)}

/- What follows a value is read behind it. -/
theorem Reads.append
    (hReads : Reads ts j)
    (rest : List Token)
    (frames : List Frame) :
    run ⟨.value, frames⟩ (ts ++ rest) = run ⟨.behind j, frames⟩ rest := by
  have hFirst := hReads frames
  unfold run at hFirst ⊢
  rw [List.foldlM_append, hFirst]
  rfl

/- Behind a bracket a value is read as it is behind a comma. -/
theorem Reads.append_firstItem
    (hReads : Reads ts j)
    (rest : List Token)
    (frames : List Frame) :
    run ⟨.firstItem, frames⟩ (ts ++ rest) =
      run ⟨.value, .list [] :: frames⟩ (ts ++ rest) := by
  -- the two places differ in a closing bracket only, which begins no value
  have hSelf := hReads []
  cases ts with
  | nil => cases hSelf
  | cons t ts =>
    cases t with
    | closeList => cases hSelf
    | _ => rfl

/- The items of an open list are read up to its end. -/
theorem run_items
    (hItems : List.Forall₂ Reads tss items)
    (hNe : items ≠ [])
    (read : List Json)
    (frames : List Frame) :
    run ⟨.value, .list read :: frames⟩
        ([.comma].intercalate tss ++ [.closeList]) =
      some ⟨.behind (.list (read ++ items)), frames⟩ := by
  induction hItems generalizing read with
  | nil => exact absurd rfl hNe
  | @cons ts j tss items hFirst hRest ih =>
    cases hRest with
    | nil =>
      rw [List.intercalate_singleton, hFirst.append]
      rfl
    | cons hNext hRest =>
      -- the comma puts the item behind those that are read
      have hRun := ih (List.cons_ne_nil _ _) (read ++ [j])
      rw [List.append_assoc, List.singleton_append] at hRun
      rw [List.intercalate_cons_cons, List.append_assoc, List.append_assoc,
        hFirst.append]
      exact hRun

/- The fields of an open object are read up to its end. -/
theorem run_fields
    (hFields : List.Forall₂ ReadsField tss fields)
    (hNe : fields ≠ [])
    (read : List (String × Json))
    (frames : List Frame) :
    run ⟨.name read, frames⟩
        ([.comma].intercalate tss ++ [.closeObject]) =
      some ⟨.behind (.object (read ++ fields)), frames⟩ := by
  induction hFields generalizing read with
  | nil => exact absurd rfl hNe
  | @cons ts field tss fields hFirst hRest ih =>
    rcases hFirst with ⟨value, rfl, hValue⟩
    cases hRest with
    | nil =>
      rw [List.intercalate_singleton]
      exact hValue.append [.closeObject] (.object read field.1 :: frames)
    | cons hNext hRest =>
      have hRun := ih (List.cons_ne_nil _ _) (read ++ [field])
      rw [List.append_assoc, List.singleton_append] at hRun
      rw [List.intercalate_cons_cons, List.append_assoc, List.append_assoc]
      exact (hValue.append _ (.object read field.1 :: frames)).trans hRun

/- Tokens with commas between them begin with the first ones. -/
theorem exists_intercalate
    (ts : List Token)
    (tss : List (List Token)) :
    ∃ rest, [Token.comma].intercalate (ts :: tss) = ts ++ rest := by
  cases tss with
  | nil => exact ⟨[], by rw [List.intercalate_singleton, List.append_nil]⟩
  | cons ts' tss =>
    exact ⟨_, by rw [List.intercalate_cons_cons, List.append_assoc]⟩

/- A list is read from its opening bracket on. -/
theorem reads_list
    (hItems : List.Forall₂ Reads tss items) :
    Reads (.openList :: ([.comma].intercalate tss ++ [.closeList]))
      (.list items) := by
  intro frames
  have hRun := run_items hItems
  cases hItems with
  | nil => rfl
  | @cons ts j tss items hFirst hRest =>
    rcases exists_intercalate ts tss with ⟨rest, hTokens⟩
    have hRun' := hRun (List.cons_ne_nil _ _) [] frames
    rw [hTokens, List.append_assoc, ← hFirst.append_firstItem] at hRun'
    rw [hTokens, List.append_assoc]
    exact hRun'

/- An object is read from its opening brace on. -/
theorem reads_object
    (hFields : List.Forall₂ ReadsField tss fields) :
    Reads (.openObject :: ([.comma].intercalate tss ++ [.closeObject]))
      (.object fields) := by
  intro frames
  have hRun := run_fields hFields
  cases hFields with
  | nil => rfl
  | @cons ts field tss fields hFirst hRest =>
    rcases hFirst with ⟨value, rfl, -⟩
    rcases exists_intercalate (.text field.1 :: .colon :: value) tss with
      ⟨rest, hTokens⟩
    have hRun' := hRun (List.cons_ne_nil _ _) [] frames
    rw [hTokens] at hRun' ⊢
    exact hRun'

mutual

/- The tokens of a value are read as the value. -/
theorem reads_tokensOf :
    (j : Json) → Reads (tokensOf j) j
  | .null => fun _ => rfl
  | .bool _ => fun _ => rfl
  | .int _ => fun _ => rfl
  | .fraction _ _ => fun _ => rfl
  | .text _ => fun _ => rfl
  | .list items => reads_list (reads_itemTokens items)
  | .object fields => reads_object (reads_fieldTokens fields)

theorem reads_itemTokens :
    (items : List Json) → List.Forall₂ Reads (itemTokens items) items
  | [] => .nil
  | j :: rest => .cons (reads_tokensOf j) (reads_itemTokens rest)

theorem reads_fieldTokens :
    (fields : List (String × Json)) →
      List.Forall₂ ReadsField (fieldTokens fields) fields
  | [] => .nil
  | (_, j) :: rest =>
    .cons ⟨_, rfl, reads_tokensOf j⟩ (reads_fieldTokens rest)

end

/- The tokens of a value make up the value. -/
theorem value?_tokensOf
    (j : Json) :
    value? (tokensOf j) = some j := by
  rw [value?, reads_tokensOf j []]

/- Every value that has a text is read back from it. -/
theorem read_pretty
    (hPrintable : Printable j) :
    read (pretty j) = some j := by
  have hSpells := spells_prettyAt 0 j hPrintable [] nofun
  rw [List.append_nil] at hSpells
  rw [read, pretty, hSpells, tokens?]
  simp [value?_tokensOf]

/- Other ways of writing are read as well. -/
example :
    (read "\t[\"\\u00e9\\/\\ud83d\\ude00\" ,-2.50E+1,null ]\n").map compact =
      some "[\"é/😀\",-25.0,null]" := by
  decide +kernel

/- What is no JSON text is refused. -/
example :
    ["", "[1,]", "01", "1.", "+1", "1 2", "\"\\ud83d\"", "\"\n\""].all
      fun text => (read text).isNone := by
  decide +kernel

end Json

end ResourcePack
