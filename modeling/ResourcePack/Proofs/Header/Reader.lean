import ResourcePack.Proofs.Header.Items
import ResourcePack.Proofs.Header.Options

/-
  Reading a header back.

  Key definitions include:
    * `ResourcePack.Header.itemOf?`
    * `ResourcePack.Header.track`
    * `ResourcePack.Header.read`
    * `ResourcePack.Header.Item.Readable`
    * `ResourcePack.Header.Follows`

  Main declarations:
    * `ResourcePack.Header.itemOf?_line`
    * `ResourcePack.Header.track_append`

  A header is read line by line.  What a line says depends on the
  namespaces that are open where it stands, so the reader keeps
  the path of the innermost one.  It knows nothing of a bundle or
  of options.
-/

------------------------------------------------------------
-- One Line
------------------------------------------------------------

namespace ResourcePack

namespace Header

open Text

/- The symbol that a line declares. -/
def externalOf?
    (line : List Char) : Option String :=
  between? "extern \"C\" const char " "[];" line

/- The namespace that a line opens. -/
def namespaceOf?
    (line : List Char) : Option String :=
  between? "namespace " " \x7b" line

/- The object that a line defines in a namespace. -/
def objectOf?
    (path : List String)
    (line : List Char) : Option Entry := do
  let afterConst ← "constexpr const ".toList.isPrefixOf? line
  let (resourceClass, afterClass) ← cut? ' ' afterConst
  let (ident, arguments) ← cut? '(' afterClass
  let afterScope ← "externals::".toList.isPrefixOf? arguments
  let (symbol, afterSymbol) ← cut? ',' afterScope
  let sized ← " ".toList.isPrefixOf? afterSymbol
  let (digits, ending) ← cut? ')' sized
  let size ← Decimal.digits? digits
  if ending = [';'] then
    return ⟨path, String.ofList resourceClass, String.ofList ident,
      String.ofList symbol, size⟩
  else
    none

/- Whether a line closes a block. -/
def isClosing
    (line : String) : Bool :=
  unindented line = ['\x7d']

/- What a line says inside the namespaces of a path. -/
def itemOf?
    (path : List String)
    (line : String) : Option Item :=
  if isClosing line then
    if path = [] then
      none
    else
      some (.closed (indentOf line) path)
  else
    match namespaceOf? (unindented line) with
    | some name => some (.opened (indentOf line) (path ++ [name]))
    | none =>
      match objectOf? path (unindented line) with
      | some e => some (.object (indentOf line) e)
      | none => (externalOf? (unindented line)).map (.external path)

/- The innermost namespace after a line in a namespace. -/
def Item.after
    (path : List String) : Item → List String
  | .opened _ path' => path'
  | .closed _ _ => path.dropLast
  | .external _ _ => path
  | .object _ _ => path

end Header

end ResourcePack

------------------------------------------------------------
-- All Lines
------------------------------------------------------------

namespace ResourcePack

namespace Header

open Text

/- What a header says. -/
structure Reading where
  guard : String
  includes : List String
  scope : String
  items : List Item
  deriving DecidableEq

/-
  What lines say up to the end of the outer namespace, with the
  lines behind it.  Blank lines say nothing.
-/
def track
    (path : List String) : List String → Option (List Item × List String)
  | [] => none
  | line :: rest =>
    if notBlank line then
      if path = [] ∧ line = "\x7d" then
        some ([], rest)
      else
        (itemOf? path line).bind fun item =>
          (track (item.after path) rest).map fun found =>
            (item :: found.1, found.2)
    else
      track path rest

/- What is said after the files to include. -/
def readScope : List String → Option (String × List Item)
  | [] => none
  | first :: rest => do
    let scope ← namespaceOf? first.toList
    let (items, ending) ← track [] rest
    if ending = ["", "#endif"] then
      return (scope, items)
    else
      none

/-
  What a header says.  The files to include stand behind the first
  four lines, up to a blank one.
-/
def read
    (text : String) : Option Reading :=
  match linesOf text with
  | first :: second :: third :: fourth :: rest => do
    let guard ← between? "#ifndef " "" first.toList
    let defined ← between? "#define " "" second.toList
    let includes ← (rest.takeWhile notBlank).mapM fun line =>
      between? "#include \"" "\"" line.toList
    let (scope, items) ←
      readScope ((rest.dropWhile notBlank).dropWhile fun line => !notBlank line)
    if defined = guard ∧ third = "" ∧ fourth = "#include <cstddef>" then
      return ⟨guard, includes, scope, items⟩
    else
      none
  | _ => none

end Header

end ResourcePack

------------------------------------------------------------
-- Lines that are Read Back
------------------------------------------------------------

namespace ResourcePack

namespace Header

open Text Identifier

/- An item that can stand in a namespace and be read from its line. -/
def Item.Readable
    (path : List String) : Item → Prop
  | .opened _ path' => ∃ name, IsWord name ∧ path' = path ++ [name]
  | .closed _ path' => path' = path ∧ path ≠ []
  | .external path' symbol => path' = path ∧ IsWord symbol
  | .object _ e =>
    e.path = path ∧ HeaderOptions.IsClassName e.resourceClass ∧
      IsWord e.ident ∧ IsWord e.symbol

theorem unindented_opened
    (n : Nat)
    (path : List String)
    (name : String) :
    unindented (Item.opened n (path ++ [name])).line =
      ("namespace " ++ (name ++ " \x7b")).toList := by
  have hText : ("namespace " ++ (name ++ " \x7b")).toList =
      "namespace ".toList ++ (name ++ " \x7b").toList :=
    String.toList_append
  rw [Item.line_opened, List.getLast?_concat, Option.getD_some,
    String.append_assoc, String.append_assoc]
  exact unindented_spaces n (hText.trans rfl) rfl

theorem indentOf_opened
    (n : Nat)
    (path : List String)
    (name : String) :
    indentOf (Item.opened n (path ++ [name])).line = n := by
  have hText : ("namespace " ++ (name ++ " \x7b")).toList =
      "namespace ".toList ++ (name ++ " \x7b").toList :=
    String.toList_append
  rw [Item.line_opened, List.getLast?_concat, Option.getD_some,
    String.append_assoc, String.append_assoc]
  exact indentOf_spaces n (hText.trans rfl) rfl

theorem unindented_closed
    (n : Nat)
    (path : List String) :
    unindented (Item.closed n path).line = ['\x7d'] := by
  rw [Item.line_closed]
  exact unindented_spaces n rfl rfl

theorem indentOf_closed
    (n : Nat)
    (path : List String) :
    indentOf (Item.closed n path).line = n := by
  rw [Item.line_closed]
  exact indentOf_spaces n rfl rfl

theorem unindented_external
    (path : List String)
    (symbol : String) :
    unindented (Item.external path symbol).line =
      ("extern \"C\" const char " ++ (symbol ++ "[];")).toList := by
  rw [Item.line_external, String.append_assoc, unindented,
    String.toList_append]
  conv_rhs => rw [String.toList_append]
  rfl

/- The line that defines an object, mark by mark. -/
def objectText
    (e : Entry) : List Char :=
  "constexpr const ".toList ++ (e.resourceClass.toList ++ ' ' ::
    (e.ident.toList ++ '(' :: ("externals::".toList ++
      (e.symbol.toList ++ ',' :: (" ".toList ++
        ((toString e.size).toList ++ ')' :: [';']))))))

theorem line_object_eq
    (n : Nat)
    (e : Entry) :
    (Item.object n e).line =
      spaces n ++ String.ofList (objectText e) := by
  have hText : ("constexpr const " ++ (e.resourceClass ++ (" " ++
      (e.ident ++ ("(externals::" ++ (e.symbol ++ (", " ++
        (toString e.size ++ ");")))))))).toList = objectText e := by
    simp only [String.toList_append]
    rfl
  rw [Item.line_object, ← hText, String.ofList_toList]
  simp only [String.append_assoc]

theorem unindented_object
    (n : Nat)
    (e : Entry) :
    unindented (Item.object n e).line = objectText e := by
  have hText : (String.ofList (objectText e)).toList = objectText e :=
    String.toList_ofList
  rw [line_object_eq]
  exact (unindented_spaces n (hText.trans rfl) rfl).trans hText

theorem indentOf_object
    (n : Nat)
    (e : Entry) :
    indentOf (Item.object n e).line = n := by
  have hText : (String.ofList (objectText e)).toList = objectText e :=
    String.toList_ofList
  rw [line_object_eq]
  exact indentOf_spaces n (hText.trans rfl) rfl

/- A character that class names do not have is not in one. -/
theorem not_mem_of_isClassName
    {text : String}
    (hClass : HeaderOptions.IsClassName text)
    {c : Char}
    (hOther : isIdentChar c = false)
    (hColon : c ≠ ':') :
    c ∉ text.toList := by
  intro hMem
  rcases hClass c hMem with hIdent | hEq
  · rw [hOther] at hIdent
    exact Bool.false_ne_true hIdent
  · exact hColon hEq

/- An object is read back from its text. -/
theorem objectOf?_objectText
    {path : List String}
    {n : Nat}
    {e : Entry}
    (hReadable : (Item.object n e).Readable path) :
    objectOf? path (objectText e) = some e := by
  rcases hReadable with ⟨hPath, hClass, hIdent, hSymbol⟩
  have hClassFree : ' ' ∉ e.resourceClass.toList :=
    not_mem_of_isClassName hClass rfl (by decide)
  have hIdentFree : '(' ∉ e.ident.toList := hIdent.not_mem rfl
  have hSymbolFree : ',' ∉ e.symbol.toList := hSymbol.not_mem rfl
  have hSizeFree : ')' ∉ (toString e.size).toList := by
    intro hMem
    have hDigit := Decimal.isDigit_of_mem_toString hMem
    exact Bool.false_ne_true hDigit
  unfold objectOf? objectText
  simp only [Option.bind_eq_bind, isPrefixOf?_append, Option.bind_some,
    cut?_append hClassFree, cut?_append hIdentFree,
    cut?_append hSymbolFree, cut?_append hSizeFree,
    Decimal.digits?_toString, if_true, String.ofList_toList, ← hPath]
  rfl

/- An item is read back from its line. -/
theorem itemOf?_line
    {path : List String}
    {item : Item}
    (hReadable : item.Readable path) :
    itemOf? path item.line = some item := by
  unfold itemOf? isClosing
  cases item with
  | opened n path' =>
    rcases hReadable with ⟨name, -, hPath⟩
    have hOpening : ("namespace " ++ (name ++ " \x7b")).toList ≠
        ['\x7d'] := by
      rw [String.toList_append]
      intro hEq
      cases hEq
    rw [hPath, unindented_opened, decide_eq_false hOpening,
      if_neg Bool.false_ne_true, namespaceOf?, between?_append,
      indentOf_opened]
  | closed n path' =>
    rcases hReadable with ⟨hPath, hNe⟩
    rw [unindented_closed, decide_eq_true rfl, if_pos rfl, if_neg hNe,
      indentOf_closed, hPath]
  | external path' symbol =>
    rcases hReadable with ⟨hPath, -⟩
    have hText : ("extern \"C\" const char " ++ (symbol ++ "[];")).toList =
        'e' :: ("xtern \"C\" const char ".toList ++
          (symbol ++ "[];").toList) :=
      String.toList_append
    have hOther : ("extern \"C\" const char " ++ (symbol ++ "[];")).toList ≠
        ['\x7d'] := by
      rw [hText]
      intro hEq
      cases hEq
    have hNamespace : namespaceOf? ("extern \"C\" const char " ++
        (symbol ++ "[];")).toList = none := by
      rw [hText]
      exact between?_eq_none rfl (by decide)
    have hObject : objectOf? path ("extern \"C\" const char " ++
        (symbol ++ "[];")).toList = none := by
      rw [hText]
      rfl
    rw [unindented_external, decide_eq_false hOther,
      if_neg Bool.false_ne_true, hNamespace, hObject, externalOf?,
      between?_append, hPath]
    rfl
  | object n e =>
    have hOther : objectText e ≠ ['\x7d'] := by
      intro hEq
      cases hEq
    have hNamespace : namespaceOf? (objectText e) = none :=
      between?_eq_none rfl (by decide)
    rw [unindented_object, decide_eq_false hOther,
      if_neg Bool.false_ne_true, hNamespace, objectOf?_objectText hReadable,
      indentOf_object]

end Header

end ResourcePack

------------------------------------------------------------
-- Runs of Lines
------------------------------------------------------------

namespace ResourcePack

namespace Header

open Text

/-
  Items that can stand one after the other, from one innermost
  namespace to another.
-/
inductive Follows : List String → List Item → List String → Prop where
  | nil
      (path : List String) :
      Follows path [] path
  | cons
      {path path' : List String}
      {item : Item}
      {items : List Item}
      (hItem : item.Readable path)
      (hItems : Follows (item.after path) items path') :
      Follows path (item :: items) path'

namespace Follows

/- Items that follow each other can each be read somewhere. -/
theorem readable
    {path path' : List String}
    {items : List Item}
    (hFollows : Follows path items path') :
    ∀ item ∈ items, ∃ home, item.Readable home := by
  induction hFollows with
  | nil => simp
  | @cons home _ _ _ hItem _ ih =>
    rw [List.forall_mem_cons]
    exact ⟨⟨home, hItem⟩, ih⟩

/- Items that stay in a namespace. -/
theorem of_after_eq
    {path : List String}
    {items : List Item}
    (hItems : ∀ item ∈ items,
      item.Readable path ∧ item.after path = path) :
    Follows path items path := by
  induction items with
  | nil => exact nil path
  | cons item items ih =>
    rw [List.forall_mem_cons] at hItems
    refine cons hItems.1.1 ?_
    rw [hItems.1.2]
    exact ih hItems.2

theorem append
    {first second third : List String}
    {items items' : List Item}
    (hItems : Follows first items second)
    (hItems' : Follows second items' third) :
    Follows first (items ++ items') third := by
  induction hItems with
  | nil path => exact hItems'
  | cons hItem hRest ih => exact cons hItem (ih hItems')

/- Lists of items that each lead back to where they begin. -/
theorem flatMap
    {α : Type}
    {path : List String}
    {f : α → List Item}
    {xs : List α}
    (hItems : ∀ x ∈ xs, Follows path (f x) path) :
    Follows path (xs.flatMap f) path := by
  induction xs with
  | nil => exact nil path
  | cons x xs ih =>
    rw [List.forall_mem_cons] at hItems
    rw [List.flatMap_cons]
    exact hItems.1.append (ih hItems.2)

/- A namespace block leads back to where it begins. -/
theorem blockItems
    {path : List String}
    {name : String}
    {contents : List Item}
    (hName : Identifier.IsWord name)
    (hContents : Follows (path ++ [name]) contents (path ++ [name])) :
    Follows path (Header.blockItems path name contents) path := by
  have hOpened : (openedItem path name).Readable path :=
    ⟨name, hName, rfl⟩
  have hClosed : (closedItem path name).Readable (path ++ [name]) :=
    ⟨rfl, List.append_ne_nil_of_right_ne_nil path (List.cons_ne_nil _ _)⟩
  have hAfter : (closedItem path name).after (path ++ [name]) = path :=
    List.dropLast_concat
  refine cons hOpened ?_
  refine hContents.append (cons hClosed ?_)
  rw [hAfter]
  exact nil path

end Follows

/- A line that is read as an item does not end the outer namespace. -/
theorem not_ending_of_itemOf?
    {path : List String}
    {line : String}
    {item : Item}
    (hItem : itemOf? path line = some item) :
    ¬(path = [] ∧ line = "\x7d") := by
  intro hEnding
  have hClosing : isClosing line = true := by
    rw [hEnding.2]
    decide
  rw [itemOf?, if_pos hClosing, if_pos hEnding.1] at hItem
  cases hItem

/-
  The lines of items that follow each other are read as these
  items, whatever blank lines there are; then the reading goes on
  in the namespace that the items lead to.
-/
theorem track_append
    {path path' : List String}
    {items : List Item}
    {lines : List String}
    (hFollows : Follows path items path')
    (hLines : lines.filter notBlank = items.map Item.line)
    (rest : List String) :
    track path (lines ++ rest) =
      (track path' rest).map fun found => (items ++ found.1, found.2) := by
  induction lines generalizing path items with
  | nil =>
    have hNil : items = [] := List.map_eq_nil_iff.mp hLines.symm
    subst hNil
    cases hFollows
    exact Option.map_id'.symm
  | cons line lines ih =>
    rw [List.cons_append, track]
    by_cases hBlank : notBlank line = true
    · rw [List.filter_cons_of_pos hBlank] at hLines
      cases hFollows with
      | nil => cases hLines
      | @cons _ _ item items hItem hItems =>
        rw [List.map_cons, List.cons.injEq] at hLines
        have hRead : itemOf? path line = some item := by
          rw [hLines.1]
          exact itemOf?_line hItem
        rw [if_pos hBlank, if_neg (not_ending_of_itemOf? hRead), hRead,
          Option.bind_some, ih hItems hLines.2, Option.map_map]
        rfl
    · rw [List.filter_cons_of_neg hBlank] at hLines
      rw [if_neg hBlank]
      exact ih hFollows hLines

end Header

end ResourcePack
