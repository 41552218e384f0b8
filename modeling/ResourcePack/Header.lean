import ResourcePack.Bundle

/-
  The header file.

  Key definitions include:
    * `ResourcePack.Order`
    * `ResourcePack.HeaderOptions`
    * `ResourcePack.HeaderOptions.validate`
    * `ResourcePack.Header.arrange`
    * `ResourcePack.Header.bodyLines`
    * `ResourcePack.Header.lines`
    * `ResourcePack.Header.render`

  Inside an include guard the header opens one namespace, declares
  every symbol in the block `externals`, and then one constant
  object per resource in the namespaces of its directories.  In
  every namespace the namespaces below it come first, then its
  objects, each in order of insertion or sorted by name.
-/

------------------------------------------------------------
-- Options
------------------------------------------------------------

namespace ResourcePack

/- The order of namespaces and of objects. -/
inductive Order where
  | insertion
  | sorted
  deriving DecidableEq

/- What a header needs to know besides the resources. -/
structure HeaderOptions where
  scope : String
  guard : String
  includes : List String
  resourceClass : String
  order : Order
  deriving DecidableEq

namespace HeaderOptions

/-
  The pieces of a text between the occurrences of `::`, from left
  to right.
-/
def scopePieces : List Char → List (List Char)
  | ':' :: ':' :: rest => [] :: scopePieces rest
  | c :: rest =>
    match scopePieces rest with
    | [] => [[c]]
    | piece :: others => (c :: piece) :: others
  | [] => [[]]

/- A class name without the `::` at its front. -/
def relativeClass : List Char → List Char
  | ':' :: ':' :: rest => rest
  | text => text

/- The identifiers that a class name is made of. -/
def classParts
    (text : String) : List String :=
  (scopePieces (relativeClass text.toList)).map String.ofList

/- Whether a file can be named in an `#include` line. -/
def isIncludable
    (file : String) : Bool :=
  file ≠ "" && file.toList.all fun c => c ≠ '"' && c ≠ '\n' && c ≠ '\r'

/- Refuse a text that is no identifier. -/
def requireIdentifier
    (text : String) : Except Error Unit :=
  match Identifier.sanitize .reject text with
  | .ok _ => .ok ()
  | .error e => .error e

/-
  Check the options: the outer namespace and the guard, then the
  class, then the files to include.
-/
def validate
    (o : HeaderOptions) : Except Error Unit := do
  requireIdentifier o.scope
  requireIdentifier o.guard
  if (classParts o.resourceClass).any fun part => (Identifier.fault? part).isSome then
    throw (.config (.badResourceClass o.resourceClass))
  match o.includes.find? fun file => !isIncludable file with
  | some file => throw (.config (.badInclude file))
  | none => pure ()

end HeaderOptions

end ResourcePack

------------------------------------------------------------
-- Lines
------------------------------------------------------------

namespace ResourcePack

namespace Header

/-
  A list in the order asked for: as it stands, or sorted by a name,
  where equal names keep their order.
-/
def arrange
    {α : Type}
    (order : Order)
    (name : α → String)
    (items : List α) : List α :=
  match order with
  | .insertion => items
  | .sorted => items.mergeSort fun a b => !decide (name b < name a)

/- Arranging keeps every item. -/
theorem arrange_perm
    {α : Type}
    (order : Order)
    (name : α → String)
    (items : List α) :
    (arrange order name items).Perm items := by
  cases order with
  | insertion => exact List.Perm.refl items
  | sorted => exact List.mergeSort_perm items _

/- The indentation of a namespace at a depth. -/
def indent
    (depth : Nat) : String :=
  Text.spaces (4 * depth)

/- The line that defines the object of a resource. -/
def objectLine
    (resourceClass : String)
    (depth : Nat)
    (r : Resource) : String :=
  indent depth ++ "constexpr const " ++ resourceClass ++ " " ++ r.ident ++ "(externals::" ++
    r.symbol ++ ", " ++ toString r.size ++ ");"

/- The lines of a namespace block around its contents. -/
def scopeLines
    (depth : Nat)
    (name : String)
    (contents : List String) : List String :=
  (indent depth ++ "namespace " ++ name ++ " \x7b") :: (Text.orBlank contents ++
    [indent depth ++ "\x7d"])

mutual

/- The lines of everything declared in a directory. -/
def bodyLines
    (o : HeaderOptions)
    (b : Bundle)
    (depth : Nat) : Directory → List String
  | ⟨name, children, indices⟩ =>
    ((arrange o.order Prod.fst (childBlocks o b depth children)).flatMap Prod.snd) ++
      (arrange o.order Resource.ident (b.attached ⟨name, children, indices⟩)).map
        (objectLine o.resourceClass depth)

/- The namespace blocks of a list of directories, with their names. -/
def childBlocks
    (o : HeaderOptions)
    (b : Bundle)
    (depth : Nat) : List Directory → List (String × List String)
  | [] => []
  | c :: rest =>
    (c.name, scopeLines depth c.name (bodyLines o b (depth + 1) c)) ::
      childBlocks o b depth rest

end

/- The line that declares the symbol of a resource. -/
def externLine
    (r : Resource) : String :=
  "\t\textern \"C\" const char " ++ r.symbol ++ "[];"

/- The lines of the header file. -/
def lines
    (o : HeaderOptions)
    (b : Bundle) : List String :=
  ["#ifndef " ++ o.guard, "#define " ++ o.guard, "", "#include <cstddef>"] ++
    Text.orBlank (o.includes.map fun file => "#include \"" ++ file ++ "\"") ++
    ["", "namespace " ++ o.scope ++ " \x7b", "    namespace " ++ externalsName ++ " \x7b"] ++
    Text.orBlank (b.resources.map externLine) ++
    ["    \x7d", ""] ++
    Text.orBlank (bodyLines o b 1 b.tree) ++
    ["\x7d", "", "#endif"]

/- The text of the header file. -/
def render
    (b : Bundle)
    (o : HeaderOptions) : String :=
  Text.unlines (lines o b)

end Header

end ResourcePack
