import ResourcePack.Error

/-
  Identifiers of the generated sources.

  Key definitions include:
    * `ResourcePack.Policy`
    * `ResourcePack.Identifier.isReserved`
    * `ResourcePack.Identifier.fault?`
    * `ResourcePack.Identifier.escaped`
    * `ResourcePack.Identifier.sanitize`
    * `ResourcePack.Identifier.mangle`
    * `ResourcePack.Identifier.symbol`

  Symbols, namespaces and objects get their names from file names,
  which may hold anything.  An identifier is a letter or underscore
  followed by letters, digits and underscores, and no reserved word
  of C++.  Under the policy `reject` any other text is refused;
  under `escape` what is not allowed is spelled out, byte by byte.
-/

------------------------------------------------------------
-- Characters and Reserved Words
------------------------------------------------------------

namespace ResourcePack

/- What is done with a text that is no identifier. -/
inductive Policy where
  | reject
  | escape
  deriving DecidableEq

namespace Identifier

/- The characters of identifiers: ASCII letters, digits and `_`. -/
def isIdentChar
    (c : Char) : Bool :=
  c.isAlphanum || c == '_'

/- Keywords of C++ and its alternative operator tokens. -/
def reservedWords : List String := [
  "alignas", "alignof", "and", "and_eq", "asm", "auto", "bitand", "bitor", "bool", "break",
  "case", "catch", "char", "char8_t", "char16_t", "char32_t", "class", "compl", "concept",
  "const", "consteval", "constexpr", "constinit", "const_cast", "continue", "co_await",
  "co_return", "co_yield", "decltype", "default", "delete", "do", "double", "dynamic_cast",
  "else", "enum", "explicit", "export", "extern", "false", "float", "for", "friend", "goto",
  "if", "inline", "int", "long", "mutable", "namespace", "new", "noexcept", "not", "not_eq",
  "nullptr", "operator", "or", "or_eq", "private", "protected", "public", "register",
  "reinterpret_cast", "requires", "return", "short", "signed", "sizeof", "static",
  "static_assert", "static_cast", "struct", "switch", "template", "this", "thread_local",
  "throw", "true", "try", "typedef", "typeid", "typename", "union", "unsigned", "using",
  "virtual", "void", "volatile", "wchar_t", "while", "xor", "xor_eq"]

/- Whether a text is a reserved word. -/
def isReserved
    (text : String) : Bool :=
  reservedWords.contains text

/- Whether a text begins with an ASCII digit. -/
def startsWithDigit : List Char → Bool
  | [] => false
  | c :: _ => c.isDigit

end Identifier

end ResourcePack

------------------------------------------------------------
-- Checking and Escaping
------------------------------------------------------------

namespace ResourcePack

namespace Identifier

/-
  The reason why a text is no identifier, if there is one: the
  first character that is not allowed, then a leading digit, then
  a reserved word.
-/
def fault?
    (text : String) : Option IdentifierFault :=
  if text = "" then
    some .empty
  else
    match text.toList.find? fun c => !isIdentChar c with
    | some c => some (.notAllowed c)
    | none =>
      if startsWithDigit text.toList then some .leadingDigit
      else if isReserved text then some .reserved
      else none

/- A byte as an underscore and two hexadecimal digits. -/
def escapeByte
    (b : UInt8) : List Char :=
  ['_', Nat.digitChar (b.toNat / 16), Nat.digitChar (b.toNat % 16)]

/- A character as it stands, or its bytes in UTF-8, escaped. -/
def escapeChar
    (c : Char) : List Char :=
  if isIdentChar c then [c] else (String.utf8EncodeChar c).flatMap escapeByte

/- The identifier that stands for a text that is not empty. -/
def escaped
    (text : String) : String :=
  if isReserved text then
    "_" ++ text
  else
    String.ofList
      ((if startsWithDigit text.toList then ['_'] else []) ++ text.toList.flatMap escapeChar)

/- A text as an identifier, under the given policy. -/
def sanitize
    (policy : Policy)
    (text : String) : Except Error String :=
  match policy with
  | .reject =>
    match fault? text with
    | some fault => .error (.invalidIdentifier text fault)
    | none => .ok text
  | .escape =>
    if text = "" then
      .error (.invalidIdentifier text .empty)
    else
      .ok (escaped text)

end Identifier

end ResourcePack

------------------------------------------------------------
-- Names of Resources
------------------------------------------------------------

namespace ResourcePack

namespace Identifier

/-
  The raw symbol of a resource name: the prefix, then the name with
  `/` and `.` replaced by `_`.
-/
def mangle
    (symbolPrefix name : String) : String :=
  symbolPrefix ++ String.ofList (name.toList.map fun c => if c = '/' || c = '.' then '_' else c)

/- The link symbol of a resource name. -/
def symbol
    (symbolPrefix name : String)
    (policy : Policy) : Except Error String :=
  sanitize policy (mangle symbolPrefix name)

/- The object name of a file name: dots become underscores. -/
def ofFileName
    (fileName : String)
    (policy : Policy) : Except Error String :=
  sanitize policy (String.ofList (fileName.toList.map fun c => if c = '.' then '_' else c))

/- The namespace name of a directory. -/
def ofDirectory
    (component : String)
    (policy : Policy) : Except Error String :=
  sanitize policy component

end Identifier

end ResourcePack
