import ResourcePack.Text.Quoted

/-
  What can go wrong, as causes, and the one place where a cause
  becomes a message.

  Key definitions include:
    * `ResourcePack.IdentifierFault`
    * `ResourcePack.FileFault`
    * `ResourcePack.ConfigFault`
    * `ResourcePack.Declarer`
    * `ResourcePack.Error`
    * `ResourcePack.Error.message`
    * `ResourcePack.Error.chain`

  Every operation of the library that can fail returns an `Error`.
  A cause keeps the values it talks about, so that a statement
  about failures never has to look into a message.
-/

------------------------------------------------------------
-- Causes
------------------------------------------------------------

namespace ResourcePack

/- Why a text cannot be used as an identifier. -/
inductive IdentifierFault where
  | empty
  | notAllowed (c : Char)
  | leadingDigit
  | reserved
  | noFileName
  deriving DecidableEq

/- Why the file system refuses an operation. -/
inductive FileFault where
  | notFound
  | exists
  | notDirectory
  | isDirectory
  | noSpace
  | nameTooLong
  | tooManyLinks
  | nulInName
  | notText
  | other (text : String)
  deriving DecidableEq

/- Why a directive of a log filter cannot be read. -/
inductive DirectiveFault where
  | level
  | form
  deriving DecidableEq

/- Why a configuration cannot be loaded or used. -/
inductive ConfigFault where
  | fileMissing (path : String)
  | fileMalformed (path : String)
  | mistyped (key : String)
  | noSearchDirectory
  | badAlignment (align : Nat)
  | noResourceClass
  | badResourceClass (text : String)
  | badInclude (file : String)
  | outputCount
  | logFormat (text : String)
  | logOutput (text : String)
  | logDirective (fault : DirectiveFault)
  | noLogDirectory
  | logDirectory (fault : FileFault)
  | logFile (path : String) (fault : FileFault)
  deriving DecidableEq

/- Who holds a name in a scope: a resource, or a namespace. -/
inductive Declarer where
  | resource (name : String)
  | scope (ident : String)
  deriving DecidableEq

/- The failures of the library. -/
inductive Error where
  | resourceNotFound (name : String) (searched : List String)
  | file (path : String) (fault : FileFault)
  | invalidIdentifier (name : String) (fault : IdentifierFault)
  | duplicateSymbol (symbol first second : String)
  | duplicateDeclaration (scope : List String) (ident : String) (first : Declarer)
      (second : String)
  | config (fault : ConfigFault)
  deriving DecidableEq

end ResourcePack

------------------------------------------------------------
-- Messages
------------------------------------------------------------

namespace ResourcePack

def IdentifierFault.message : IdentifierFault → String
  | .empty => "identifier is empty"
  | .notAllowed c => "character " ++ Text.quotedChar c ++ " is not allowed"
  | .leadingDigit => "identifier starts with a digit"
  | .reserved => "identifier is a C++ keyword"
  | .noFileName => "resource name has no file name component"

/- The system's own words, with its number for the fault. -/
def FileFault.message : FileFault → String
  | .notFound => "No such file or directory (os error 2)"
  | .exists => "File exists (os error 17)"
  | .notDirectory => "Not a directory (os error 20)"
  | .isDirectory => "Is a directory (os error 21)"
  | .noSpace => "No space left on device (os error 28)"
  | .nameTooLong => "File name too long (os error 36)"
  | .tooManyLinks => "Too many levels of symbolic links (os error 40)"
  | .nulInName => "file name contained an unexpected NUL byte"
  | .notText => "stream did not contain valid UTF-8"
  | .other text => text

def DirectiveFault.message : DirectiveFault → String
  | .level =>
    "error parsing level filter: expected one of \"off\", \"error\", \"warn\", " ++
      "\"info\", \"debug\", \"trace\", or a number 0-5"
  | .form => "invalid filter directive"

def ConfigFault.message : ConfigFault → String
  | .fileMissing path => "Configuration file not found: " ++ path
  | .fileMalformed path => "not a configuration file: " ++ path
  | .mistyped key => "invalid value for " ++ key
  | .noSearchDirectory => "At least one search directory is required"
  | .badAlignment align => "Alignment must be a power of two, got " ++ toString align
  | .noResourceClass => "A resource class is required"
  | .badResourceClass text => "Invalid resource class: '" ++ text ++ "'"
  | .badInclude file => "Invalid include: " ++ Text.quotedText file
  | .outputCount => "Expected exactly two output paths: <ASM> <HEADER>"
  | .logFormat text => "Invalid log format: " ++ text ++ " (must be 'json' or 'text')"
  | .logOutput text =>
    "Invalid log output: " ++ text ++ " (must be 'stdout', 'stderr' or 'file')"
  | .logDirective fault => "Invalid log directive: " ++ fault.message
  | .noLogDirectory => "Could not determine platform directories for log file"
  | .logDirectory fault => "Failed to create log directory: " ++ fault.message
  | .logFile path fault =>
    "Failed to open log file " ++ Text.quotedText path ++ ": " ++ fault.message

def Declarer.label : Declarer → String
  | .resource name => name
  | .scope ident => "namespace " ++ ident

/- A scope as it is written in messages. -/
def scopeName : List String → String
  | [] => "<root>"
  | scope => String.intercalate "::" scope

def Error.message : Error → String
  | .resourceNotFound name searched =>
    "Resource '" ++ name ++ "' not found in search directories " ++ Text.quotedList searched
  | .file path fault => "I/O error on " ++ path ++ ": " ++ fault.message
  | .invalidIdentifier name fault =>
    "Invalid identifier '" ++ name ++ "': " ++ fault.message
  | .duplicateSymbol symbol first second =>
    "Symbol '" ++ symbol ++ "' is produced by both '" ++ first ++ "' and '" ++ second ++ "'"
  | .duplicateDeclaration scope ident first second =>
    "Identifier '" ++ ident ++ "' declared twice in namespace '" ++ scopeName scope ++
      "' (by '" ++ first.label ++ "' and '" ++ second ++ "')"
  | .config fault => "Configuration error: " ++ fault.message

/- The message of an error, and of its cause if it has one. -/
def Error.chain
    (e : Error) : String :=
  match e with
  | .file _ fault => e.message ++ ": " ++ fault.message
  | _ => e.message

end ResourcePack
