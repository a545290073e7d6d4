import Shading.EntryPath
import Shading.Regex.Parser

set_option autoImplicit false

namespace Shading

namespace ClassPattern

def keywords : List Text := [
  "abstract", "assert", "boolean", "break", "byte", "case", "catch", "char", "class", "const",
  "continue", "default", "do", "double", "else", "enum", "extends", "false", "final", "finally",
  "float", "for", "if", "goto", "implements", "import", "instanceof", "int", "interface", "long",
  "native", "new", "null", "package", "private", "protected", "public", "return", "short",
  "static", "strictfp", "super", "switch", "synchronized", "this", "throw", "throws",
  "transient", "true", "try", "void", "volatile", "while"].map String.toList

def isIdentifierStart (c : Char) : Bool := Unicode.isAlphabetic c || c == '_' || c == '$'

def isIdentifierPart (c : Char) : Bool := Unicode.isAlphanumeric c || c == '_' || c == '$'

def isIdentifier (part : Text) : Bool :=
  match part with
  | [] => false
  | first :: rest =>
      !keywords.contains part && isIdentifierStart first && rest.all isIdentifierPart

def isQualifiedName (name : Text) : Bool := (Text.split '.' name).all isIdentifier

def hasThreeStars : Text → Bool
  | [] => false
  | c :: rest => Text.startsWith ['*', '*', '*'] (c :: rest) || hasThreeStars rest

-- Is the text a class-name pattern? With letters for its stars it has to be a qualified name.
def isPattern (pattern : Text) : Bool :=
  !hasThreeStars pattern && isQualifiedName (Text.exchange '*' 'X' pattern)

def regexParts : Text → Text
  | [] => []
  | '*' :: '*' :: rest => "(.*\\??)".toList ++ regexParts rest
  | '*' :: rest => "([^/]+)".toList ++ regexParts rest
  | '$' :: rest => "\\$".toList ++ regexParts rest
  | '.' :: rest => '/' :: regexParts rest
  | c :: rest => c :: regexParts rest

def regexText (pattern : Text) : Text := "\\A".toList ++ regexParts pattern ++ "\\z".toList

end ClassPattern

structure Exclusions where
  patterns : List (Text × Regex) := []

namespace Exclusions

def add? (exclusions : Exclusions) (pattern : Text) : Option Exclusions :=
  if ClassPattern.isPattern pattern then
    (Regex.parse? (ClassPattern.regexText pattern)).map fun r =>
      ⟨exclusions.patterns ++ [(pattern, r)]⟩
  else none

def ofPatterns (patterns : List Text) : Exclusions :=
  patterns.foldl (fun exclusions pattern => (exclusions.add? pattern).getD exclusions) {}

-- Is the entry at the path excluded? A release directory and the ending `.class` do not count.
def excludes (exclusions : Exclusions) (path : Text) : Bool :=
  let path := (splitVersion path).2
  let stem := (Text.dropEnd? classSuffix path).getD path
  exclusions.patterns.any fun (_, r) => r.occursIn stem

end Exclusions

end Shading
