import Shading.Relocation

set_option autoImplicit false

namespace Shading

structure EntryPath where
  segments : List Text
  isFile : Bool
deriving DecidableEq, Repr

namespace EntryPath

-- Reads a name; repeated and leading slashes do not count.
def parse (name : Text) : EntryPath := ⟨Text.segments name, !Text.endsWith ['/'] name⟩

def path (p : EntryPath) : Text := Text.join ['/'] p.segments

def entryName (p : EntryPath) : Text := if p.isFile then p.path else p.path ++ ['/']

-- The enclosing directories, the nearest one first.
def ancestors (p : EntryPath) : List EntryPath :=
  (List.range (p.segments.length - 1)).reverse.map fun n => ⟨p.segments.take (n + 1), false⟩

def lastName (p : EntryPath) : Text := p.segments.getLast?.getD []

def isClassFile (p : EntryPath) : Bool := p.isFile && Text.endsWith classSuffix p.lastName

end EntryPath

def versionsDirectory : Text := "META-INF/versions/".toList

-- Splits a path into its release directory, with the slash, and the rest. The directory is empty
-- for paths outside of release directories.
def splitVersion (path : Text) : Text × Text :=
  match (Text.dropStart? versionsDirectory path).bind (Text.cutAt? '/') with
  | some (number, rest) =>
      if number ≠ [] && number.all Char.isDigit then
        (versionsDirectory ++ number ++ ['/'], rest)
      else ([], path)
  | none => ([], path)

end Shading
