import Shading.PatternSet
import Shading.Relocation
import Shading.Text.Utf8

set_option autoImplicit false

namespace Shading

namespace ServiceLine

-- Cuts a comment off a line. A line that is a comment as a whole stays.
def strip (line : Text) : Text :=
  match Text.cutAt? '#' line with
  | some (c :: code, _) => Text.trim (c :: code)
  | _ => line

def isIdle (line : Text) : Bool :=
  let trimmed := Text.trim line
  trimmed.isEmpty || Text.startsWith ['#'] trimmed

-- The line with its provider moved, if the rule applies to it; a comment is put back after it.
def move (line : Text) (r : Relocation) : Text :=
  match Text.cutAt? '#' line with
  | some ([], _) => line
  | some (code, comment) =>
      let code := Text.trim code
      if r.appliesToClass code then
        r.moveClass code ++ "  # ".toList ++ Text.trim comment
      else line
  | none => if r.appliesToClass line then r.moveClass line else line

end ServiceLine

abbrev ServiceEntries := List (Text × List Text)

namespace ServiceEntries

def extend (path : Text) (lines : List Text) : ServiceEntries → ServiceEntries
  | [] => [(path, lines)]
  | (other, present) :: rest =>
      if path = other then (other, present ++ lines) :: rest
      else if Text.before path other then (path, lines) :: (other, present) :: rest
      else (other, present) :: extend path lines rest

end ServiceEntries

structure ServiceMerger where
  services : PatternSet
  stripComments : Bool
  entries : ServiceEntries := []

namespace ServiceMerger

def allServices : Text := "META-INF/services/**".toList

def extensionModule : Text :=
  "META-INF/services/org.codehaus.groovy.runtime.ExtensionModule".toList

def start (stripComments : Bool) : ServiceMerger where
  services := PatternSet.ofPatterns [allServices] [extensionModule]
  stripComments := stripComments

def readLines (stripComments : Bool) (content : Bytes) : List Text :=
  let lines := Text.lines (Text.Utf8.decodeLossy content)
  if stripComments then (lines.map ServiceLine.strip).filter fun line => !ServiceLine.isIdle line
  else lines

def movePath (path : Text) (r : Relocation) : Text :=
  if r.appliesToClass (Text.lastSegment path) then r.moveClass path else path

def target (chain : Chain) (path : Text) : Text := chain.foldl movePath path

def contribution (stripComments : Bool) (chain : Chain) (content : Bytes) : List Text :=
  (readLines stripComments content).map fun line => chain.foldl ServiceLine.move line

def collect (m : ServiceMerger) (chain : Chain) (path : Text) (content : Bytes) : ServiceMerger :=
  { m with
    entries := ServiceEntries.extend (target chain path)
      (contribution m.stripComments chain content) m.entries }

def output (m : ServiceMerger) : List (Text × Bytes) :=
  (m.entries.filter fun entry => !entry.2.isEmpty).map fun (path, lines) =>
    (path, Text.utf8 (Text.join ['\n'] lines))

end ServiceMerger

end Shading
