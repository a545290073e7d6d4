import Shading.Relocation

set_option autoImplicit false

namespace Shading.Chain

def platformPrefixes : List Text := ["java/".toList, "javax/".toList, "jdk/".toList]

def isPlatformName (name : Text) : Bool :=
  platformPrefixes.any fun start => Text.startsWith start name

-- Splits the opening of an object descriptor, `[[L` for instance, from the name that follows it. A
-- name without an opening, and an opening without a name, come back whole.
def splitWrapper (name : Text) : Text × Text :=
  let (brackets, rest) := name.span (· == '[')
  match rest with
  | 'L' :: first :: inner => (brackets ++ ['L'], first :: inner)
  | _ => ([], name)

/-- The new form of an internal class name or a path. A platform name has none; a name that no rule
applies to keeps its form. -/
def mapName? (chain : Chain) (name : Text) : Option Text :=
  if isPlatformName name then none
  else
    let (opening, inner) := splitWrapper name
    match chain.find? fun r => r.appliesToPath inner with
    | some r => some (opening ++ r.movePath inner)
    | none => some name

-- The form that the first rule that applies gives to the text of a string constant, as a dotted
-- class name if it is one and as a path otherwise.
def mapInner? (chain : Chain) (inner : Text) : Option Text :=
  chain.findSome? fun r =>
    if r.appliesToClass inner then some (r.moveClass inner)
    else if r.appliesToPath inner then some (r.movePath inner)
    else none

def mapString (chain : Chain) (value : Text) : Text :=
  let (opening, inner) := splitWrapper value
  match mapInner? chain inner with
  | some moved => opening ++ moved
  | none => value

def stem (path : Text) : Text := path.takeWhile (· != '.')

def mapStem? (chain : Chain) (path : Text) : Option Text := mapName? chain (stem path)

def mapPath (chain : Chain) (path : Text) : Text := (mapName? chain path).getD path

end Shading.Chain
