import Shading.PathPattern

set_option autoImplicit false

namespace Shading

structure PatternSet where
  includes : List PathPattern := []
  excludes : List PathPattern := []

namespace PatternSet

-- A glob with a slash at its end selects everything below the directory.
def normalize (pattern : Text) : Text :=
  if Text.endsWith ['/'] pattern && !Text.startsWith regexOpening pattern then
    pattern ++ Glob.anySegments
  else pattern

def addInclude (set : PatternSet) (pattern : Text) : Except IllFormedPattern PatternSet := do
  return { set with includes := set.includes ++ [← PathPattern.parse (normalize pattern)] }

def addExclude (set : PatternSet) (pattern : Text) : Except IllFormedPattern PatternSet := do
  return { set with excludes := set.excludes ++ [← PathPattern.parse (normalize pattern)] }

def wellFormed (patterns : List Text) : List PathPattern :=
  patterns.filterMap fun pattern => (PathPattern.parse (normalize pattern)).toOption

def ofPatterns (includes excludes : List Text) : PatternSet :=
  ⟨wellFormed includes, wellFormed excludes⟩

def extend (set : PatternSet) (includes excludes : List Text) :
    Except IllFormedPattern PatternSet := do
  excludes.foldlM addExclude (← includes.foldlM addInclude set)

def contains (set : PatternSet) (path : Text) : Bool :=
  (set.includes.isEmpty || set.includes.any fun p => p.isMatch path) &&
    !set.excludes.any fun p => p.isMatch path

end PatternSet

end Shading
