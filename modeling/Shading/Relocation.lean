import Shading.PathPattern

set_option autoImplicit false

namespace Shading

def classSuffix : Text := ".class".toList

def hiddenPackage : Text := "hidden".toList

structure Relocation where
  pattern : Text
  pathPattern : Text
  target : Text
  pathTarget : Text
  includes : List PathPattern := []
  excludes : List PathPattern := []

abbrev Chain := List Relocation

namespace Relocation

-- A rule without filters. Without a target the names move below `hidden`.
def unfiltered (pattern : Text) (target? : Option Text) : Relocation where
  pattern := Text.dotted pattern
  pathPattern := Text.slashed pattern
  target :=
    match target? with
    | some target => Text.dotted target
    | none => hiddenPackage ++ '.' :: Text.dotted pattern
  pathTarget :=
    match target? with
    | some target => Text.slashed target
    | none => hiddenPackage ++ '/' :: Text.slashed pattern

def addPattern (patterns : List PathPattern) (source : Text) :
    Except IllFormedPattern (List PathPattern) :=
  if patterns.any fun p => p.source == source then .ok patterns
  else (PathPattern.parse source).map fun p => patterns ++ [p]

-- The patterns that a filter stands for: a regular expression for itself, any other text for its
-- slash form and, when that ends in `/*`, for the enclosing directory as well.
def filterSources (filter : Text) : List Text :=
  if Text.startsWith regexOpening filter then [filter]
  else
    let path := Text.slashed filter
    match Text.dropEnd? ['/', '*'] path with
    | some directory => [path, directory]
    | none => [path]

def addFilter (patterns : List PathPattern) (filter : Text) :
    Except IllFormedPattern (List PathPattern) :=
  (filterSources filter).foldlM addPattern patterns

def addInclude (r : Relocation) (filter : Text) : Except IllFormedPattern Relocation :=
  (addFilter r.includes filter).map fun patterns => { r with includes := patterns }

def addExclude (r : Relocation) (filter : Text) : Except IllFormedPattern Relocation :=
  (addFilter r.excludes filter).map fun patterns => { r with excludes := patterns }

def withFilters (pattern : Text) (target? : Option Text) (includes excludes : List Text) :
    Except IllFormedPattern Relocation := do
  excludes.foldlM addExclude (← includes.foldlM addInclude (unfiltered pattern target?))

def admits (r : Relocation) (path : Text) : Bool :=
  (r.includes.isEmpty || r.includes.any fun p => p.isMatch path) &&
    !r.excludes.any fun p => p.isMatch path

/-- Does the rule apply to a path? The path begins with the pattern, after one slash that it may
have in front, and passes the filters. An ending `.class` does not count; alone it is no path. -/
def appliesToPath (r : Relocation) (path : Text) : Bool :=
  if Text.utf8Size path < Text.utf8Size r.pathPattern then false
  else if path = classSuffix then false
  else
    let stem := (Text.dropEnd? classSuffix path).getD path
    let relative := (Text.dropStart? ['/'] stem).getD stem
    Text.startsWith r.pathPattern relative && r.admits stem

def appliesToClass (r : Relocation) (name : Text) : Bool :=
  !name.contains '/' && r.appliesToPath (Text.slashed name)

def movePath (r : Relocation) (path : Text) : Text :=
  Text.replaceFirst r.pathPattern r.pathTarget path

def moveClass (r : Relocation) (name : Text) : Text :=
  Text.replaceFirst r.pattern r.target name

end Relocation

end Shading
