import Shading.Glob
import Shading.Regex.Parser

/- A pattern is either a regular expression for the whole path, written %regex[...], or it is given segment by
   segment and may be wrapped as %ant[...]. Then ** stands for any number of segments, * for any bytes within
   a segment and ? for one byte; every other character is itself. -/

set_option autoImplicit false

namespace Shading

def regexOpening : Text := "%regex[".toList

def globOpening : Text := "%ant[".toList

def patternClosing : Text := "]".toList

def unwrap? (opening pattern : Text) : Option Text :=
  (Text.dropStart? opening pattern).bind (Text.dropEnd? patternClosing)

namespace Glob

def anySegments : Text := ['*', '*']

def collapse : List Text → List Text
  | [] => []
  | segment :: rest =>
      let rest' := collapse rest
      if segment = anySegments && rest'.head? = some anySegments then rest' else segment :: rest'

-- The segment as a glob. Inside of a segment `**` is as good as `*`, and only stars and question
-- marks have a meaning.
def escapeSegment (afterStar : Bool) : Text → Text
  | [] => []
  | c :: rest =>
      if c = '*' && afterStar then escapeSegment true rest
      else if ['[', ']', '{', '}', '\\'].contains c then '\\' :: c :: escapeSegment false rest
      else c :: escapeSegment (c == '*') rest

def segmentGlob (segment : Text) : Text :=
  if segment = anySegments then segment else escapeSegment false segment

-- The globs for a pattern of these segments. One that ends in `**` after another segment also takes
-- the path without that end.
def globs (segments : List Text) : List Text :=
  let glob := Text.join ['/'] (segments.map segmentGlob)
  if segments.length > 1 && segments.getLast? = some anySegments then
    [glob, Text.join ['/'] (segments.dropLast.map segmentGlob)]
  else [glob]

end Glob

structure Glob where
  rooted : Bool
  compiled : List Regex
deriving DecidableEq, Repr

namespace Glob

def parse? (s : Text) : Option Glob :=
  ((globs (collapse (Text.segments s))).mapM compile?).map (⟨Text.startsWith ['/'] s, ·⟩)

def alternatives (g : Glob) : Nat := g.compiled.length

def isMatch (g : Glob) (path : Text) : Bool :=
  g.rooted == Text.startsWith ['/'] path &&
    g.compiled.any fun r => r.occursIn (octets (Text.join ['/'] (Text.segments path)))

end Glob

inductive PathMatcher where
  | glob (g : Glob)
  | regex (r : Regex)
deriving DecidableEq, Repr

structure PathPattern where
  source : Text
  matcher : PathMatcher
deriving Repr

structure IllFormedPattern where
  source : Text
deriving DecidableEq, Repr

namespace PathPattern

def anchored (body : Text) : Text := "^(?:".toList ++ body ++ ")$".toList

def parseWith (engine : Regex.Engine) (source : Text) : Except IllFormedPattern PathPattern :=
  match unwrap? regexOpening source with
  | some body =>
      match engine.compile? (anchored body) with
      | some r => .ok ⟨source, .regex r⟩
      | none => .error ⟨source⟩
  | none =>
      match Glob.parse? ((unwrap? globOpening source).getD source) with
      | some g => .ok ⟨source, .glob g⟩
      | none => .error ⟨source⟩

def parse (source : Text) : Except IllFormedPattern PathPattern := parseWith .standard source

def isMatch (p : PathPattern) (path : Text) : Bool :=
  match p.matcher with
  | .regex r => r.occursIn path
  | .glob g => g.isMatch path

instance : BEq PathPattern := ⟨fun a b => a.source == b.source⟩

-- Matches a path against a pattern that may be ill-formed, which then matches nothing.
def textMatchesWith (engine : Regex.Engine) (pattern path : Text) : Bool :=
  match parseWith engine pattern with
  | .ok p => p.isMatch path
  | .error _ => false

def textMatches (pattern path : Text) : Bool := textMatchesWith .standard pattern path

end PathPattern

end Shading
