import Shading.Text

set_option autoImplicit false

namespace Shading.Path

-- The path without slashes and `.` at its end; `fuel` bounds their number.
def trimEnd (fuel : Nat) (path : Text) : Text :=
  match fuel with
  | 0 => path
  | fuel + 1 =>
      if path = ['/'] then path
      else
        match Text.dropEnd? ['/'] path with
        | some rest => trimEnd fuel rest
        | none =>
            match Text.dropEnd? ['/', '.'] path with
            | some [] => ['/']
            | some rest => trimEnd fuel rest
            | none => path

def body (path : Text) : Text := trimEnd path.length path

def parent? (path : Text) : Option Text :=
  let path := body path
  if path = [] ∨ path = ['/'] then none
  else
    match Text.cutAtLast? '/' path with
    | none => some []
    | some ([], _) => some ['/']
    | some (parent, _) => some (body parent)

def fileName? (path : Text) : Option Text :=
  let name := Text.lastSegment (body path)
  if name = [] ∨ name = ['.'] ∨ name = ['.', '.'] then none else some name

def child (directory name : Text) : Text :=
  if directory = [] ∨ Text.endsWith ['/'] directory then directory ++ name
  else directory ++ '/' :: name

end Shading.Path
