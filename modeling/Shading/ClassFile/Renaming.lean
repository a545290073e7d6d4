import Std.Data.HashMap
import Shading.ClassFile.Use
import Shading.Relocation.Chain
import Shading.Signature

/- Every use of a UTF-8 constant has a role, and the role decides which text it wants in place of the old one.
   When all uses of a constant want the same new text, the constant is edited in place. When they disagree
   the constant is split: it keeps its text for the uses that keep it, and each new text is appended to the
   pool, once for the whole class. -/

set_option autoImplicit false

namespace Shading

def Role.rename (chain : Chain) (role : Role) (text : Text) : Except FormatError Text :=
  match role with
  | .fixed => .ok text
  | .className =>
      if Text.startsWith ['['] text then Signature.rename chain.mapName? text
      else .ok ((chain.mapName? text).getD text)
  | .descriptor => Signature.rename chain.mapName? text
  | .signature => Signature.rename chain.mapName? text
  | .stringValue => .ok (chain.mapString text)
  | .packageName =>
      .ok (((chain.mapName? (text ++ ['/'])).bind (Text.dropEnd? ['/'])).getD text)

namespace Use

-- The text that a use wants in place of the one that it has; `none` when that stays. A string
-- constant that does not decode stays, as it names no class.
def target (chain : Chain) (pool : Pool) (u : Use) : Except FormatError (Option Text) :=
  if u.role = .fixed then .ok none
  else do
    match ModifiedUtf8.decode? (← pool.payload u.index) with
    | none =>
        if u.role = .stringValue then return none
        else throw (.badConstant u.index.toNat .decodableUtf8)
    | some text =>
        let renamed ← u.role.rename chain text
        return if renamed = text then none else some renamed

end Use

structure Wish where
  keeps : Bool := false
  -- The new texts, each once, in the order of their first use.
  texts : List Text := []
deriving DecidableEq, Repr, Inhabited

namespace Wish

def add (w : Wish) (target : Option Text) : Wish :=
  match target with
  | none => { w with keeps := true }
  | some s => if s ∈ w.texts then w else { w with texts := w.texts ++ [s] }

def inPlace? (w : Wish) : Option Text :=
  match w.keeps, w.texts with
  | false, [s] => some s
  | _, _ => none

def isSplit (w : Wish) : Bool := !w.texts.isEmpty && w.inPlace?.isNone

end Wish

structure RenamingPlan where
  targets : List (Use × Option Text)
  wishes : Array Wish

namespace RenamingPlan

def collect (size : Nat) (targets : List (Use × Option Text)) : Array Wish :=
  targets.foldl (fun wishes (u, target) => wishes.modify u.index.toNat fun w => w.add target)
    (Array.replicate size {})

-- What the uses of a class want. The first use that has no answer decides the error.
def make (chain : Chain) (c : ClassFile) : Except FormatError RenamingPlan := do
  let targets ← c.uses.mapM fun u => (u.target chain c.pool).map fun target => (u, target)
  return ⟨targets, collect c.pool.size targets⟩

def isSplit (plan : RenamingPlan) (index : UInt16) : Bool :=
  (plan.wishes[index.toNat]?).any Wish.isSplit

def edit (plan : RenamingPlan) (pool : Pool) : Except FormatError Pool :=
  plan.wishes.toList.zipIdx.foldlM
    (fun pool (w, index) =>
      match w.inPlace? with
      | some s => pool.setText index.toUInt16 s
      | none => .ok pool)
    pool

abbrev Appended := Std.HashMap String UInt16

def appendOne (plan : RenamingPlan) (state : Pool × Appended) (entry : Use × Option Text) :
    Except FormatError (Pool × Appended) :=
  match entry.2 with
  | none => .ok state
  | some s =>
      if plan.isSplit entry.1.index && !state.2.contains (String.ofList s) then do
        let (index, pool) ← state.1.pushText s
        return (pool, state.2.insert (String.ofList s) index)
      else .ok state

def append (plan : RenamingPlan) (pool : Pool) : Except FormatError (Pool × Appended) :=
  plan.targets.foldlM plan.appendOne (pool, ∅)

-- The new index of a use: that of its new text if its constant is split. `pool` is the pool before
-- any edit.
def repoint (plan : RenamingPlan) (chain : Chain) (pool : Pool) (appended : Appended) :
    Repointing := fun index role =>
  if plan.isSplit index then
    match Use.target chain pool ⟨index, role⟩ with
    | .ok (some s) => (appended.get? (String.ofList s)).getD index
    | _ => index
  else index

end RenamingPlan

namespace ClassFile

/-- Renames the symbols of a class. -/
def rename (chain : Chain) (c : ClassFile) : Except FormatError ClassFile := do
  let plan ← RenamingPlan.make chain c
  let edited ← plan.edit c.pool
  let (pool, appended) ← plan.append edited
  return { c with pool }.mapUses (plan.repoint chain c.pool appended)

def relocate (chain : Chain) (data : Bytes) : Except FormatError Bytes := do
  (← (← parse data).rename chain).toBytes

end ClassFile

end Shading
