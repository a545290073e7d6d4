import Shading.Build

set_option autoImplicit false

namespace Shading

inductive Level where
  | error
  | info
  | debug
deriving DecidableEq, Repr

namespace Level

def rank : Level → Nat
  | error => 0
  | info => 1
  | debug => 2

def label : Level → Text
  | error => "ERROR".toList
  | info => " INFO".toList
  | debug => "DEBUG".toList

end Level

structure Remark where
  level : Level
  message : Text
deriving DecidableEq, Repr

namespace Remark

def line (r : Remark) : Text := r.level.label ++ ' ' :: r.message

def upTo (level : Level) (remarks : List Remark) : List Remark :=
  remarks.filter fun r => r.level.rank ≤ level.rank

def detail (message : String) (subject : Text) : Remark := ⟨.debug, message.toList ++ subject⟩

end Remark

namespace Assembly

open Remark (detail)

def sourceRemark (task : Task) (path : Text) : Remark :=
  ⟨if task.verbose then .info else .debug, "source file: ".toList ++ path⟩

def claimRemarks (a : Assembly) (path : Text) (otherwise : List Remark) : List Remark :=
  if a.files.contains path then [detail "skipping duplicate entry " path] else otherwise

def classRemarks (task : Task) (a : Assembly) (e : SourceEntry) : List Remark :=
  let target := task.chain.mapClassPath e.path
  a.claimRemarks target <|
    if task.verbose && target != e.path && (relocated task.chain e).isOk then
      [⟨.info, "relocated class ".toList ++ e.path ++ " -> ".toList ++ target⟩]
    else []

def takeRemark (chain : Chain) (path : Text) : Transformer → Remark
  | .filter _ => detail "dropping filtered resource " path
  | .services _ =>
      detail "merging service file " (path ++ " as ".toList ++ ServiceMerger.target chain path)

def transformRemarks (task : Task) (a : Assembly) (e : SourceEntry) : List Remark :=
  if e.content.isOk then
    (a.transformers.filter fun t => t.claims e.path).flatMap fun t =>
      [⟨.debug, t.name ++ " takes ".toList ++ e.path⟩,
        takeRemark task.chain (task.chain.mapPath e.path) t]
  else []

def visitRemarks (task : Task) (a : Assembly) (e : SourceEntry) : List Remark :=
  if e.isDirectory then []
  else sourceRemark task e.path ::
    if task.exclusions.excludes e.path then [detail "excluded " e.path]
    else if isClass task e.path then classRemarks task a e
    else if a.isClaimed e.path then transformRemarks task a e
    else a.claimRemarks (task.chain.mapPath e.path) []

def eventRemarks (task : Task) (a : Assembly) : Event → List Remark
  | .input path => [detail "reading input " path]
  | .archive name => [sourceRemark task name]
  | .entry e _ => visitRemarks task a e
  | .failure _ => []

-- What is said on the way through some steps, and the state after them. A step that fails is the
-- last one.
def narrate {α : Type} (say : Assembly → α → List Remark)
    (step : Assembly → α → Except Failure Assembly) (a : Assembly) :
    List α → List Remark × Option Assembly
  | [] => ([], some a)
  | x :: rest =>
      match step a x with
      | .error _ => (say a x, none)
      | .ok next =>
          let (more, last) := narrate say step next rest
          (say a x ++ more, last)

def flush (task : Task) (a : Assembly) (t : Transformer) : Except Failure Assembly :=
  t.output.foldlM (addCollected task) a

def flushRemarks (task : Task) (a : Assembly) (t : Transformer) : List Remark :=
  if t.hasOutput then
    detail "flushing " t.name ::
      (narrate (fun a (path, _) => a.claimRemarks path []) (addCollected task) a t.output).1
  else []

def remarks (task : Task) (events : List Event) : List Remark :=
  let opening := task.exclusions.patterns.map fun (pattern, _) =>
    detail "excluding classes matching " pattern
  let (body, last) := narrate (eventRemarks task) (step task) (start task) events
  let closing :=
    match last with
    | some a => (narrate (flushRemarks task) (flush task) a a.transformers).1
    | none => []
  opening ++ body ++ closing

end Assembly

def Settings.remarks (s : Settings) : List Remark :=
  let rejected := s.exclusions.filter fun pattern => (Exclusions.add? {} pattern).isNone
  rejected.map fun pattern =>
    ⟨.error, "exclusion classname pattern '".toList ++ pattern ++ "' is not valid".toList⟩

def Task.remarks (task : Task) (fs : FileSystem) : List Remark :=
  match task.prepare fs with
  | (.error _, _) => []
  | (.ok temporary, fs) =>
      let events := Event.ofInputs (fs.withTemporary temporary) task.inputs
      let closing : List Remark :=
        match task.buildAt packed temporary fs with
        | (.ok (), _) => [⟨.info, "wrote ".toList ++ task.destination⟩]
        | (.error _, _) => []
      Assembly.remarks task events ++ closing

end Shading
