import Shading.Toml.Value

/- A name is defined once. A table that came into being only as the parent of another one can still get a
   section; one that a dotted key made can still grow by dotted keys of the same section, and in no other
   way but by sections of tables inside it. -/

set_option autoImplicit false

namespace Shading.Toml

inductive Origin where
  -- By a section of its own.
  | heading
  -- By the section of a table inside it.
  | implied
  -- By a dotted key.
  | dotted
deriving DecidableEq, Repr

inductive Node where
  | value (v : Value)
  | table (origin : Origin) (entries : List (Text × Node))
  | tables (elements : List (List (Text × Node)))

abbrev Entries := List (Text × Node)

structure Pair where
  path : List Text
  name : Text
  value : Value

inductive Heading where
  | table (path : List Text) (name : Text)
  | element (path : List Text) (name : Text)

structure Section where
  heading : Heading
  pairs : List Pair

mutual
def Node.toValue : Node → Value
  | .value v => v
  | .table _ entries => .table (Node.entryValues entries)
  | .tables elements => .array (Node.elementValues elements)

def Node.entryValues : List (Text × Node) → List (Text × Value)
  | [] => []
  | (name, node) :: rest => (name, node.toValue) :: Node.entryValues rest

def Node.elementValues : List (List (Text × Node)) → List Value
  | [] => []
  | entries :: rest => .table (Node.entryValues entries) :: Node.elementValues rest
end

namespace Entries

def put (name : Text) (node : Node) : Entries → Entries
  | [] => [(name, node)]
  | (other, old) :: rest =>
      if other = name then (name, node) :: rest else (other, old) :: put name node rest

-- Changes the table at the end of a path. Tables that are missing on the way come into being; of an
-- array of tables the last one is meant. A dotted path does not lead into tables with a heading.
def within (dotted : Bool) (change : Origin → Entries → Option Entries) (path : List Text)
    (origin : Origin) (entries : Entries) : Option Entries :=
  match path with
  | [] => change origin entries
  | name :: path =>
      match entries.lookup name with
      | none => do
          let origin : Origin := if dotted then .dotted else .implied
          let inner ← within dotted change path origin []
          some (put name (.table origin inner) entries)
      | some (.table origin inner) => do
          if dotted && origin = .heading then none
          let inner ← within dotted change path origin inner
          some (put name (.table origin inner) entries)
      | some (.tables elements) => do
          let last ← within dotted change path .heading (← elements.getLast?)
          some (put name (.tables (elements.dropLast ++ [last])) entries)
      | some (.value _) => none

def addPair (entries : Entries) (pair : Pair) : Option Entries :=
  within true (fun origin entries =>
      if decide (origin = .dotted) = pair.path.isEmpty then none
      else if (entries.lookup pair.name).isSome then none
      else some (entries ++ [(pair.name, .value pair.value)]))
    pair.path .heading entries

def addPairs (entries : Entries) (pairs : List Pair) : Option Entries :=
  pairs.foldlM addPair entries

def addSection (root : Entries) (s : Section) : Option Entries :=
  match s.heading with
  | .table path name =>
      within false (fun _ entries => do
        let inner ←
          match entries.lookup name with
          | none => some []
          | some (.table .implied inner) => some inner
          | some _ => none
        some (put name (.table .heading (← addPairs inner s.pairs)) entries)) path .heading root
  | .element path name =>
      within false (fun _ entries => do
        let elements ←
          match entries.lookup name with
          | none => some []
          | some (.tables elements) => some elements
          | some _ => none
        some (put name (.tables (elements ++ [← addPairs [] s.pairs])) entries)) path .heading root

def ofDocument (pairs : List Pair) (sections : List Section) : Option Entries := do
  sections.foldlM addSection (← addPairs [] pairs)

end Entries

end Shading.Toml
