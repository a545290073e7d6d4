import Shading.Proofs.Signature.Tree

set_option autoImplicit false

namespace Shading.Signature

inductive BaseType where
  | byte
  | char
  | double
  | float
  | int
  | long
  | short
  | boolean

inductive Limit where
  | upper
  | lower

mutual
inductive FieldType where
  | base (type : BaseType)
  | reference (type : ReferenceType)

inductive ReferenceType where
  | object (type : ClassType)
  | variable (name : Text)
  | array (component : FieldType)

-- A class by its binary name, and the classes nested in it one after the other.
inductive ClassType where
  | mk (name : Text) (arguments : Arguments) (nested : NestedTypes)

inductive Arguments where
  | nil
  | any (others : Arguments)
  | type (limit : Option Limit) (type : ReferenceType) (others : Arguments)

inductive NestedTypes where
  | nil
  | cons (name : Text) (arguments : Arguments) (others : NestedTypes)
end

inductive ThrownType where
  | object (type : ClassType)
  | variable (name : Text)

structure TypeParameter where
  name : Text
  classBound : Option ReferenceType
  interfaceBounds : List ReferenceType

-- Descriptors are the declarations of fields and methods without type parameters, type arguments,
-- type variables, nested classes and thrown types. A method without a result is void.
inductive Declaration where
  | field (type : FieldType)
  | method (parameters : List TypeParameter) (arguments : List FieldType)
      (result : Option FieldType) (thrown : List ThrownType)
  | classes (parameters : List TypeParameter) (superclass : ClassType) (interfaces : List ClassType)

def BaseType.letter : BaseType → Char
  | byte => 'B'
  | char => 'C'
  | double => 'D'
  | float => 'F'
  | int => 'I'
  | long => 'J'
  | short => 'S'
  | boolean => 'Z'

def Limit.mark : Option Limit → Text
  | none => []
  | some upper => ['+']
  | some lower => ['-']

-- A list in angle brackets, which are left out with it.
def bracketed : Text → Text
  | [] => []
  | c :: rest => '<' :: c :: rest ++ ['>']

mutual
def FieldType.print : FieldType → Text
  | .base type => [type.letter]
  | .reference type => type.print
termination_by structural t => t

def ReferenceType.print : ReferenceType → Text
  | .object type => type.print
  | .variable name => 'T' :: name ++ [';']
  | .array component => '[' :: component.print
termination_by structural t => t

def ClassType.print : ClassType → Text
  | .mk name arguments nested => 'L' :: name ++ bracketed arguments.print ++ nested.print ++ [';']
termination_by structural t => t

def Arguments.print : Arguments → Text
  | .nil => []
  | .any others => '*' :: others.print
  | .type limit type others => Limit.mark limit ++ type.print ++ others.print
termination_by structural a => a

def NestedTypes.print : NestedTypes → Text
  | .nil => []
  | .cons name arguments others => '.' :: name ++ bracketed arguments.print ++ others.print
termination_by structural n => n
end

def ThrownType.print : ThrownType → Text
  | .object type => '^' :: type.print
  | .variable name => '^' :: 'T' :: name ++ [';']

def TypeParameter.print (p : TypeParameter) : Text :=
  p.name ++ ':' :: p.classBound.elim [] ReferenceType.print ++
    p.interfaceBounds.flatMap fun t => ':' :: t.print

def Declaration.print : Declaration → Text
  | field type => type.print
  | method parameters arguments result thrown =>
      bracketed (parameters.flatMap TypeParameter.print) ++ '(' :: arguments.flatMap FieldType.print ++
        ')' :: result.elim ['V'] FieldType.print ++ thrown.flatMap ThrownType.print
  | classes parameters superclass interfaces =>
      bracketed (parameters.flatMap TypeParameter.print) ++ superclass.print ++
        interfaces.flatMap ClassType.print

def Identifier (name : Text) : Prop := Named ['.', ';', '[', '/', '<', '>', ':'] name

instance (name : Text) : Decidable (Identifier name) :=
  inferInstanceAs (Decidable (Named _ name))

def QualifiedName (name : Text) : Prop := ∀ part ∈ Text.split '/' name, Identifier part

instance (name : Text) : Decidable (QualifiedName name) :=
  inferInstanceAs (Decidable (∀ part ∈ Text.split '/' name, Identifier part))

mutual
def FieldType.WellFormed : FieldType → Prop
  | .base _ => True
  | .reference type => type.WellFormed
termination_by structural t => t

def ReferenceType.WellFormed : ReferenceType → Prop
  | .object type => type.WellFormed
  | .variable name => Identifier name
  | .array component => component.WellFormed
termination_by structural t => t

def ClassType.WellFormed : ClassType → Prop
  | .mk name arguments nested => QualifiedName name ∧ arguments.WellFormed ∧ nested.WellFormed
termination_by structural t => t

def Arguments.WellFormed : Arguments → Prop
  | .nil => True
  | .any others => others.WellFormed
  | .type _ type others => type.WellFormed ∧ others.WellFormed
termination_by structural a => a

def NestedTypes.WellFormed : NestedTypes → Prop
  | .nil => True
  | .cons name arguments others => Identifier name ∧ arguments.WellFormed ∧ others.WellFormed
termination_by structural n => n
end

def ThrownType.WellFormed : ThrownType → Prop
  | .object type => type.WellFormed
  | .variable name => Identifier name

structure TypeParameter.WellFormed (p : TypeParameter) : Prop where
  name : Identifier p.name
  classBound : ∀ t, p.classBound = some t → t.WellFormed
  interfaceBounds : ∀ t ∈ p.interfaceBounds, t.WellFormed
  bounded : p.classBound = none → p.interfaceBounds ≠ []

def Declaration.WellFormed : Declaration → Prop
  | field type => type.WellFormed
  | method parameters arguments result thrown =>
      (∀ p ∈ parameters, p.WellFormed) ∧ (∀ t ∈ arguments, t.WellFormed) ∧
        (∀ t, result = some t → t.WellFormed) ∧ ∀ t ∈ thrown, t.WellFormed
  | classes parameters superclass interfaces =>
      (∀ p ∈ parameters, p.WellFormed) ∧ superclass.WellFormed ∧ ∀ t ∈ interfaces, t.WellFormed

-- The simple name of a nested class whose binary name has become `full`, and that of the class
-- around it `outer`: what follows `outer$`, or else what follows the last `$`, if there is one.
def nestedName (outer full : Text) : Text :=
  if outer ++ ['$'] <+: full then full.drop (outer.length + 1)
  else (full.reverse.takeWhile (· != '$')).reverse

section

variable (f : Text → Option Text)

mutual
def FieldType.rename : FieldType → FieldType
  | .base type => .base type
  | .reference type => .reference type.rename
termination_by structural t => t

def ReferenceType.rename : ReferenceType → ReferenceType
  | .object type => .object type.rename
  | .variable name => .variable name
  | .array component => .array component.rename
termination_by structural t => t

def ClassType.rename : ClassType → ClassType
  | .mk name arguments nested => .mk ((f name).getD name) arguments.rename (nested.rename name)
termination_by structural t => t

def Arguments.rename : Arguments → Arguments
  | .nil => .nil
  | .any others => .any others.rename
  | .type limit type others => .type limit type.rename others.rename
termination_by structural a => a

-- `outer` is the binary name of the class around them.
def NestedTypes.rename (outer : Text) : NestedTypes → NestedTypes
  | .nil => .nil
  | .cons name arguments others =>
      let full := outer ++ '$' :: name
      .cons (nestedName ((f outer).getD outer) ((f full).getD full)) arguments.rename
        (others.rename full)
termination_by structural n => n
end

def ThrownType.rename : ThrownType → ThrownType
  | .object type => .object (type.rename f)
  | .variable name => .variable name

def TypeParameter.rename (p : TypeParameter) : TypeParameter where
  name := p.name
  classBound := p.classBound.map (ReferenceType.rename f)
  interfaceBounds := p.interfaceBounds.map (ReferenceType.rename f)

def Declaration.rename : Declaration → Declaration
  | field type => field (type.rename f)
  | method parameters arguments result thrown =>
      method (parameters.map (TypeParameter.rename f)) (arguments.map (FieldType.rename f))
        (result.map (FieldType.rename f)) (thrown.map (ThrownType.rename f))
  | classes parameters superclass interfaces =>
      classes (parameters.map (TypeParameter.rename f)) (superclass.rename f)
        (interfaces.map (ClassType.rename f))

end

end Shading.Signature
