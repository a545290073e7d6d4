import Shading.Resource.Services

set_option autoImplicit false

namespace Shading

inductive Transformer where
  | filter (accepted : PatternSet)
  | services (merger : ServiceMerger)

namespace Transformer

def name : Transformer → Text
  | filter _ => "FilterTransformer".toList
  | services _ => "ServiceMergeTransformer".toList

def claims : Transformer → Text → Bool
  | filter accepted, path => !accepted.contains path
  | services merger, path => merger.services.contains path

def addInclude (pattern : Text) : Transformer → Except IllFormedPattern Transformer
  | filter accepted => (accepted.addInclude pattern).map filter
  | services merger =>
      (merger.services.addInclude pattern).map fun set => services { merger with services := set }

def addExclude (pattern : Text) : Transformer → Except IllFormedPattern Transformer
  | filter accepted => (accepted.addExclude pattern).map filter
  | services merger =>
      (merger.services.addExclude pattern).map fun set => services { merger with services := set }

def take (chain : Chain) (path : Text) (content : Bytes) : Transformer → Transformer
  | filter accepted => filter accepted
  | services merger => services (merger.collect chain path content)

def hasOutput : Transformer → Bool
  | filter _ => false
  | services merger => !merger.entries.isEmpty

def output : Transformer → List (Text × Bytes)
  | filter _ => []
  | services merger => merger.output

end Transformer

end Shading
