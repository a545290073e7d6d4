import Shading.Text

set_option autoImplicit false

namespace Shading.Toml

inductive Value where
  | string (s : Text)
  | integer (n : Int)
  -- A number with a fraction or an exponent, or one that is none, as it is written.
  | float (literal : Text)
  | boolean (b : Bool)
  -- A date, a time of day or both, as it is written.
  | dateTime (literal : Text)
  | array (items : List Value)
  | table (entries : List (Text × Value))

end Shading.Toml
