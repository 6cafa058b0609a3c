/-!
# Numbers that may be missing
-/

namespace SharedBytes.Text

def optional : Option Nat → String
  | some n => s!"Some({n})"
  | none => "None"

end SharedBytes.Text
