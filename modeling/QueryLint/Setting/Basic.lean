/-!
Values of settings, as configuration files, environment variables and requests give them. Texts,
numbers and lists are not checked against what they are for; that is done when a setting is read.
-/

namespace QueryLint

inductive Setting where
  | null
  | bool (value : Bool)
  | int (value : Int)
  | number (value : Float)
  | text (value : String)
  /-- A date with its time of day. -/
  | moment (value : String)
  | list (items : List Setting)
  | map (entries : List (String × Setting))
deriving Inhabited

/-- Named settings, such as the options of a rule. -/
abbrev Settings := List (String × Setting)

end QueryLint
