import QueryLint.Report.Output
import QueryLint.Text.Quoted

/-!
Messages about what a program does, one in a line of the error output: a level, a message and
named values. A value is quoted if it is empty or would not stand out from what is around it.
-/

namespace QueryLint

inductive LogLevel where
  | debug
  | warning
deriving DecidableEq, Repr, Inhabited

namespace Log

def levelText : LogLevel → String
  | .debug => "DEBUG"
  | .warning => "WARN"

def needsQuotes (c : Char) : Bool :=
  let n := c.toNat
  if n < 0x80 then n ≤ 0x20 || c == '=' || c == '"'
  else Text.isBlank c || !Text.isGraphic c || n == 0xFFFD

def value (text : String) : String :=
  if text.isEmpty || text.toList.any needsQuotes then Text.quoted text else text

def line (level : LogLevel) (message : String) (values : List (String × String)) : Output :=
  .printError (" ".intercalate (("level=" ++ levelText level) ::
    (("msg", message) :: values).map fun (name, text) => name ++ "=" ++ value text))

end Log

end QueryLint
