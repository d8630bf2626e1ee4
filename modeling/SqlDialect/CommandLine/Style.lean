/-!
# Styled text

Text in a style for terminals: the code of the style, the text, and the code that ends all styles.
Where the text itself ends all styles, the style is started again. Without colours a styled text is
just the text.
-/

namespace SqlDialect.CommandLine

/-- A style. -/
inductive Style where
  | bold
  | dimmed
  | red
  | green
  | yellow
  | cyan
deriving DecidableEq, Repr

/-- The number of a style in its code. -/
def Style.number : Style → String
  | .bold => "1"
  | .dimmed => "2"
  | .red => "31"
  | .green => "32"
  | .yellow => "33"
  | .cyan => "36"

/-- The code that starts a style. -/
def Style.code (style : Style) : String :=
  "\x1b[" ++ style.number ++ "m"

/-- The code that ends all styles. -/
def resetCode : String := "\x1b[0m"

/-- The text with a code after each end of all styles. -/
def restarted (code : List Char) : List Char → List Char
  | [] => []
  | '\x1b' :: '[' :: '0' :: 'm' :: rest => resetCode.toList ++ code ++ restarted code rest
  | c :: rest => c :: restarted code rest

/-- The text in a style, if there are colours. -/
def styled (colours : Bool) (style : Style) (text : String) : String :=
  if colours then
    style.code ++ String.ofList (restarted style.code.toList text.toList) ++ resetCode
  else text

/-- The text with blanks after it, so that it has at least `width` characters. -/
def padRight (width : Nat) (text : String) : String :=
  text ++ String.ofList (List.replicate (width - text.length) ' ')

end SqlDialect.CommandLine
