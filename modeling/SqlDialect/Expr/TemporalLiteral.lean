import SqlDialect.Calendar.InternetTime
import SqlDialect.Calendar.Layout
import SqlDialect.Expr

/-!
# Temporal literals

A string literal is temporal when its text, without the blanks around it, is a date, a date and a
time, or a time in one of the layouts below. Engines that do not convert strings by themselves need
such a literal to be cast.
-/

namespace SqlDialect

open Calendar

/-- The layouts of a temporal text: a date, a date and a time joined by `T` or by blanks, with or
without seconds, and a time. -/
def temporalLayouts : List (List Item) :=
  [dateLayout,
    dateLayout ++ [.exactly 'T'] ++ secondLayout ++ [.fraction],
    dateLayout ++ [.blanks] ++ secondLayout ++ [.fraction],
    dateLayout ++ [.exactly 'T'] ++ minuteLayout,
    dateLayout ++ [.blanks] ++ minuteLayout,
    secondLayout ++ [.fraction]]

/-- Whether a text without blanks around it denotes a date, a time or both. -/
def readsAsTemporal (cs : List Char) : Bool :=
  (temporalLayouts.any fun layout => (read layout cs).isOk) || (InternetTime.read? cs).isSome

/-- Whether a text denotes a date, a time or both. -/
def isTemporalText (s : String) : Bool :=
  readsAsTemporal (Text.trim s.toList)

/-- Whether an expression is a string literal that denotes a date, a time or both. -/
def Expr.isTemporalLiteral : Expr → Bool
  | .literal (.string value) => isTemporalText value
  | _ => false

end SqlDialect
