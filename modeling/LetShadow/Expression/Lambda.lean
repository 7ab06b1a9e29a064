/-
**Parameters of functions.**

Parameters stand between commas, those with default values after those without. A slash ends the
ones that have no names outside, a star begins the ones that have nothing but names, and two stars
stand before the one that takes all other names.

* `parameters` — **the parameters of a function,** from the word before them to the colon.
-/

import LetShadow.Expression.Rule

namespace LetShadow.Expression

namespace Parameter

/-! ### Single parameters -/

/-- A default value. -/
def default : Form :=
  .row [
    sign "=",
    .first [
      .rule .expression,
      .wrong .missingDefault (.ahead (.first [sign ")", comma])) ] ]

/-- What ends a parameter: a comma, or the colon that follows. -/
def ended (phrase : Form) : Form :=
  .row [phrase, .first [comma, .ahead (sign ":")]]

/-- A parameter without a default value. -/
def plain : Form :=
  ended identifier

/-- A parameter with a default value. -/
def withDefault : Form :=
  ended (.row [identifier, default])

/-- A parameter that may have a default value. -/
def any : Form :=
  ended (.row [identifier, .optional default])

/-! ### Groups of parameters -/

/-- Parameters without default values, up to a slash. -/
def slashAfterPlain : Form :=
  ended (.row [.oneOrMore plain, sign "/"])

/-- Parameters up to a slash, the last of which have default values. -/
def slashAfterDefaults : Form :=
  ended (.row [.many plain, .oneOrMore withDefault, sign "/"])

/-- Parameters up to a slash. -/
def slash : Form :=
  .first [slashAfterPlain, slashAfterDefaults]

/-- The parameter that takes all other names. -/
def allNames : Form :=
  .first [
    .wrong .doubleStarDefault (.row [sign "**", identifier, sign "="]),
    .wrong .afterDoubleStar (.row [sign "**", identifier, comma, identifier]),
    .wrong .afterDoubleStar
      (.row [sign "**", identifier, comma, .first [sign "*", sign "**", sign "/"]]),
    .row [sign "**", plain] ]

/-- What may follow a star. -/
def starred : Form :=
  .first [plain, comma]

/-- The parameters from a star on. -/
def afterStar : Form :=
  .first [
    .wrong .nothingAfterStar
      (.row [sign "*", .first [sign ":", .row [comma, .first [sign ":", sign "**"]]]]),
    .wrong .starDefault (.row [sign "*", identifier, sign "="]),
    .wrong .starTwice (.row [sign "*", starred, .many any, sign "*", starred]),
    .row [sign "*", plain, .many any, .optional allNames],
    .row [sign "*", comma, .oneOrMore any, .optional allNames],
    allNames ]

/-! ### Parameters -/

/-- What is wrong with parameters. -/
def wrongParameters : Form :=
  .first [
    .wrong .noDefaultAfterDefault
      (.row [.many plain, .first [slashAfterDefaults, .oneOrMore withDefault], plain]),
    .wrong .parametersInParentheses
      (.row [.many plain, sign "(", listed identifier, .optional comma, sign ")"]),
    .wrong .slashFirst (.row [sign "/", comma]),
    .wrong .slashTwice (.row [slash, .many any, sign "/"]),
    .wrong .slashAfterStar
      (.row [.optional slash, .many any, sign "*", .first [comma, plain], .many any, sign "/"]),
    .wrong .slashBeforeStar (.row [.oneOrMore any, sign "/", sign "*"]) ]

/-- Parameters in their order. -/
def rightParameters : Form :=
  .first [
    .row [slashAfterPlain, .many plain, .many withDefault, .optional afterStar],
    .row [slashAfterDefaults, .many withDefault, .optional afterStar],
    .row [.oneOrMore plain, .many withDefault, .optional afterStar],
    .row [.oneOrMore withDefault, .optional afterStar],
    afterStar ]

end Parameter

/-- The parameters of a function. -/
def parameters : Form :=
  .row [
    word "lambda",
    .optional (.first [Parameter.wrongParameters, Parameter.rightParameters]),
    sign ":" ]

end LetShadow.Expression
