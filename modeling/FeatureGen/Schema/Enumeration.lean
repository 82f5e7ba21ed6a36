import FeatureGen.Schema.Line
import FeatureGen.Text.Entity

/-!
# Values of an enumeration

The body of an enumeration lists its values.  A value may be written with character references and
in quotes, and an attribute may follow it.  A line without quotes may hold several values.

A reference with too many digits is a fault, and then there are no values at all.  Lines that hold
none are not decoded.
-/

namespace FeatureGen.Schema

open FeatureGen.Text

/-- The text before the first blanks that an `@` follows. -/
def beforeAttribute : List Char → List Char
  | [] => []
  | c :: s =>
    if isBlank c && (trimStart s).head? = some '@' then [] else c :: beforeAttribute s

/-- Quotes, single and double. -/
def isQuote (c : Char) : Bool := c = '\'' || c = '"'

/-- The value that a text writes: its references are decoded, its attribute is dropped, and so are
its quotes. -/
def enumValue (raw : List Char) : Except DigitFault (List Char) :=
  (decodeReferences (trim raw)).map fun decoded =>
    trim ((beforeAttribute decoded).filter (!isQuote ·))

/-- The values on a line that writes the value when it is decoded. -/
def valuesOnLine (line value : List Char) : List (List Char) :=
  if value.isEmpty then []
  else if line.any isQuote then [value]
  else splitBlanks value

/-- The values of one line. -/
def enumLineValues (raw : List Char) : Except DigitFault (List (List Char)) :=
  let line := stripComment (trim raw)
  if line.isEmpty || ['@', '@'].isPrefixOf line then .ok []
  else (enumValue line).map (valuesOnLine line)

/-- The values of an enumeration, in the order of its body. -/
def enumValues (body : List Char) : Except DigitFault (List (List Char)) :=
  ((splitLines body).mapM enumLineValues).map List.flatten

end FeatureGen.Schema
