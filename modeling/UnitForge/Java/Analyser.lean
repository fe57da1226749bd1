import UnitForge.Java.Parser
import UnitForge.Scan.Collection

set_option autoImplicit false

/-!
# Java sources

What the parser is used for: to tell the types that source files declare, and to check the syntax of
what is formatted.

## Main definitions

* `UnitForge.Java.analyser`: how source files are analysed in a scan.
* `UnitForge.Java.syntaxError`: the line of the first syntax error of a text.
* `UnitForge.Java.formatter`: the plain formatter with this check.
-/

namespace UnitForge.Java

/-- How source files are analysed in a scan. -/
def analyser : Scan.Analyser where
  parse bytes := .ok (parse bytes)
  types file root := (root.types file).mapError Text.Utf8Error.message

/-- The line of the first syntax error of a text. -/
def syntaxError (source : Text) : Option Int :=
  (parse (Text.encodeUtf8 source)).firstErrorLine.map Int.ofNat

/-- The plain formatter with a check of the syntax. -/
def formatter (indent source : Text) : Except Layout.FormatterError Text :=
  Layout.formatPlain syntaxError indent source

end UnitForge.Java
