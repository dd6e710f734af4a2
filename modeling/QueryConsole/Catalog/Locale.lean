import QueryConsole.Text.Case
/-!
# Locales

The catalog of a locale is that of its language: what stands before the
first hyphen or underscore, in lower case.
-/

namespace QueryConsole.Catalog

/-- Whether a code point ends the language of a locale. -/
def endsLanguage (p : CodePoint) : Bool :=
  p == .scalar '-' || p == .scalar '_'

/-- The language of a locale. -/
def language (locale : Text) : Text :=
  Text.lower (locale.takeWhile fun p => !endsLanguage p)

end QueryConsole.Catalog
