import EditPlayer.Casing.Lower
import EditPlayer.Casing.Split
import EditPlayer.Named
set_option autoImplicit false

/-!
# The conversions that a script can name
-/

namespace EditPlayer

/-- The conversions of a text. -/
inductive Conversion where
  /-- `lower case` -/
  | lower
  /-- `UPPER CASE` -/
  | upper
  /-- `Title Case` -/
  | title
  /-- `camelCase` -/
  | camel
  /-- every letter in its other case -/
  | toggle
  /-- `member.syntax` -/
  | memberSyntax
  /-- `kebab-syntax` -/
  | kebabSyntax
  /-- `snake_syntax` -/
  | snakeSyntax
  /-- `splitByCase` becomes `split By Case` -/
  | splitByCase
  /-- `a.b/c` becomes `a b c` -/
  | removePunctuation
  deriving DecidableEq, Repr, Inhabited

namespace Conversion

/-- The text that a conversion makes of a text. -/
def apply : Conversion → Text → Text
  | lower => Casing.lower
  | upper => Casing.upper
  | title => Casing.title
  | camel => Casing.camel
  | toggle => Casing.toggle
  | memberSyntax => Casing.joinWords ['.']
  | kebabSyntax => Casing.joinWords ['-']
  | snakeSyntax => Casing.joinWords ['_']
  | splitByCase => Casing.split
  | removePunctuation => Casing.removePunctuation

instance : Named Conversion where
  all := [lower, upper, title, camel, toggle, memberSyntax, kebabSyntax, snakeSyntax, splitByCase,
    removePunctuation]
  name
    | lower => "lower".toList
    | upper => "upper".toList
    | title => "title".toList
    | camel => "camel".toList
    | toggle => "toggle".toList
    | memberSyntax => "member-syntax".toList
    | kebabSyntax => "kebab-syntax".toList
    | snakeSyntax => "snake-syntax".toList
    | splitByCase => "split-by-case".toList
    | removePunctuation => "remove-punctuation".toList

theorem ofName?_name (conversion : Conversion) :
    Named.ofName? (Named.name conversion) = some conversion := by
  cases conversion <;> decide

end Conversion

end EditPlayer
