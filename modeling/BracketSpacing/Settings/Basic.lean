import BracketSpacing.Text.CodePoint

/-!
# Settings

* `Selection`: which files a run reads.
* `Spacing`: how the brackets in them are spaced.
* `Settings`: both together. Every field has a default.

Their texts are code points, since a settings file can hold texts that are none of characters.
-/

namespace BracketSpacing

open Text (CodePoint pointsOf)

/-- The directories that are walked, the file name extensions that are taken, and the texts that no path may hold. -/
structure Selection where
  directories : List (List CodePoint) := ["app/", "config/", "database/", "lang/", "routes/"].map pointsOf
  extensions : List (List CodePoint) := ["php"].map pointsOf
  skipPatterns : List (List CodePoint) :=
    ["vendor/", "storage/", "bootstrap/cache/", "node_modules/", ".git/"].map pointsOf
  deriving DecidableEq

/-- The name of the strategy, the limit on passes, and whether character classes are kept as they are. -/
structure Spacing where
  strategy : List CodePoint := pointsOf "php"
  maxPasses : Int := 20
  classGuard : Bool := true
  deriving DecidableEq

/-- All settings of a run. -/
structure Settings where
  selection : Selection := {}
  spacing : Spacing := {}
  deriving DecidableEq

end BracketSpacing
