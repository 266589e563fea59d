import NativeVariants.Text.Case
import NativeVariants.Text.Search

/-!
# Words

A text as the words between its separators, and the names that are made by joining words.
-/

namespace NativeVariants.Text

/-- The longest runs of characters that are no separators. -/
def words (isSeparator : Char → Bool) (cs : List Char) : List (List Char) :=
  (cs.splitOnP isSeparator).filter fun word => !word.isEmpty

/-- Words of ASCII letters and digits, each with a capital, joined. -/
def camelCase (s : String) : String :=
  String.ofList ((words (fun c => !c.isAlphanum) s.toList).flatMap capitalizeChars)

example : camelCase "my-native_lib" = "MyNativeLib" := by decide +kernel

end NativeVariants.Text
