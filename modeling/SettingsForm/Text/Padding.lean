/-!
# Padding

Labels stand in a column of fixed width. The width counts characters, and a longer text is not cut.
-/

namespace SettingsForm.Text

/-- The text with spaces after it up to a number of characters. -/
def padRight (width : Nat) (s : String) : String :=
  s ++ String.ofList (List.replicate (width - s.length) ' ')

end SettingsForm.Text
