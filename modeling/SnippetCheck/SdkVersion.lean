import SnippetCheck.Text.Blank

/-!
# SDK Versions

The SDK version that snippets are compiled against is a label without blanks. Two versions
are the same only if their texts are.
-/

namespace SnippetCheck

open SnippetCheck.Text

/-- A label that is not empty and holds no blank. -/
structure SdkVersion where
  /-- The label. -/
  text : String
  /-- The label is not empty. -/
  text_ne_empty : text ≠ ""
  /-- No character of the label is blank. -/
  no_blank : text.toList.any isBlank = false
  deriving DecidableEq, Repr

/-- Why a text is no SDK version. -/
inductive SdkVersionError where
  /-- Nothing is left after trimming. -/
  | empty
  /-- A blank is left inside the trimmed text. -/
  | innerBlank (text : String)
  deriving DecidableEq, Repr

/-- The message for a text that is no SDK version. -/
def SdkVersionError.message : SdkVersionError → String
  | .empty => "SDK version must not be empty"
  | .innerBlank text => s!"SDK version '{text}' must not contain whitespace"

/-- Read an SDK version, leaving out the blanks around it. -/
def SdkVersion.ofText (raw : String) : Except SdkVersionError SdkVersion :=
  let text := trimmed raw
  if empty : text = "" then .error .empty
  else if blank : text.toList.any isBlank then .error (.innerBlank text)
  else .ok ⟨text, empty, by simpa using blank⟩

/-- The version read from a text is the trimmed text. -/
theorem SdkVersion.text_eq_of_ofText {raw : String} {version : SdkVersion}
    (h : ofText raw = .ok version) : version.text = trimmed raw := by
  simp only [ofText] at h
  split at h
  · cases h
  · split at h
    · cases h
    · cases h
      rfl

end SnippetCheck
