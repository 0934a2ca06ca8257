import FluentGen.Text.Integer
/-!
# Templates

Option texts and messages hold numbered placeholders: `{0}` stands for the first argument. Doubled
braces stand for single ones. Arguments are inserted as they are and never read again; a
placeholder without an argument, or an opening brace that starts no placeholder, stays as written.

## Main definitions
* `placeholder?`: the argument named by the text after an opening brace.
* `expand`: the template with its arguments filled in.
-/
namespace FluentGen.Text

/-- The argument that a placeholder names, with what follows its closing brace; `text` starts
after the opening brace. -/
def placeholder? (arguments : List String) (text : List Char) : Option (String × List Char) :=
  match text.dropWhile (· != '}') with
  | [] => none
  | _ :: after =>
    (word? (text.takeWhile (· != '}'))).bind fun index =>
      arguments[index]?.map fun argument => (argument, after)

theorem length_lt_of_placeholder? {arguments : List String} {text : List Char}
    {found : String × List Char} (h : placeholder? arguments text = some found) :
    found.2.length < text.length := by
  unfold placeholder? at h
  split at h
  · simp at h
  · next after heq =>
    have := (List.dropWhile_sublist (· != '}') (l := text)).length_le
    rw [heq] at this
    simp only [Option.bind_eq_some_iff, Option.map_eq_some_iff] at h
    obtain ⟨_, _, _, _, rfl⟩ := h
    simp only [List.length_cons] at this ⊢
    omega

/-- Fills the arguments into a template, character by character. -/
def expandChars (arguments : List String) : List Char → List Char
  | [] => []
  | '{' :: '{' :: rest => '{' :: expandChars arguments rest
  | '}' :: '}' :: rest => '}' :: expandChars arguments rest
  | '{' :: rest =>
    match _h : placeholder? arguments rest with
    | some found => found.1.toList ++ expandChars arguments found.2
    | none => '{' :: expandChars arguments rest
  | c :: rest => c :: expandChars arguments rest
termination_by text => text.length
decreasing_by
  · simp only [List.length_cons]; omega
  · simp only [List.length_cons]; omega
  · have := length_lt_of_placeholder? _h
    simp only [List.length_cons]; omega
  all_goals simp only [List.length_cons]; omega

/-- The template with every placeholder replaced by its argument. -/
def expand (template : String) (arguments : List String) : String :=
  String.ofList (expandChars arguments template.toList)

example : expand "{0} then {1}" ["{1}", "two"] = "{1} then two" := by decide +kernel

example : expand "{0}/{2}" ["zero"] = "zero/{2}" := by decide +kernel

end FluentGen.Text
