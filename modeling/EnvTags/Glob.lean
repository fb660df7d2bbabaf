import EnvTags.Name
import EnvTags.Text.Split

/-!
# Patterns for paths

A pattern is matched against a whole path, character by character. A question
mark stands for any character and a star for any run of them, slashes included.
Two stars have to be a whole component; they stand for any number of leading
components with their slashes, and at the end for all that is left. Brackets hold
the characters and ranges of which one may stand, or none if they start with an
exclamation mark.
-/

namespace EnvTags
namespace Glob

/-- A character or a range of characters in brackets. -/
structure Span where
  /-- The first character. -/
  first : Char
  /-- The last character. -/
  last : Char
  deriving DecidableEq

/-- One part of a pattern. -/
inductive Part
  /-- The character itself. -/
  | char (c : Char)
  /-- Any one character. -/
  | anyChar
  /-- Any run of characters. -/
  | anyRun
  /-- Any number of leading components. -/
  | anyComponents
  /-- One of some characters. -/
  | within (spans : List Span)
  /-- None of some characters. -/
  | except (spans : List Span)
  deriving DecidableEq

/-- The characters and ranges in brackets. A hyphen between two characters makes
a range. -/
def spans : List Char → List Span
  | [] => []
  | [c] => [⟨c, c⟩]
  | [c, d] => [⟨c, c⟩, ⟨d, d⟩]
  | c :: d :: e :: rest =>
      if d = '-' then ⟨c, e⟩ :: spans rest else ⟨c, c⟩ :: spans (d :: e :: rest)

/-- What stands in brackets, after the opening one, and what follows them. The
first character is never the closing bracket. -/
def brackets? : List Char → Option (Part × List Char)
  | [] => none
  | [_] => none
  | c :: d :: rest =>
      if c = '!' then
        (Text.cut ']' rest).map fun (others, after) =>
          (.except (spans (d :: others)), after)
      else
        (Text.cut ']' (d :: rest)).map fun (others, after) =>
          (.within (spans (c :: others)), after)

theorem length_of_cut
    {mark : Char}
    {text before after : List Char}
    (found : Text.cut mark text = some (before, after)) :
    after.length < text.length := by
  rw [(Text.cut_eq_some_iff.mp found).1]
  simp only [List.length_append, List.length_cons]
  omega

theorem length_of_brackets?
    {text rest : List Char}
    {part : Part}
    (read : brackets? text = some (part, rest)) :
    rest.length < text.length := by
  unfold brackets? at read
  split at read
  · simp at read
  · simp at read
  · split at read
    all_goals
      obtain ⟨⟨others, after⟩, found, equal⟩ := Option.map_eq_some_iff.mp read
      obtain ⟨_, rfl⟩ := Prod.mk.inj equal
      have shorter := length_of_cut found
      simp only [List.length_cons] at shorter ⊢
      omega

/-- The parts of a pattern, absent when it is not valid. Two stars are valid only
at the start of a component and before a slash or the end. -/
def parts? (startsComponent : Bool) (pattern : List Char) : Option (List Part) :=
  match pattern with
  | [] => some []
  | '*' :: '*' :: rest =>
      if !startsComponent then none
      else
        match rest with
        | [] => some [.anyComponents]
        | '/' :: others => (parts? true others).map (.anyComponents :: ·)
        | _ => none
  | '*' :: rest => (parts? false rest).map (.anyRun :: ·)
  | '?' :: rest => (parts? false rest).map (.anyChar :: ·)
  | '[' :: rest =>
      match _ : brackets? rest with
      | none => none
      | some (part, others) => (parts? false others).map (part :: ·)
  | c :: rest => (parts? (c == '/') rest).map (.char c :: ·)
termination_by pattern.length
decreasing_by
  all_goals simp only [List.length_cons]
  all_goals try omega
  have := length_of_brackets? (by assumption)
  omega

/-- The parts of a whole pattern. -/
def parse? (pattern : String) : Option (List Part) :=
  parts? true pattern.toList

/-- Whether a character is in a range. -/
def Span.contains (span : Span) (c : Char) : Bool :=
  span.first ≤ c && c ≤ span.last

/-- Whether some end part of a text satisfies a test. -/
def someEnd (test : List Char → Bool) : List Char → Bool
  | [] => test []
  | c :: rest => test (c :: rest) || someEnd test rest

/-- Whether what follows some slash of a text satisfies a test. -/
def afterSomeSlash (test : List Char → Bool) : List Char → Bool
  | [] => false
  | c :: rest => (c == '/' && test rest) || afterSomeSlash test rest

/-- Whether the parts of a pattern match a text. -/
def Part.matchAll : List Part → List Char → Bool
  | [], text => text.isEmpty
  | .anyRun :: parts, text => someEnd (matchAll parts) text
  | .anyComponents :: parts, text =>
      matchAll parts text || afterSomeSlash (matchAll parts) text ||
        matchAll parts []
  | _ :: _, [] => false
  | .char d :: parts, c :: rest => c == d && matchAll parts rest
  | .anyChar :: parts, _ :: rest => matchAll parts rest
  | .within spans :: parts, c :: rest =>
      spans.any (fun span => span.contains c) && matchAll parts rest
  | .except spans :: parts, c :: rest =>
      !spans.any (fun span => span.contains c) && matchAll parts rest

end Glob

/-- A valid pattern for paths. -/
structure Glob where
  /-- The parts of the pattern. -/
  parts : List Glob.Part
  deriving DecidableEq

/-- The pattern with a given text, absent when it is not valid. -/
def Glob.ofString? (pattern : String) : Option Glob :=
  (Glob.parse? pattern).map Glob.mk

/-- Whether a pattern matches a path given by the names in it. It matches no path
with a name that is no text. -/
def Glob.matchesNames (glob : Glob) (names : List Name) : Bool :=
  match names.mapM Name.text? with
  | none => false
  | some texts => Glob.Part.matchAll glob.parts (Text.joined '/' texts).toList

end EnvTags
