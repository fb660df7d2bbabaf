import EnvTags.Go.Lexeme

/-!
# From text to tokens

The text is cut into lexemes, each with the blanks and comments before it. The
last token marks the end of the text and keeps what stands before the end.
-/

namespace EnvTags
namespace Go
namespace Token

/-- The blanks and comments at the start of a text. -/
structure Lead where
  /-- The blanks and comments. -/
  skipped : List Char
  /-- Whether a line ends among them, outside of all comments. -/
  hasNewline : Bool
  /-- What comes after them. -/
  rest : List Char

/-- Skip the blanks and comments at the start of a text. -/
def skipLead (text : List Char) : Lead :=
  match text with
  | [] => ⟨[], false, []⟩
  | c :: others =>
      match Lexeme.trivia (c :: others) with
      | some (count + 1) =>
          let lead := skipLead (others.drop count)
          ⟨c :: others.take count ++ lead.skipped,
            c == '\n' || lead.hasNewline, lead.rest⟩
      | _ => ⟨[], false, c :: others⟩
termination_by text.length
decreasing_by
  simp only [List.length_drop, List.length_cons]
  omega

/-- Skipping loses nothing. -/
theorem skipLead_append (text : List Char) :
    (skipLead text).skipped ++ (skipLead text).rest = text := by
  fun_induction skipLead text with
  | case1 => rfl
  | case2 c others count _ lead inductionHypothesis =>
      simp [lead, List.append_assoc, inductionHypothesis]
  | case3 => rfl

theorem length_rest_skipLead (text : List Char) :
    (skipLead text).rest.length ≤ text.length := by
  have whole := congrArg List.length (skipLead_append text)
  simp only [List.length_append] at whole
  omega

/-- The tokens of a text, absent when some place has no lexeme. -/
def scan (text : List Char) : Option (List Token) :=
  let lead := skipLead text
  match _ : lead.rest with
  | [] => some [⟨String.ofList lead.skipped, lead.hasNewline, .finish, ""⟩]
  | c :: others =>
      match Lexeme.first? (c :: others) with
      | some (kind, count + 1) =>
          (scan (others.drop count)).map fun tokens =>
            ⟨String.ofList lead.skipped, lead.hasNewline, kind,
              String.ofList (c :: others.take count)⟩ :: tokens
      | _ => none
termination_by text.length
decreasing_by
  have whole : (skipLead text).rest = c :: others := by assumption
  have shorter := length_rest_skipLead text
  simp only [whole, List.length_cons] at shorter
  simp only [List.length_drop]
  omega

/-- The tokens of a source file, which may start with a byte order mark. -/
def ofSource (source : String) : Option (List Token) :=
  match source.toList with
  | '\uFEFF' :: text => scan text
  | text => scan text

end Token
end Go
end EnvTags
