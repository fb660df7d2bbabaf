import EnvTags.Text.Quoted

/-!
# Struct tags

A tag is a row of pairs of a name and a quoted value, such as `json:"host"
env:"HOST"`, with spaces between them. It is read pair by pair up to the first
place that is not a pair.
-/

namespace EnvTags
namespace Tag

/-- One pair of a tag, the value still written as in the tag. -/
structure Pair where
  /-- What stands before the colon. -/
  name : List Char
  /-- What stands between the quotes. -/
  value : List Char
  deriving DecidableEq

/-- A name has no space, no control character, no colon and no quote. -/
def isNameChar (c : Char) : Bool :=
  ' ' < c && c != ':' && c != '"' && c != '\x7f'

/-- The text up to the first quote that no backslash escapes, and the text after
that quote. -/
def closeQuote : List Char → Option (List Char × List Char)
  | [] => none
  | [c] => if c = '"' then some ([], []) else none
  | c :: d :: rest =>
      if c = '"' then some ([], d :: rest)
      else if c = '\\' then
        (closeQuote rest).map fun parts => (c :: d :: parts.1, parts.2)
      else
        (closeQuote (d :: rest)).map fun parts => (c :: parts.1, parts.2)

/-- The pair at the start of a text, with the text after it. -/
def pair? (text : List Char) : Option (Pair × List Char) :=
  if (text.takeWhile isNameChar).isEmpty then none
  else
    match text.dropWhile isNameChar with
    | ':' :: '"' :: quoted =>
        (closeQuote quoted).map fun parts =>
          (⟨text.takeWhile isNameChar, parts.1⟩, parts.2)
    | _ => none

theorem closeQuote_eq_append
    {text value rest : List Char}
    (closed : closeQuote text = some (value, rest)) :
    text = value ++ '"' :: rest := by
  fun_induction closeQuote text generalizing value with
  | case1 => simp at closed
  | case2 => simp_all
  | case3 => simp at closed
  | case4 => simp_all
  | case5 d text _ inductionHypothesis =>
      obtain ⟨⟨left, right⟩, found, equal⟩ := Option.map_eq_some_iff.mp closed
      obtain ⟨rfl, rfl⟩ := Prod.mk.inj equal
      simp [inductionHypothesis found]
  | case6 c d text _ _ inductionHypothesis =>
      obtain ⟨⟨left, right⟩, found, equal⟩ := Option.map_eq_some_iff.mp closed
      obtain ⟨rfl, rfl⟩ := Prod.mk.inj equal
      simp [inductionHypothesis found]

/-- A pair stands in the text as its name, a colon and its quoted value. -/
theorem pair?_eq_append
    {text rest : List Char}
    {pair : Pair}
    (read : pair? text = some (pair, rest)) :
    text = pair.name ++ ':' :: '"' :: pair.value ++ '"' :: rest := by
  unfold pair? at read
  split at read
  · simp at read
  · split at read
    · rename_i quoted after
      obtain ⟨⟨value, left⟩, closed, equal⟩ := Option.map_eq_some_iff.mp read
      obtain ⟨rfl, rfl⟩ := Prod.mk.inj equal
      have whole := List.takeWhile_append_dropWhile (p := isNameChar) (l := text)
      rw [after, closeQuote_eq_append closed] at whole
      simpa using whole.symm
    · simp at read

/-- A pair takes at least one character off the text. -/
theorem length_of_pair?
    {text rest : List Char}
    {pair : Pair}
    (read : pair? text = some (pair, rest)) :
    rest.length < text.length := by
  rw [pair?_eq_append read]
  simp only [List.length_append, List.length_cons]
  omega

/-- The pairs of a tag, up to the first place that is not a pair. -/
def pairs (text : List Char) : List Pair :=
  match _ : pair? (text.dropWhile (· == ' ')) with
  | none => []
  | some (pair, rest) => pair :: pairs rest
termination_by text.length
decreasing_by
  exact Nat.lt_of_lt_of_le (length_of_pair? (by assumption))
    (List.dropWhile_sublist _).length_le

/-- The value of the first pair with a given name. It is absent too when that
value is not the body of a literal. -/
def lookup (tag key : String) : Option String :=
  match (pairs tag.toList).find? fun pair => pair.name == key.toList with
  | none => none
  | some pair => Text.Quoted.decode pair.value

end Tag
end EnvTags
