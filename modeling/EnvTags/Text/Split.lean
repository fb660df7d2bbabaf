/-!
# Cutting a text at a mark

A text is cut at the first occurrence of a character, or at all of them.
-/

namespace EnvTags
namespace Text

/-- Cut a text at the first occurrence of a mark, which is dropped. -/
def cut (mark : Char) : List Char → Option (List Char × List Char)
  | [] => none
  | c :: rest =>
      if c = mark then some ([], rest)
      else (cut mark rest).map fun parts => (c :: parts.1, parts.2)

/-- Cutting is possible exactly when the text is two parts around the mark, the
first of them free of it. -/
theorem cut_eq_some_iff
    {mark : Char}
    {text before after : List Char} :
    cut mark text = some (before, after) ↔
      text = before ++ mark :: after ∧ mark ∉ before := by
  induction text generalizing before with
  | nil => simp [cut]
  | cons c rest inductionHypothesis =>
      by_cases equal : c = mark
      · subst equal
        cases before with
        | nil => simp [cut, eq_comm]
        | cons d before =>
            simp only [cut, if_true, Option.some.injEq, Prod.mk.injEq,
              List.cons_append, List.cons.injEq, List.mem_cons, not_or]
            constructor
            · intro impossible
              exact absurd impossible.1 (by simp)
            · rintro ⟨⟨same, -⟩, different, -⟩
              exact absurd same different
      · cases before with
        | nil =>
            simp only [cut, equal, if_false, Option.map_eq_some_iff,
              Prod.mk.injEq, List.nil_append, List.cons.injEq]
            constructor
            · rintro ⟨_, _, impossible, _⟩
              exact absurd impossible (by simp)
            · rintro ⟨⟨same, _⟩, _⟩
              exact same.elim
        | cons d before =>
            simp only [cut, equal, if_false, Option.map_eq_some_iff,
              Prod.exists, Prod.mk.injEq, List.cons.injEq, List.cons_append,
              List.mem_cons, not_or]
            constructor
            · rintro ⟨left, right, found, ⟨rfl, rfl⟩, rfl⟩
              obtain ⟨rfl, absent⟩ := inductionHypothesis.mp found
              exact ⟨⟨rfl, rfl⟩, fun same => equal same.symm, absent⟩
            · rintro ⟨⟨rfl, rfl⟩, _, absent⟩
              exact ⟨before, after,
                inductionHypothesis.mpr ⟨rfl, absent⟩, ⟨rfl, rfl⟩, rfl⟩

/-- The parts of a string between the occurrences of a mark. -/
def parts (mark : Char) (text : String) : List String :=
  (text.toList.splitOn mark).map String.ofList

/-- The strings joined with a mark between them. -/
def joined (mark : Char) (strings : List String) : String :=
  String.ofList ([mark].intercalate (strings.map String.toList))

/-- Whether a text occurs in another one. -/
def occursIn (part : List Char) : List Char → Bool
  | [] => part.isEmpty
  | c :: rest => part.isPrefixOf (c :: rest) || occursIn part rest

/-- The rest of a text after a given start. -/
def after? : (start text : List Char) → Option (List Char)
  | [], text => some text
  | _ :: _, [] => none
  | c :: start, d :: text => if c = d then after? start text else none

/-- A text goes on after a start exactly when it is that start and the rest. -/
theorem after?_eq_some_iff
    {start text rest : List Char} :
    after? start text = some rest ↔ text = start ++ rest := by
  induction start generalizing text with
  | nil => simp [after?]
  | cons c start inductionHypothesis =>
      cases text with
      | nil => simp [after?]
      | cons d text =>
          by_cases equal : c = d
          · simp [after?, equal, inductionHypothesis]
          · simp [after?, equal, Ne.symm equal]

end Text
end EnvTags
