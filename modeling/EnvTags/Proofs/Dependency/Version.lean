import EnvTags.Dependency.ModuleCache
import Mathlib.Data.List.Lex
import Mathlib.Data.Prod.Lex
import Mathlib.Data.String.Basic

/-!
# Comparing versions

Versions are ordered linearly, by their numbers first. A search through a listing
keeps the better one of the best directory so far and the next directory with a
version.
-/

namespace EnvTags
namespace Dependency

/-! ## The order of versions -/

namespace VersionKey

/-- What a key is ordered by: the numbers before the text. -/
def rank (key : VersionKey) : List Nat ×ₗ String :=
  toLex (key.numbers, key.text)

theorem isBelow_iff {left right : VersionKey} :
    left.isBelow right = true ↔ left.rank < right.rank := by
  rw [rank, rank, Prod.Lex.toLex_lt_toLex, isBelow]
  simp

theorem rank_injective : Function.Injective rank := by
  intro left right same
  obtain ⟨numbers, text⟩ := Prod.ext_iff.mp (toLex.injective same)
  exact VersionKey.mk.injEq .. ▸ ⟨numbers, text⟩

end VersionKey

/-! ## Directories with a version -/

/-- The key and the name of a directory with a version of a segment. -/
def versioned? (segment : String) (entry : Name × Entry) :
    Option (VersionKey × Name) :=
  if entry.2.isDirectory then
    (version? segment entry.1).map fun version => (.ofVersion version, entry.1)
  else none

/-- The better of the best directory so far and another one. -/
def better
    (best : Option (VersionKey × Name))
    (other : VersionKey × Name) : VersionKey × Name :=
  match best with
  | none => other
  | some found => if found.1.isBelow other.1 then other else found

theorem betterVersion_eq
    (segment : String)
    (best : Option (VersionKey × Name))
    (entry : Name × Entry) :
    betterVersion segment best entry =
      match versioned? segment entry with
      | none => best
      | some other => some (better best other) := by
  unfold betterVersion versioned?
  cases version? segment entry.1 with
  | none => cases entry.2.isDirectory <;> rfl
  | some version =>
      cases entry.2.isDirectory with
      | false => rfl
      | true =>
          cases best with
          | none => rfl
          | some found =>
              simp only [if_true, Option.map_some, better]
              split <;> rfl

theorem better_of_lt
    {found other : VersionKey × Name}
    (below : found.1.rank < other.1.rank) :
    better (some found) other = other :=
  if_pos (VersionKey.isBelow_iff.mpr below)

theorem better_of_le
    {found other : VersionKey × Name}
    (above : other.1.rank ≤ found.1.rank) :
    better (some found) other = found :=
  if_neg (mt VersionKey.isBelow_iff.mp above.not_gt)

end Dependency
end EnvTags
