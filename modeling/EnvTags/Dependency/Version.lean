/-!
# Versions

Directories of a module cache carry versions. Versions are ordered by the numbers
in them first, so that `v1.10.0` stands above `v1.9.0`, and by their text where
the numbers agree.
-/

namespace EnvTags
namespace Dependency

/-- The greatest number that is told apart from greater ones: the last one of
sixty-four binary digits. -/
def greatestNumber : Nat := 18446744073709551615

/-- The number that a run of decimal digits writes, capped. -/
def numberOf (digits : List Char) : Nat :=
  min greatestNumber
    (digits.foldl (fun value c => value * 10 + (c.toNat - '0'.toNat)) 0)

/-- The numbers in a text, in order. -/
def numbersIn (text : List Char) : List Nat :=
  ((text.splitOnP fun c => !c.isDigit).filter fun run => !run.isEmpty).map
    numberOf

/-- What a version is ordered by. -/
structure VersionKey where
  /-- The numbers in the version. -/
  numbers : List Nat
  /-- The version itself. -/
  text : String
  deriving DecidableEq

/-- The key of a version. -/
def VersionKey.ofVersion (version : String) : VersionKey :=
  ⟨numbersIn version.toList, version⟩

/-- Whether a key stands below another one. -/
def VersionKey.isBelow (left right : VersionKey) : Bool :=
  left.numbers < right.numbers ||
    (left.numbers == right.numbers && left.text < right.text)

end Dependency
end EnvTags
