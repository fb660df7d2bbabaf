import EnvTags.Proofs.Text.Spelling

/-!
# Decoding in machine words

The numbers of an escape are read in words of thirty-two binary digits. Here the
decoding of a literal is defined once more, with a check of every product and
every sum: the first one that does not fit in a word ends it. No body gets there,
since eight hexadecimal digits are the longest number that is read. So the checked
decoding always ends with the answer of the unchecked one.
-/

namespace EnvTags
namespace Text
namespace Checked

/-- A number in a word, or else the number as the failure. -/
def word (number : Nat) : Except Nat Nat :=
  if number < 2 ^ 32 then .ok number else .error number

theorem word_of_lt
    {number : Nat}
    (fits : number < 2 ^ 32) :
    word number = .ok number :=
  if_pos fits

/-! ## Digits -/

/-- Read exactly `count` digits after those that gave `value`. -/
def readDigits
    (base : Nat)
    (digit? : Char → Option Nat) :
    (count value : Nat) → List Char → Except Nat (Option (Nat × List Char))
  | 0, value, text => .ok (some (value, text))
  | count + 1, value, text =>
      match word (value * base) with
      | .error tooLarge => .error tooLarge
      | .ok product =>
          match text with
          | [] => .ok none
          | c :: text =>
              match digit? c with
              | none => .ok none
              | some digit =>
                  match word (product + digit) with
                  | .error tooLarge => .error tooLarge
                  | .ok sum => readDigits base digit? count sum text

/-- Digits fit in a word if the largest number that they could write does. -/
theorem readDigits_eq
    {base : Nat}
    (positive : 0 < base)
    {digit? : Char → Option Nat}
    (small : ∀ {c digit}, digit? c = some digit → digit < base)
    {count value : Nat}
    (fits : (value + 1) * base ^ count ≤ 2 ^ 32)
    (text : List Char) :
    readDigits base digit? count value text =
      .ok (Text.readDigits base digit? count value text) := by
  induction count generalizing value text with
  | zero => rfl
  | succ count inductionHypothesis =>
      rw [Nat.pow_succ', ← Nat.mul_assoc, Nat.add_mul, Nat.one_mul] at fits
      have room : value * base + base ≤ 2 ^ 32 :=
        Nat.le_trans (Nat.le_mul_of_pos_right _ (Nat.pow_pos positive)) fits
      have product : value * base < 2 ^ 32 := by omega
      rw [readDigits, word_of_lt product]
      cases text with
      | nil => rfl
      | cons c text =>
          simp only [Text.readDigits]
          cases isDigit : digit? c with
          | none => rfl
          | some digit =>
              have belowBase := small isDigit
              have sum : value * base + digit < 2 ^ 32 := by omega
              simp only [word_of_lt sum]
              apply inductionHypothesis
              calc (value * base + digit + 1) * base ^ count
                  ≤ (value * base + base) * base ^ count :=
                    Nat.mul_le_mul_right _ (by omega)
                _ ≤ 2 ^ 32 := fits

/-- Exactly `count` hexadecimal digits. -/
def hexNumber? (count : Nat) (text : List Char) :
    Except Nat (Option (Nat × List Char)) :=
  readDigits 16 hexValue? count 0 text

/-- Three octal digits, the first of which is known. -/
def octalNumber? (c : Char) (text : List Char) :
    Except Nat (Option (Nat × List Char)) :=
  match octalValue? c with
  | none => .ok none
  | some digit => readDigits 8 octalValue? 2 digit text

/-- Up to eight hexadecimal digits fit in a word. -/
theorem hexNumber?_eq
    {count : Nat}
    (short : count ≤ 8)
    (text : List Char) :
    hexNumber? count text = .ok (Text.hexNumber? count text) := by
  apply readDigits_eq (by decide) fun read => (Quoted.isDigit_of_hexValue? read).2
  calc (0 + 1) * 16 ^ count = 16 ^ count := by rw [Nat.zero_add, Nat.one_mul]
    _ ≤ 16 ^ 8 := Nat.pow_le_pow_right (by decide) short
    _ = 2 ^ 32 := by decide

theorem octalNumber?_eq (c : Char) (text : List Char) :
    octalNumber? c text = .ok (Text.octalNumber? 3 (c :: text)) := by
  rw [octalNumber?, Text.octalNumber?, Text.readDigits]
  cases isDigit : octalValue? c with
  | none => rfl
  | some digit =>
      have below := (Quoted.isDigit_of_octalValue? isDigit).2
      simp only [Nat.zero_mul, Nat.zero_add]
      apply readDigits_eq (by decide) fun read => (Quoted.isDigit_of_octalValue? read).2
      omega

/-! ## Units -/

/-- The bytes of the escape that starts with the letter `c` after the
backslash. -/
def escape? (c : Char) (rest : List Char) :
    Except Nat (Option (List UInt8 × List Char)) :=
  match Quoted.letterEscape? c with
  | some d => .ok (some (String.utf8EncodeChar d, rest))
  | none =>
      if c = 'x' then
        (hexNumber? 2 rest).map (Quoted.numberBytes? Quoted.byte?)
      else if c = 'u' then
        (hexNumber? 4 rest).map (Quoted.numberBytes? Quoted.codePointBytes?)
      else if c = 'U' then
        (hexNumber? 8 rest).map (Quoted.numberBytes? Quoted.codePointBytes?)
      else (octalNumber? c rest).map (Quoted.numberBytes? Quoted.byte?)

theorem escape?_eq (c : Char) (rest : List Char) :
    escape? c rest = .ok (Quoted.escape? c rest) := by
  rw [escape?, Quoted.escape?]
  cases Quoted.letterEscape? c with
  | some d => rfl
  | none =>
      simp only [hexNumber?_eq (by decide : 2 ≤ 8),
        hexNumber?_eq (by decide : 4 ≤ 8), hexNumber?_eq (Nat.le_refl 8),
        octalNumber?_eq, Except.map, apply_ite Except.ok]

/-- The bytes of the first unit of a body, with the rest of the body. -/
def unit? : List Char → Except Nat (Option (List UInt8 × List Char))
  | [] => .ok none
  | [c] =>
      if c = '\\' ∨ c = '"' ∨ c = '\n' then .ok none
      else .ok (some (String.utf8EncodeChar c, []))
  | c :: d :: rest =>
      if c = '\\' then escape? d rest
      else if c = '"' ∨ c = '\n' then .ok none
      else .ok (some (String.utf8EncodeChar c, d :: rest))

theorem unit?_eq (body : List Char) : unit? body = .ok (Quoted.unit? body) := by
  cases body with
  | nil => rfl
  | cons c text =>
      cases text <;>
        simp only [unit?, Quoted.unit?, escape?_eq, apply_ite Except.ok]

/-! ## Bodies -/

/-- The bytes of all units of a body. -/
def bytes? (body : List Char) : Except Nat (Option (List UInt8)) :=
  match body with
  | [] => .ok (some [])
  | c :: text =>
      match _ : unit? (c :: text) with
      | .error tooLarge => .error tooLarge
      | .ok none => .ok none
      | .ok (some (bytes, rest)) =>
          (bytes? rest).map (Option.map fun others => bytes ++ others)
termination_by body.length
decreasing_by
  rename_i read
  rw [unit?_eq] at read
  exact Quoted.length_of_unit? (Except.ok.inj read)

theorem bytes?_eq (body : List Char) :
    bytes? body = .ok (Quoted.bytes? body) := by
  fun_induction Quoted.bytes? body with
  | case1 => rw [bytes?]
  | case2 c text unread =>
      rw [bytes?]
      split <;> simp_all [unit?_eq]
  | case3 c text first rest read inductionHypothesis =>
      rw [bytes?]
      split <;> simp_all [unit?_eq, Except.map]

/-- The string that the body of an interpreted literal stands for. -/
def decode (body : List Char) : Except Nat (Option String) :=
  (bytes? body).map fun read =>
    read.bind fun bytes => String.fromUTF8? ⟨bytes.toArray⟩

/-- No product and no sum is too large for a word. -/
theorem decode_eq (body : List Char) :
    decode body = .ok (Quoted.decode body) := by
  rw [decode, bytes?_eq, Quoted.decode]
  cases Quoted.bytes? body <;> rfl

end Checked
end Text
end EnvTags
