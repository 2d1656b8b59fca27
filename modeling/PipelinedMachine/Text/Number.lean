/-!
# Numbers as text

How numbers are read from names and arguments: decimal digits, with an optional sign in front and
nothing else, neither blanks nor separators.

* `readDigits?` — digits alone;
* `readUnsigned?` — with an optional plus sign, up to a limit;
* `readSigned?` — with an optional sign, between two limits;
* `padLeft`, `padRight` — the fixed widths of a report.

Main statement: `readUnsigned?_toString`, a number up to the limit is read from its own digits.
-/

namespace PipelinedMachine

/-- The value of a decimal digit. -/
def digitValue? (c : Char) : Option Nat :=
  if '0' ≤ c ∧ c ≤ '9' then some (c.toNat - '0'.toNat) else none

/-- The number that `cs` continues, if the digits in front of them come to `value`. -/
def readDigitsFrom? (value : Nat) : List Char → Option Nat
  | [] => some value
  | c :: cs => (digitValue? c).bind fun digit => readDigitsFrom? (10 * value + digit) cs

/-- The number written with the given digits, of which there must be at least one. -/
def readDigits? (cs : List Char) : Option Nat :=
  if cs.isEmpty then none else readDigitsFrom? 0 cs

/-- A number without a minus sign, at most `limit`. -/
def readUnsigned? (limit : Nat) (text : String) : Option Nat :=
  let number? := match text.toList with
    | '+' :: cs => readDigits? cs
    | cs => readDigits? cs
  number?.filter fun number => number ≤ limit

/-- A number with an optional sign, from `least` to `greatest`. -/
def readSigned? (least greatest : Int) (text : String) : Option Int :=
  let number? : Option Int := match text.toList with
    | '+' :: cs => (readDigits? cs).map Int.ofNat
    | '-' :: cs => (readDigits? cs).map fun number => -Int.ofNat number
    | cs => (readDigits? cs).map Int.ofNat
  number?.filter fun number => least ≤ number ∧ number ≤ greatest

/-- The largest number that fits in 64 bits. -/
def maxUnsigned64 : Nat := UInt64.size - 1

theorem readDigitsFrom?_of_isDigit {cs : List Char} (digits : ∀ c ∈ cs, c.isDigit = true)
    (value : Nat) : readDigitsFrom? value cs = some (Nat.ofDigitChars 10 cs value) := by
  induction cs generalizing value with
  | nil => rfl
  | cons c cs ih =>
      have hc : '0' ≤ c ∧ c ≤ '9' := by
        simpa [Char.isDigit, Char.le_def] using digits c List.mem_cons_self
      rw [readDigitsFrom?, digitValue?, if_pos hc, Option.bind_some,
        ih fun c hc => digits c (List.mem_cons_of_mem _ hc)]
      rfl

/-- A number up to the limit is read from its own digits. -/
theorem readUnsigned?_toString {limit number : Nat} (h : number ≤ limit) :
    readUnsigned? limit (toString number) = some number := by
  have digits : ∀ c ∈ Nat.toDigits 10 number, c.isDigit = true := fun _ hc =>
    Nat.isDigit_of_mem_toDigits (by decide) (by decide) hc
  have hread : readDigits? (Nat.toDigits 10 number) = some number := by
    rw [readDigits?, if_neg (by simp [Nat.toDigits_ne_nil]), readDigitsFrom?_of_isDigit digits,
      Nat.ofDigitChars_ten_toDigits]
  have hplus : ∀ cs, Nat.toDigits 10 number ≠ '+' :: cs := by
    intro cs hcs
    exact absurd (digits '+' (hcs ▸ List.mem_cons_self)) (by decide)
  rw [readUnsigned?, show (toString number).toList = Nat.toDigits 10 number by simp]
  -- `hplus` is what rules the first case out
  simp [hread, h]

/-- The text with blanks in front, up to the given width. -/
def padLeft (width : Nat) (text : String) : String :=
  String.ofList (List.replicate (width - text.length) ' ') ++ text

/-- The text with blanks after it, up to the given width. -/
def padRight (width : Nat) (text : String) : String :=
  text ++ String.ofList (List.replicate (width - text.length) ' ')

end PipelinedMachine
