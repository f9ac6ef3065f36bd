/-
Numbers of YAML documents.

A plain scalar is an integer if it is written in decimal without leading zeros, or after
`0x`, `0o` or `0b` in base sixteen, eight or two; a sign may stand before it.  It is a
floating point number if it is written with digits, a point or an exponent, or as one of
the names of infinity and of what is not a number.  As text, an integer is decimal, and a
floating point number is written with the fewest digits that read back.
-/
import Adventure.Decimal.Shortest

namespace Adventure.Yaml

open Adventure.Decimal (Binary64 shortest twoTo)

/-- A number. -/
inductive Number where
  | int (n : Int)
  | float (x : Binary64)
  deriving DecidableEq, Repr

/-! ### Reading integers -/

/-- The value of a digit in any base up to sixteen. -/
def digitValue? (base : Nat) (c : Char) : Option Nat :=
  let value :=
    if c.isDigit then c.toNat - '0'.toNat
    else if 'a' ≤ c ∧ c ≤ 'f' then c.toNat - 'a'.toNat + 10
    else if 'A' ≤ c ∧ c ≤ 'F' then c.toNat - 'A'.toNat + 10
    else 16
  if value < base then some value else none

/-- The number that one digit or more spell in a base. -/
def natural? (base : Nat) (cs : List Char) : Option Nat := do
  guard !cs.isEmpty
  cs.foldlM (fun n c => do return base * n + (← digitValue? base c)) 0

/-- Whether the text is a zero with digits behind it, which is no number. -/
def hasLeadingZero (cs : List Char) : Bool :=
  let digits :=
    match cs with
    | '-' :: rest | '+' :: rest => rest
    | cs => cs
  match digits with
  | '0' :: rest => !rest.isEmpty && rest.all Char.isDigit
  | _ => false

/-- The natural number after a base mark, if the text starts with one and digits of that
base follow. -/
def based? : List Char → Option Nat
  | '0' :: 'x' :: digits => natural? 16 digits
  | '0' :: 'o' :: digits => natural? 8 digits
  | '0' :: 'b' :: digits => natural? 2 digits
  | _ => none

/-- The integer that a text spells. -/
def integer? (cs : List Char) : Option Int :=
  let decimal? digits := if hasLeadingZero cs then none else natural? 10 digits
  match cs with
  | '-' :: rest => ((based? rest).or (decimal? rest)).map fun n => -(n : Int)
  | '+' :: rest => ((based? rest).or (decimal? rest)).map Int.ofNat
  | _ => ((based? cs).or (decimal? cs)).map Int.ofNat

/-- Whether an integer can be held: 64 bits, signed or not. -/
def fits (n : Int) : Bool :=
  -(twoTo 63 : Int) ≤ n && n < twoTo 64

/-- Whether an integer is refused rather than read as a floating point number: it fits in
128 bits, signed or not. -/
def fitsDouble (n : Int) : Bool :=
  -(twoTo 127 : Int) ≤ n && n < twoTo 128

/-! ### Reading floating point numbers -/

/-- The exponent after the digits of a number: none where it is badly written. -/
def exponentValue? : List Char → Option Int
  | [] => some 0
  | mark :: rest =>
    if mark == 'e' || mark == 'E' then
      match rest with
      | '-' :: digits => (natural? 10 digits).map fun n => -(n : Int)
      | '+' :: digits => (natural? 10 digits).map Int.ofNat
      | digits => (natural? 10 digits).map Int.ofNat
    else none

/-- The finite number that a text without sign spells. -/
def unsignedFloat? (negative : Bool) (cs : List Char) : Option Binary64 := do
  let whole := cs.takeWhile Char.isDigit
  let rest := cs.dropWhile Char.isDigit
  let (fraction, rest) :=
    match rest with
    | '.' :: rest => (rest.takeWhile Char.isDigit, rest.dropWhile Char.isDigit)
    | rest => ([], rest)
  let digits ← natural? 10 (whole ++ fraction)
  let exponent ← exponentValue? rest
  match Binary64.ofDecimal negative digits (exponent - fraction.length) with
  | .finite negative mantissa exponent => return .finite negative mantissa exponent
  | _ => none

/-- The floating point number that a text spells. -/
def float? (text : String) : Option Binary64 :=
  let unsigned := if text.startsWith "+" then (text.drop 1).toString else text
  if [".inf", ".Inf", ".INF"].contains unsigned then some (.infinite false)
  else if ["-.inf", "-.Inf", "-.INF"].contains text then some (.infinite true)
  else if [".nan", ".NaN", ".NAN"].contains text then some .nan
  else
    match text.toList with
    | '+' :: rest => unsignedFloat? false rest
    | '-' :: rest => unsignedFloat? true rest
    | cs => unsignedFloat? false cs

/-! ### Writing -/

namespace Number

/-- How floating point numbers are written: those from `10 ^ (least - 1)` up to, and
without, `10 ^ greatest` are written positionally, and others with an exponent. -/
structure FloatStyle where
  least : Int
  greatest : Int

/-- Numbers are written positionally from 0.00001 up to sixteen whole digits. -/
def floatStyle : FloatStyle :=
  ⟨-4, 16⟩

/-- The text of `digits * 10 ^ power`, without sign.  Whole numbers keep a `.0`. -/
def positional (digits : List Char) (power : Int) : List Char :=
  let point := (digits.length : Int) + power
  if 0 ≤ power then digits ++ List.replicate power.toNat '0' ++ ['.', '0']
  else if 0 < point then digits.take point.toNat ++ '.' :: digits.drop point.toNat
  else '0' :: '.' :: List.replicate (-point).toNat '0' ++ digits

/-- The text of `digits * 10 ^ power` with an exponent, without sign. -/
def scientific (digits : List Char) (power : Int) : List Char :=
  let exponent := (toString ((digits.length : Int) + power - 1)).toList
  match digits with
  | [digit] => digit :: 'e' :: exponent
  | first :: rest => first :: '.' :: rest ++ 'e' :: exponent
  | [] => []

/-- The text of a finite number that is not negative. -/
def magnitudeText (mantissa : Nat) (exponent : Int) : List Char :=
  if mantissa == 0 then ['0', '.', '0']
  else
    let (value, power) := shortest mantissa exponent
    let digits := Nat.toDigits 10 value
    let point := (digits.length : Int) + power
    if floatStyle.least ≤ point && point ≤ floatStyle.greatest then positional digits power
    else scientific digits power

/-- The text of a floating point number. -/
def floatText : Binary64 → String
  | .nan => ".nan"
  | .infinite negative => if negative then "-.inf" else ".inf"
  | .finite negative mantissa exponent =>
    String.ofList ((if negative then ['-'] else []) ++ magnitudeText mantissa exponent)

/-- The text of a number. -/
def text : Number → String
  | int n => toString n
  | float x => floatText x

/-- Whether two numbers are equal; an integer never equals a floating point number. -/
def same : Number → Number → Bool
  | int m, int n => m == n
  | float x, float y => x.same y
  | _, _ => false

end Number

end Adventure.Yaml
