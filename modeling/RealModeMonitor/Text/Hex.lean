/-!
# Numbers in base sixteen

Addresses, ports and vectors are written in lower case digits. `hex` puts `0x` in front;
`paddedHex` fills with zeros up to a number of digits.
-/

namespace RealModeMonitor.Text

/-- At least `width` digits of `n` in base 16, without a mark. -/
def hexDigits (width n : Nat) : String :=
  let digits := Nat.toDigits 16 n
  String.ofList (List.replicate (width - digits.length) '0' ++ digits)

/-- `n` in base 16 after `0x`, in at least `width` digits. -/
def paddedHex (width n : Nat) : String := "0x" ++ hexDigits width n

/-- `n` in base 16 after `0x`, in as many digits as it needs. -/
def hex (n : Nat) : String := paddedHex 1 n

/-- A byte: `0x` and two digits. -/
def hexByte (b : UInt8) : String := paddedHex 2 b.toNat

end RealModeMonitor.Text
