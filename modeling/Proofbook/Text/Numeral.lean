namespace Proofbook.Text

def numeral (n : Nat) : String := String.ofList (Nat.toDigits 10 n)

def signedNumeral (n : Int) : String := if n < 0 then "-" ++ numeral n.natAbs else numeral n.natAbs

end Proofbook.Text
