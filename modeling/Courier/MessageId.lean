/-! Message ids: universally unique identifiers of version 4 in lower case. -/
namespace Courier.MessageId

def isHexDigit (c : Char) : Bool := c.isDigit || ('a' ≤ c && c ≤ 'f')

/-- The character `c` may stand at place `i` of an id. -/
def fits (i : Nat) (c : Char) : Bool :=
  if i = 8 ∨ i = 13 ∨ i = 18 ∨ i = 23 then c = '-'
  else if i = 14 then c = '4'
  else if i = 19 then c = '8' ∨ c = '9' ∨ c = 'a' ∨ c = 'b'
  else isHexDigit c

def isGenerated (id : String) : Bool :=
  id.toList.length == 36 && id.toList.zipIdx.all fun (c, i) => fits i c

def hexDigit (n : Nat) : Char := if n < 10 then Char.ofNat (48 + n) else Char.ofNat (87 + n)

/-- The last `count` digits of `n` in base 16. -/
def hexDigits (n : Nat) : Nat → List Char
  | 0 => []
  | count + 1 => hexDigits (n / 16) count ++ [hexDigit (n % 16)]

/-- The id with the number `n` as its free digits. -/
def ofNat (n : Nat) : String :=
  let free := hexDigits n 30
  String.ofList (free.take 8 ++ '-' :: (free.drop 8).take 4 ++ '-' :: '4' ::
    (free.drop 12).take 3 ++ '-' :: '8' :: (free.drop 15).take 3 ++ '-' :: free.drop 18)

end Courier.MessageId
