/-!
# Base 64

Three bytes are written as four letters of the standard alphabet; a last group of one or two
bytes is filled up with `=`.
-/

namespace RelationGateway.Base64

/-- The letter of a number below sixty-four. -/
def letter (n : Nat) : Char :=
  if n < 26 then Char.ofNat ('A'.toNat + n)
  else if n < 52 then Char.ofNat ('a'.toNat + (n - 26))
  else if n < 62 then Char.ofNat ('0'.toNat + (n - 52))
  else if n = 62 then '+'
  else '/'

/-- The letters of up to three bytes read as one number of twenty-four bits. -/
def letters (n : Nat) : List Char :=
  [letter (n >>> 18 % 64), letter (n >>> 12 % 64), letter (n >>> 6 % 64), letter (n % 64)]

/-- The written bytes, given the letters written before in reverse. -/
def writeAfter (written : List Char) : List UInt8 → List Char
  | a :: b :: c :: rest =>
    let group := letters (a.toNat <<< 16 + b.toNat <<< 8 + c.toNat)
    writeAfter (group.reverse ++ written) rest
  | [a, b] => written.reverse ++ (letters (a.toNat <<< 16 + b.toNat <<< 8)).take 3 ++ ['=']
  | [a] => written.reverse ++ (letters (a.toNat <<< 16)).take 2 ++ ['=', '=']
  | [] => written.reverse

/-- The bytes in base 64. -/
def write (bytes : List UInt8) : String := String.ofList (writeAfter [] bytes)

example : write [] = "" := rfl
example : write [0x66, 0x6F, 0x6F, 0x62] = "Zm9vYg==" := by decide

end RelationGateway.Base64
