import WholeFile.Bytes

/-!
# Bytes as text

UTF-8 read without failing: whatever starts no character shows as the replacement character, once
for each longest run of bytes that could have begun one.
-/

namespace WholeFile.Text

def replacement : Char := '\ufffd'

/-- The bytes that may follow a lead byte, as ranges, one for each place. No place for a byte that
leads nothing. -/
def followers (lead : UInt8) : List (UInt8 × UInt8) :=
  if lead < 0xc2 then []
  else if lead < 0xe0 then [(0x80, 0xbf)]
  else if lead < 0xf0 then
    [(if lead = 0xe0 then 0xa0 else 0x80, if lead = 0xed then 0x9f else 0xbf), (0x80, 0xbf)]
  else if lead < 0xf5 then
    [(if lead = 0xf0 then 0x90 else 0x80, if lead = 0xf4 then 0x8f else 0xbf), (0x80, 0xbf),
      (0x80, 0xbf)]
  else []

/-- The leading bytes of `rest` that fall into the ranges, place by place. -/
def matching (ranges : List (UInt8 × UInt8)) (rest : Bytes) : Bytes :=
  ((ranges.zip rest).takeWhile fun (range, b) => range.1 ≤ b && b ≤ range.2).map (·.2)

/-- The character of a lead byte and its continuation bytes, six bits from each of these. The lead
byte gives one bit less for each byte that follows. -/
def assembled (lead : UInt8) (tail : Bytes) : Char :=
  let leading := lead.toNat % (64 >>> tail.length)
  Char.ofNat (tail.foldl (fun bits b => bits * 64 + b.toNat % 64) leading)

/-- The first character of `lead :: rest`, and how many bytes of `rest` belong to it. -/
def firstChar (lead : UInt8) (rest : Bytes) : Char × Nat :=
  if lead < 0x80 then (Char.ofNat lead.toNat, 0)
  else
    let places := followers lead
    let tail := matching places rest
    if places ≠ [] ∧ tail.length = places.length then (assembled lead tail, tail.length)
    else (replacement, tail.length)

def lossyChars : Bytes → List Char
  | [] => []
  | lead :: rest => (firstChar lead rest).1 :: lossyChars (rest.drop (firstChar lead rest).2)
termination_by bytes => bytes.length
decreasing_by simp only [List.length_drop, List.length_cons]; omega

def lossy (bytes : Bytes) : String := String.ofList (lossyChars bytes)

example : lossyChars [0x61, 0xc3, 0xa9, 0xf0, 0x9f, 0x98, 0x80] = ['a', 'é', '😀'] := by
  decide +kernel

/-- A lead byte that could not go on, a surrogate, and a sequence cut short. -/
example : lossyChars [0xff, 0xed, 0xa0, 0x80, 0xe6, 0xbc] =
    [replacement, replacement, replacement, replacement, replacement] := by decide +kernel

end WholeFile.Text
