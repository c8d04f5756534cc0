/-
  Bytes as UTF-8 text. `decode?` reads well-formed UTF-8 only; `decodeLossy` puts U+FFFD for
  each maximal ill-formed part, as the Unicode standard recommends.
-/

namespace BulkSuppress.Utf8

/-- The bytes of a string. -/
def encode (s : String) : ByteArray := s.toUTF8

/-- The string that the bytes encode, or nothing when they are not well-formed UTF-8. -/
def decode? (bytes : ByteArray) : Option String := String.fromUTF8? bytes

/-- What the front of a byte sequence holds. -/
inductive Part where
  /-- A well-formed character in `width` bytes. -/
  | char (c : Char) (width : Nat)
  /-- A maximal ill-formed part of `width` bytes. -/
  | bad (width : Nat)

/-- The range that the byte after the first byte `b` has to lie in. -/
def secondRange (b : Nat) : Nat × Nat :=
  if b = 0xE0 then (0xA0, 0xBF)
  else if b = 0xED then (0x80, 0x9F)
  else if b = 0xF0 then (0x90, 0xBF)
  else if b = 0xF4 then (0x80, 0x8F)
  else (0x80, 0xBF)

/-- The number of bytes that the first byte `b` announces, zero for a byte that starts nothing. -/
def announced (b : Nat) : Nat :=
  if b < 0x80 then 1
  else if 0xC2 ≤ b && b ≤ 0xDF then 2
  else if 0xE0 ≤ b && b ≤ 0xEF then 3
  else if 0xF0 ≤ b && b ≤ 0xF4 then 4
  else 0

/-- The number of continuation bytes, at most `n`, at the front; the first lies in `range`. -/
def continued : Nat → Nat × Nat → List UInt8 → Nat
  | 0, _, _ => 0
  | _ + 1, _, [] => 0
  | n + 1, range, b :: rest =>
    if range.1 ≤ b.toNat && b.toNat ≤ range.2 then continued n (0x80, 0xBF) rest + 1 else 0

/-- The code point that a lead byte with its continuation bytes spells. -/
def codePoint (b : UInt8) (tail : List UInt8) : Nat :=
  let lead := match tail.length with
    | 0 => b.toNat
    | 1 => b.toNat % 0x20
    | 2 => b.toNat % 0x10
    | _ => b.toNat % 0x08
  tail.foldl (fun acc t => acc * 0x40 + t.toNat % 0x40) lead

/-- The part at the front of the bytes `b :: rest`. -/
def partAt (b : UInt8) (rest : List UInt8) : Part :=
  match announced b.toNat with
  | 0 => .bad 1
  | n + 1 =>
    let k := continued n (secondRange b.toNat) rest
    if k = n then .char (Char.ofNat (codePoint b (rest.take n))) (n + 1) else .bad (k + 1)

/-- The number of bytes from the first ill-formed part on, zero if there is none. -/
def spoiltLength : List UInt8 → Nat
  | [] => 0
  | b :: rest =>
    match partAt b rest with
    | .char _ width => spoiltLength (rest.drop (width - 1))
    | .bad _ => rest.length + 1
termination_by bytes => bytes.length
decreasing_by all_goals simp only [List.length_drop, List.length_cons]; omega

/-- The text of the bytes with U+FFFD for each maximal ill-formed part. -/
def lossyChars : List UInt8 → List Char
  | [] => []
  | b :: rest =>
    match partAt b rest with
    | .char c width => c :: lossyChars (rest.drop (width - 1))
    | .bad width => '\uFFFD' :: lossyChars (rest.drop (width - 1))
termination_by bytes => bytes.length
decreasing_by all_goals simp only [List.length_drop, List.length_cons]; omega

/-- The string of the bytes with U+FFFD for each maximal ill-formed part. -/
def decodeLossy (bytes : ByteArray) : String :=
  String.ofList (lossyChars bytes.data.toList)

end BulkSuppress.Utf8
