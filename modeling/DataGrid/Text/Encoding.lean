/-!
Decoding bytes to characters: UTF-8, UTF-16 and UTF-32, and the encoding that the first bytes of a
JSON document show. A surrogate without its partner has no character; where it is let through, a
private character of the last plane stands for it.
-/

namespace DataGrid.Text

inductive Encoding where
  | utf8 | utf16 (bigEndian : Bool) | utf32 (bigEndian : Bool)
  deriving DecidableEq, Repr

def isSurrogate (n : Nat) : Bool := 0xD800 ≤ n && n ≤ 0xDFFF

/-- What the numbers of surrogates and of the characters that stand for them differ by. -/
def surrogateShift : Nat := 0x100000

/-- The character of a code unit, a surrogate without its partner among them. -/
def charOfUnit (n : Nat) : Char := Char.ofNat (if isSurrogate n then n + surrogateShift else n)

def surrogateOf? (c : Char) : Option Nat :=
  let n := c.toNat - surrogateShift
  if isSurrogate n then some n else none

/-- The character of a number, when it is one; surrogates count only where they are let through. -/
def charOf? (surrogates : Bool) (n : Nat) : Option Char :=
  if isSurrogate n then if surrogates then some (charOfUnit n) else none
  else if n ≤ 0x10FFFF then some (Char.ofNat n)
  else none

def tail? (b : UInt8) : Option Nat :=
  if 0x80 ≤ b.toNat ∧ b.toNat ≤ 0xBF then some (b.toNat - 0x80) else none

/-- Decodes UTF-8; overlong forms and bytes out of place are refused. -/
def decodeUtf8 (surrogates : Bool) : List UInt8 → Option (List Char)
  | [] => some []
  | a :: rest =>
    let lead := a.toNat
    if lead < 0x80 then (decodeUtf8 surrogates rest).map (Char.ofNat lead :: ·)
    else if 0xC2 ≤ lead && lead ≤ 0xDF then
      match rest with
      | b :: rest => do
        let b ← tail? b
        let c ← charOf? surrogates ((lead - 0xC0) * 0x40 + b)
        (decodeUtf8 surrogates rest).map (c :: ·)
      | _ => none
    else if 0xE0 ≤ lead && lead ≤ 0xEF then
      match rest with
      | b :: c :: rest => do
        let b ← tail? b
        let c ← tail? c
        let n := (lead - 0xE0) * 0x1000 + b * 0x40 + c
        let c ← if n < 0x800 then none else charOf? surrogates n
        (decodeUtf8 surrogates rest).map (c :: ·)
      | _ => none
    else if 0xF0 ≤ lead && lead ≤ 0xF4 then
      match rest with
      | b :: c :: d :: rest => do
        let b ← tail? b
        let c ← tail? c
        let d ← tail? d
        let n := (lead - 0xF0) * 0x40000 + b * 0x1000 + c * 0x40 + d
        let c ← if n < 0x10000 then none else charOf? surrogates n
        (decodeUtf8 surrogates rest).map (c :: ·)
      | _ => none
    else none

def units16 (bigEndian : Bool) : List UInt8 → Option (List Nat)
  | [] => some []
  | [_] => none
  | a :: b :: rest =>
    (units16 bigEndian rest).map
      ((if bigEndian then a.toNat * 0x100 + b.toNat else b.toNat * 0x100 + a.toNat) :: ·)

def joinSurrogates : List Nat → List Nat
  | high :: low :: rest =>
    if 0xD800 ≤ high && high ≤ 0xDBFF && 0xDC00 ≤ low && low ≤ 0xDFFF then
      (0x10000 + (high - 0xD800) * 0x400 + (low - 0xDC00)) :: joinSurrogates rest
    else high :: joinSurrogates (low :: rest)
  | units => units

def units32 (bigEndian : Bool) : List UInt8 → Option (List Nat)
  | [] => some []
  | a :: b :: c :: d :: rest =>
    let n :=
      if bigEndian then ((a.toNat * 0x100 + b.toNat) * 0x100 + c.toNat) * 0x100 + d.toNat
      else ((d.toNat * 0x100 + c.toNat) * 0x100 + b.toNat) * 0x100 + a.toNat
    (units32 bigEndian rest).map (n :: ·)
  | _ => none

def decode (encoding : Encoding) (surrogates : Bool) (content : List UInt8) : Option (List Char) :=
  match encoding with
  | .utf8 => decodeUtf8 surrogates content
  | .utf16 big => (units16 big content).bind fun units => (joinSurrogates units).mapM (charOf? surrogates)
  | .utf32 big => (units32 big content).bind fun units => units.mapM (charOf? surrogates)

/-- The encoding of a JSON document and its bytes after a byte order mark: the mark decides, else the
places of the zero bytes among the first four. -/
def detect : List UInt8 → Encoding × List UInt8
  | 0x00 :: 0x00 :: 0xFE :: 0xFF :: rest => (.utf32 true, rest)
  | 0xFF :: 0xFE :: 0x00 :: 0x00 :: rest => (.utf32 false, rest)
  | 0xFE :: 0xFF :: rest => (.utf16 true, rest)
  | 0xFF :: 0xFE :: rest => (.utf16 false, rest)
  | 0xEF :: 0xBB :: 0xBF :: rest => (.utf8, rest)
  | content@(a :: b :: c :: d :: _) =>
    if a = 0 then (if b = 0 then .utf32 true else .utf16 true, content)
    else if b = 0 then (if c = 0 && d = 0 then .utf32 false else .utf16 false, content)
    else (.utf8, content)
  | content@(a :: b :: []) => (if a = 0 then .utf16 true else if b = 0 then .utf16 false else .utf8, content)
  | content => (.utf8, content)

end DataGrid.Text
