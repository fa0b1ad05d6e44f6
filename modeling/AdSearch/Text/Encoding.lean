/-!
# Encodings of text

Octets are decoded to code points.  Unpaired surrogates pass, since a text may name them; whether
the result is a text of characters is decided afterwards.
-/

namespace AdSearch.Text

/-- Where a decoder of UTF-8 stands: between characters, or owing `owed + 1` octets of which the
next lies between `lo` and `hi`. -/
inductive Utf8State where
  | start
  | inside (owed lo hi value : Nat)

/-- What a first octet leads to: a code point, a broken octet, or a longer sequence. -/
def utf8Open (surrogates : Bool) (b : Nat) : Option Nat ⊕ Utf8State :=
  if b < 0x80 then .inl (some b)
  else if b < 0xC2 then .inl none
  else if b < 0xE0 then .inr (.inside 0 0x80 0xBF (b - 0xC0))
  else if b = 0xE0 then .inr (.inside 1 0xA0 0xBF 0)
  else if b = 0xED ∧ !surrogates then .inr (.inside 1 0x80 0x9F 0xD)
  else if b < 0xF0 then .inr (.inside 1 0x80 0xBF (b - 0xE0))
  else if b = 0xF0 then .inr (.inside 2 0x90 0xBF 0)
  else if b < 0xF4 then .inr (.inside 2 0x80 0xBF (b - 0xF0))
  else if b = 0xF4 then .inr (.inside 2 0x80 0x8F 4)
  else .inl none

/-- The code points of octets in UTF-8, with nothing for each longest broken sequence. -/
def utf8Points (surrogates : Bool) : Utf8State → List Nat → List (Option Nat)
  | .start, [] => []
  | .inside .., [] => [none]
  | .start, b :: bs =>
    match utf8Open surrogates b with
    | .inl point => point :: utf8Points surrogates .start bs
    | .inr state => utf8Points surrogates state bs
  | .inside owed lo hi value, b :: bs =>
    if lo ≤ b ∧ b ≤ hi then
      match owed with
      | 0 => some (64 * value + (b - 0x80)) :: utf8Points surrogates .start bs
      | n + 1 => utf8Points surrogates (.inside n 0x80 0xBF (64 * value + (b - 0x80))) bs
    else
      match utf8Open surrogates b with
      | .inl point => none :: point :: utf8Points surrogates .start bs
      | .inr state => none :: utf8Points surrogates state bs

/-- All values of a list, if none is missing. -/
def allSome {α : Type} : List (Option α) → Option (List α)
  | [] => some []
  | none :: _ => none
  | some a :: rest => (allSome rest).map (a :: ·)

/-- The code points of UTF-8, surrogates included. -/
def utf8? (bs : List Nat) : Option (List Nat) := allSome (utf8Points true .start bs)

/-- The text of UTF-8, with U+FFFD for each longest broken sequence. -/
def utf8Lossy (bs : List Nat) : String :=
  String.ofList ((utf8Points false .start bs).map fun point => Char.ofNat (point.getD 0xFFFD))

/-- The units of octets in pairs, the greater octet first if `big`. -/
def pairs? (big : Bool) : List Nat → Option (List Nat)
  | [] => some []
  | [_] => none
  | a :: b :: rest => (pairs? big rest).map ((if big then 256 * a + b else 256 * b + a) :: ·)

/-- Whether a code point is the first half of a surrogate pair. -/
def isHighSurrogate (n : Nat) : Bool := 0xD800 ≤ n && n ≤ 0xDBFF

/-- Whether a code point is the second half of a surrogate pair. -/
def isLowSurrogate (n : Nat) : Bool := 0xDC00 ≤ n && n ≤ 0xDFFF

def joinSurrogates (high low : Nat) : Nat := 0x10000 + 1024 * (high - 0xD800) + (low - 0xDC00)

/-- The code points of UTF-16 units; an unpaired surrogate stands for itself. -/
def utf16Points : List Nat → List Nat
  | [] => []
  | [unit] => [unit]
  | high :: low :: rest =>
    if isHighSurrogate high && isLowSurrogate low then
      joinSurrogates high low :: utf16Points rest
    else high :: utf16Points (low :: rest)

def utf16? (big : Bool) (bs : List Nat) : Option (List Nat) := (pairs? big bs).map utf16Points

def utf32? (big : Bool) : List Nat → Option (List Nat)
  | [] => some []
  | a :: b :: c :: d :: rest =>
    let n := if big then ((a * 256 + b) * 256 + c) * 256 + d
      else ((d * 256 + c) * 256 + b) * 256 + a
    if n < 0x110000 then (utf32? big rest).map (n :: ·) else none
  | _ => none

/-- The code points of octets whose encoding is told by a byte order mark, else by the zeros among
the first four octets. -/
def decodePoints? (bs : List Nat) : Option (List Nat) :=
  match bs with
  | 0 :: 0 :: 0xFE :: 0xFF :: rest => utf32? true rest
  | 0xFF :: 0xFE :: 0 :: 0 :: rest => utf32? false rest
  | 0xFE :: 0xFF :: rest => utf16? true rest
  | 0xFF :: 0xFE :: rest => utf16? false rest
  | 0xEF :: 0xBB :: 0xBF :: rest => utf8? rest
  | 0 :: 0 :: _ :: _ :: _ => utf32? true bs
  | 0 :: _ :: _ :: _ :: _ => utf16? true bs
  | _ :: 0 :: 0 :: 0 :: _ => utf32? false bs
  | _ :: 0 :: _ :: _ :: _ => utf16? false bs
  | [0, _] => utf16? true bs
  | [_, 0] => utf16? false bs
  | _ => utf8? bs

def isScalar (n : Nat) : Bool := n < 0xD800 || (0xDFFF < n && n < 0x110000)

/-- The text of code points, if each is a character. -/
def ofPoints? (points : List Nat) : Option String :=
  if points.all isScalar then some (String.ofList (points.map Char.ofNat)) else none

def utf8Octets (s : String) : List Nat := s.toUTF8.toList.map UInt8.toNat

end AdSearch.Text
