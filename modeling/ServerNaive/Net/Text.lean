import ServerNaive.Net.IpText

/-! Text as the standard library cuts, trims and decodes it. -/
namespace StdNet
open AsyncIo

/-- Unicode's `White_Space`. -/
def isWhitespace (c : Char) : Bool :=
  (0x09 ≤ c.toNat && c.toNat ≤ 0x0d) || c.toNat == 0x20 || c.toNat == 0x85 || c.toNat == 0xa0 ||
    c.toNat == 0x1680 || (0x2000 ≤ c.toNat && c.toNat ≤ 0x200a) || c.toNat == 0x2028 ||
    c.toNat == 0x2029 || c.toNat == 0x202f || c.toNat == 0x205f || c.toNat == 0x3000

/-- As `str::trim`. -/
def trim (s : Text) : Text := ((s.dropWhile isWhitespace).reverse.dropWhile isWhitespace).reverse

/-- The text before and after the first `c`. -/
def splitFirst (c : Char) : Text → Option (Text × Text)
  | [] => none
  | d :: s => if d = c then some ([], s) else (splitFirst c s).map fun (front, back) => (d :: front, back)

/-- The text before and after the last `c`. -/
def splitLast (c : Char) (s : Text) : Option (Text × Text) :=
  (splitFirst c s.reverse).map fun (back, front) => (front.reverse, back.reverse)

/-- As `str::strip_prefix`. -/
def stripFront (front s : Text) : Option Text :=
  if front.isPrefixOf s then some (s.drop front.length) else none

/-- The digits of a whole number that fits in 16 bits. -/
def parseDigits16 (s : Text) : Option UInt16 :=
  let (ds, rest) := spanDigits 10 s
  if ds = [] ∨ rest ≠ [] then none
  else if ofDigits 10 ds < 65536 then some (UInt16.ofNat (ofDigits 10 ds)) else none

/-- As `str::parse::<u16>`, which takes a plus sign in front. -/
def parseU16 : Text → Option UInt16
  | '+' :: s => parseDigits16 s
  | s => parseDigits16 s

example : parseU16 "+443".toList = some 443 ∧ parseU16 "0080".toList = some 80 ∧
    parseU16 "65536".toList = none ∧ parseU16 "".toList = none := by decide

/-- As the `Display` of a socket address. -/
def SocketAddr.toString (addr : SocketAddr) : String :=
  match addr.ip with
  | .v4 ip => ip.toString ++ ":" ++ String.ofList (Nat.toDigits 10 addr.port.toNat)
  | .v6 ip => "[" ++ ip.toString ++ "]:" ++ String.ofList (Nat.toDigits 10 addr.port.toNat)

/-! UTF-8, as far as its errors go. -/

/-- What stands at the front of a byte string: a character of so many bytes, a sequence that is
wrong after so many, or one that ends too early. -/
inductive Utf8Front where
  | char (value bytes : Nat)
  | invalid (bytes : Nat)
  | incomplete
  deriving DecidableEq

/-- The width of a sequence and the range of its second byte. -/
def utf8Shape (first : UInt8) : Option (Nat × UInt8 × UInt8) :=
  if 0xc2 ≤ first ∧ first ≤ 0xdf then some (2, 0x80, 0xbf)
  else if first = 0xe0 then some (3, 0xa0, 0xbf)
  else if first = 0xed then some (3, 0x80, 0x9f)
  else if 0xe1 ≤ first ∧ first ≤ 0xef then some (3, 0x80, 0xbf)
  else if first = 0xf0 then some (4, 0x90, 0xbf)
  else if 0xf1 ≤ first ∧ first ≤ 0xf3 then some (4, 0x80, 0xbf)
  else if first = 0xf4 then some (4, 0x80, 0x8f)
  else none

/-- The bytes after the second; `seen` bytes are read. -/
def utf8Tail : Nat → Nat → Nat → Bytes → Utf8Front
  | 0, seen, value, _ => .char value seen
  | _ + 1, _, _, [] => .incomplete
  | more + 1, seen, value, b :: bs =>
      if 0x80 ≤ b ∧ b ≤ 0xbf then utf8Tail more (seen + 1) (value * 64 + (b.toNat - 0x80)) bs
      else .invalid seen

def utf8Front (first : UInt8) (bs : Bytes) : Utf8Front :=
  if first < 0x80 then .char first.toNat 1
  else match utf8Shape first with
    | none => .invalid 1
    | some (width, lo, hi) => match bs with
        | [] => .incomplete
        | b :: bs =>
            if lo ≤ b ∧ b ≤ hi then
              utf8Tail (width - 2) 2 (first.toNat % 2 ^ (7 - width) * 64 + (b.toNat - 0x80)) bs
            else .invalid 1

/-- As `String::from_utf8_lossy`: every wrong sequence becomes one replacement character. -/
def utf8Lossy : Nat → Bytes → Text
  | _, [] => []
  | 0, _ => []
  | most + 1, first :: bs => match utf8Front first bs with
      | .char value n => Char.ofNat value :: utf8Lossy most (bs.drop (n - 1))
      | .invalid n => Char.ofNat 0xfffd :: utf8Lossy most (bs.drop (n - 1))
      | .incomplete => [Char.ofNat 0xfffd]

def fromUtf8Lossy (bs : Bytes) : String := String.ofList (utf8Lossy bs.length bs)

/-- The text of the error that `from_utf8` gives for a wrong byte string. -/
def utf8ErrorText : Nat → Nat → Bytes → String
  | _, _, [] => ""
  | 0, _, _ => ""
  | most + 1, upTo, first :: bs => match utf8Front first bs with
      | .char _ n => utf8ErrorText most (upTo + n) (bs.drop (n - 1))
      | .invalid n => "invalid utf-8 sequence of " ++ String.ofList (Nat.toDigits 10 n) ++
          " bytes from index " ++ String.ofList (Nat.toDigits 10 upTo)
      | .incomplete => "incomplete utf-8 byte sequence from index " ++ String.ofList (Nat.toDigits 10 upTo)

example : (utf8Lossy 4 [0x41, 0xe2, 0x82, 0x42]).map Char.toNat = [0x41, 0xfffd, 0x42] ∧
    utf8Front 0xe2 [0x82, 0xac] = .char 0x20ac 3 := by decide

end StdNet
