import UnsafeCensus.Text.Str

/-!
# Codecs

The encodings in which a file may be stored. A `Scheme` is one of the common encodings and reads
bytes as text or says which bytes do not fit, by the offset of the first of them. A `Codec` is
whatever can be looked up under the name of an encoding: any decoder, or a transformation that is
none for text. A `Registry` is any way to look codecs up.
-/

namespace UnsafeCensus.Text

/-- The order of the bytes of a unit. -/
inductive ByteOrder
  | little
  | big
deriving DecidableEq, Repr

/-- An encoding that is read here. Without a byte order the first unit may be a mark that gives
it. -/
inductive Scheme
  | utf8
  | utf8Signed
  | utf16 (order : Option ByteOrder)
  | utf32 (order : Option ByteOrder)
  | ascii
  | latin1
  | windows1252
deriving DecidableEq, Repr

/-! ## Decoding -/

/-- Bytes that do not fit an encoding: the name the encoding reports itself under, why they do not
fit, and the offset of the first of them. -/
structure DecodeFault where
  encoding : String
  reason : String
  offset : Nat
deriving DecidableEq, Repr

/-- The characters that the codes 0x80 to 0x9F stand for in code page 1252. -/
def windows1252High : List (Option Nat) := [
  some 0x20AC, none, some 0x201A, some 0x0192, some 0x201E, some 0x2026, some 0x2020, some 0x2021,
  some 0x02C6, some 0x2030, some 0x0160, some 0x2039, some 0x0152, none, some 0x017D, none,
  none, some 0x2018, some 0x2019, some 0x201C, some 0x201D, some 0x2022, some 0x2013, some 0x2014,
  some 0x02DC, some 0x2122, some 0x0161, some 0x203A, some 0x0153, none, some 0x017E, some 0x0178]

/-- One byte, one character. -/
def windows1252Char? (b : UInt8) : Option Char :=
  if 0x80 ≤ b ∧ b < 0xA0 then ((windows1252High[b.toNat - 0x80]?).join).map Char.ofNat
  else some (Char.ofNat b.toNat)

def asciiChar? (b : UInt8) : Option Char :=
  if b < 0x80 then some (Char.ofNat b.toNat) else none

/-- Reading of an encoding in which each byte is a character. -/
def decodeBytewise (encoding reason : String) (char? : UInt8 → Option Char) (pos : Nat) :
    List UInt8 → Except DecodeFault (List Char)
  | [] => .ok []
  | b :: rest =>
    match char? b with
    | some c => (decodeBytewise encoding reason char? (pos + 1) rest).map (c :: ·)
    | none => .error ⟨encoding, reason, pos⟩

def ByteOrder.suffix : ByteOrder → String
  | .little => "le"
  | .big => "be"

/-- The number that bytes of a unit write. -/
def ByteOrder.value (order : ByteOrder) (bytes : List UInt8) : Nat :=
  let bigFirst := match order with
    | .little => bytes.reverse
    | .big => bytes
  bigFirst.foldl (fun n b => n * 256 + b.toNat) 0

def isHighSurrogate (n : Nat) : Bool := 0xD800 ≤ n && n < 0xDC00
def isLowSurrogate (n : Nat) : Bool := 0xDC00 ≤ n && n < 0xE000

/-- Sixteen-bit units, a surrogate pair for each character beyond the first plane. -/
def decodeUnits16 (order : ByteOrder) (pos : Nat) : List UInt8 → Except DecodeFault (List Char)
  | [] => .ok []
  | [_] => .error ⟨name, "truncated data", pos⟩
  | a :: b :: rest =>
    let unit := order.value [a, b]
    if isHighSurrogate unit then
      match rest with
      | c :: d :: rest' =>
        let second := order.value [c, d]
        if isLowSurrogate second then
          (decodeUnits16 order (pos + 4) rest').map
            (Char.ofNat (0x10000 + (unit - 0xD800) * 0x400 + (second - 0xDC00)) :: ·)
        else .error ⟨name, "illegal UTF-16 surrogate", pos⟩
      | _ => .error ⟨name, "unexpected end of data", pos⟩
    else if isLowSurrogate unit then .error ⟨name, "illegal encoding", pos⟩
    else (decodeUnits16 order (pos + 2) rest).map (Char.ofNat unit :: ·)
where
  name : String := "utf-16-" ++ order.suffix

/-- Thirty-two-bit units, one for each character. -/
def decodeUnits32 (order : ByteOrder) (pos : Nat) : List UInt8 → Except DecodeFault (List Char)
  | [] => .ok []
  | a :: b :: c :: d :: rest =>
    let unit := order.value [a, b, c, d]
    if 0xD800 ≤ unit ∧ unit < 0xE000 then
      .error ⟨name, "code point in surrogate code point range(0xd800, 0xe000)", pos⟩
    else if 0x110000 ≤ unit then .error ⟨name, "code point not in range(0x110000)", pos⟩
    else (decodeUnits32 order (pos + 4) rest).map (Char.ofNat unit :: ·)
  | _ => .error ⟨name, "truncated data", pos⟩
where
  name : String := "utf-32-" ++ order.suffix

/-- Strict UTF-8, with its faults reported as those of a codec. -/
def decodeUtf8 (bytes : List UInt8) : Except DecodeFault (List Char) :=
  (Utf8.decode? bytes).mapError fun f => ⟨"utf-8", f.flaw.message, f.offset⟩

/-- The text that bytes hold in an encoding. -/
def Scheme.decode (scheme : Scheme) (bytes : List UInt8) : Except DecodeFault (List Char) :=
  match scheme with
  | .utf8 => decodeUtf8 bytes
  | .utf8Signed => decodeUtf8 (if Utf8.byteOrderMark.isPrefixOf bytes then bytes.drop 3 else bytes)
  | .utf16 (some order) => decodeUnits16 order 0 bytes
  | .utf16 none =>
    match bytes with
    | 0xFF :: 0xFE :: rest => decodeUnits16 .little 2 rest
    | 0xFE :: 0xFF :: rest => decodeUnits16 .big 2 rest
    | _ => decodeUnits16 .little 0 bytes
  | .utf32 (some order) => decodeUnits32 order 0 bytes
  | .utf32 none =>
    match bytes with
    | 0xFF :: 0xFE :: 0x00 :: 0x00 :: rest => decodeUnits32 .little 4 rest
    | 0x00 :: 0x00 :: 0xFE :: 0xFF :: rest => decodeUnits32 .big 4 rest
    | _ => decodeUnits32 .little 0 bytes
  | .ascii => decodeBytewise "ascii" "ordinal not in range(128)" asciiChar? 0 bytes
  | .latin1 => .ok (bytes.map fun b => Char.ofNat b.toNat)
  | .windows1252 =>
    decodeBytewise "charmap" "character maps to <undefined>" windows1252Char? 0 bytes

/-! ## Codecs -/

/-- An error that a codec raises of its own: the name of its class, and its message. -/
structure Raised where
  className : String
  message : Str
deriving DecidableEq, Repr

/-- What a decoder makes of bytes. -/
inductive Decoded
  | text (s : Str)
  | undecodable (fault : DecodeFault)
  | raised (error : Raised)
deriving DecidableEq, Repr

def Decoded.ofExcept : Except DecodeFault (List Char) → Decoded
  | .ok s => .text (.ofChars s)
  | .error fault => .undecodable fault

/-- What can be looked up under the name of an encoding. Some names stand for transformations that
are not encodings of text at all. -/
inductive Codec
  | text (decoder : List UInt8 → Decoded)
  | transform

/-- What bytes are decoded to. A transformation refuses, unless there is nothing to decode: then no
codec is asked. -/
def Codec.decode? : Codec → List UInt8 → Option Decoded
  | _, [] => some (.text [])
  | .text decoder, bytes => some (decoder bytes)
  | .transform, _ :: _ => none

def Scheme.codec (scheme : Scheme) : Codec :=
  .text fun bytes => .ofExcept (scheme.decode bytes)

def Codec.utf8 : Codec := Scheme.utf8.codec

/-! ## Registries -/

/-- The codecs there are, by the names under which they are found. The encoding that is used where
none is named is one of them. -/
structure Registry where
  find? : String → Option Codec
  find?_utf8 : find? "utf-8" = some .utf8

namespace Registry

/-- The form under which names are compared: lower case, with each run of other characters than
letters, digits and dots between two of them written as one underscore. -/
def normalForm (name : List Char) : List Char :=
  go false [] name
where
  /-- `gap`: the last characters read were separators; `seen`: what was kept, latest first. -/
  go (gap : Bool) (seen : List Char) : List Char → List Char
    | [] => seen.reverse
    | c :: rest =>
      if c.isAlphanum || c == '.' then
        go false (c.toLower :: (if gap && !seen.isEmpty then '_' :: seen else seen)) rest
      else go true seen rest

/-- A codec with its own name and its other names, in normal form. -/
structure Entry where
  codec : Codec
  name : String
  aliases : List String

def Entry.has (e : Entry) (key : String) : Bool :=
  e.name == key || e.aliases.contains key

/-- The codec that refuses to decode anything. -/
def undefinedCodec : Codec :=
  .text fun _ => .raised ⟨"UnicodeError", .ofString "undefined encoding"⟩

def entries : List Entry := [
  ⟨.utf8, "utf_8", ["u8", "utf", "utf8", "utf8_ucs2", "utf8_ucs4", "cp65001"]⟩,
  ⟨Scheme.utf8Signed.codec, "utf_8_sig", []⟩,
  ⟨(Scheme.utf16 none).codec, "utf_16", ["u16", "utf16"]⟩,
  ⟨(Scheme.utf16 (some .little)).codec, "utf_16_le", ["utf_16le", "unicodelittleunmarked"]⟩,
  ⟨(Scheme.utf16 (some .big)).codec, "utf_16_be", ["utf_16be", "unicodebigunmarked"]⟩,
  ⟨(Scheme.utf32 none).codec, "utf_32", ["u32", "utf32"]⟩,
  ⟨(Scheme.utf32 (some .little)).codec, "utf_32_le", ["utf_32le"]⟩,
  ⟨(Scheme.utf32 (some .big)).codec, "utf_32_be", ["utf_32be"]⟩,
  ⟨Scheme.ascii.codec, "ascii", ["646", "ansi_x3.4_1968", "ansi_x3_4_1968", "ansi_x3.4_1986",
    "cp367", "csascii", "ibm367", "iso646_us", "iso_646.irv_1991", "iso_ir_6", "us", "us_ascii"]⟩,
  ⟨Scheme.latin1.codec, "latin_1", ["8859", "cp819", "csisolatin1", "ibm819", "iso8859",
    "iso8859_1", "iso_8859_1", "iso_8859_1_1987", "iso_ir_100", "l1", "latin", "latin1"]⟩,
  ⟨Scheme.windows1252.codec, "cp1252", ["1252", "windows_1252"]⟩,
  ⟨undefinedCodec, "undefined", []⟩,
  ⟨.transform, "rot_13", ["rot13"]⟩,
  ⟨.transform, "hex_codec", ["hex"]⟩,
  ⟨.transform, "base64_codec", ["base64", "base_64"]⟩,
  ⟨.transform, "bz2_codec", ["bz2"]⟩,
  ⟨.transform, "quopri_codec", ["quopri", "quoted_printable", "quotedprintable"]⟩,
  ⟨.transform, "uu_codec", ["uu"]⟩,
  ⟨.transform, "zlib_codec", ["zip", "zlib"]⟩]

/-- The codec of a name among some entries. A dot may stand for an underscore in every name but a
codec's own. -/
def search? (name : String) : Option Entry :=
  let key := normalForm name.toList
  let dotless := key.map fun c => if c == '.' then '_' else c
  (entries.find? (·.has (String.ofList key))).or
    (entries.find? (·.aliases.contains (String.ofList dotless)))

/-- A registry of common codecs. -/
def standard : Registry where
  find? name := (search? name).map (·.codec)
  find?_utf8 := rfl

end Registry

end UnsafeCensus.Text
