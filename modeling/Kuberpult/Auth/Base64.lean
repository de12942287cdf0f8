import Mathlib.Data.List.Basic
import Kuberpult.Error

/-! The base64 transport of the auth package (`Encode64` and `Decode64`), over Go's
`encoding/base64` with `StdEncoding`. Go strings are byte strings, so the user's e-mail
and name are lists of bytes here, UTF-8 or not. The library is not part of this
repository; it is modelled from its documentation and its source: the encoder maps each
quantum of three bytes to four characters and pads the last one; the decoder skips line
breaks, reads quanta of four characters, and accepts padding only at the end.

`Decode64_Encode64` is the round trip: decoding what `Encode64` wrote gives back every
byte string. It is an induction over the encoder's quanta (`DecodeString_quantum`), with
the alphabet checked once, value by value (`decodeSextet_encodeSextet`). -/
namespace Kuberpult

/-- A Go `string`: a sequence of bytes, which need not be UTF-8. -/
abbrev GoString := List UInt8

/-- The bytes of a string literal of the source: its UTF-8 encoding, `String.toUTF8`. -/
def goString (s : String) : GoString := s.data.flatMap String.utf8EncodeChar

/-- Go's `encodeStd`, the alphabet of `base64.StdEncoding`. -/
def encodeStd : GoString := goString "ABCDEFGHIJKLMNOPQRSTUVWXYZabcdefghijklmnopqrstuvwxyz0123456789+/"

/-- `base64.StdPadding`, the byte of `=`. -/
def stdPadding : UInt8 := 61

/-- The alphabet's byte for a 6-bit value, `enc.encode[v]`. -/
def encodeSextet (v : Nat) : UInt8 := encodeStd.getD v 0

/-- The value of an alphabet byte, Go's `enc.decodeMap`; the bytes outside the alphabet,
which the map sends to `0xFF`, have none. -/
def decodeSextet (b : UInt8) : Option Nat := encodeStd.indexOf? b

/-- One quantum of the encoder: `val := a<<16 | b<<8 | c`, written as the characters of
`val>>18&0x3F`, `val>>12&0x3F`, `val>>6&0x3F` and `val&0x3F`. -/
def encodeQuantum (a b c : UInt8) : GoString :=
  let val := a.toNat * 65536 + b.toNat * 256 + c.toNat
  [encodeSextet (val / 262144 % 64), encodeSextet (val / 4096 % 64), encodeSextet (val / 64 % 64),
    encodeSextet (val % 64)]

/-- Go's `StdEncoding.EncodeToString(src)`: the whole quanta, then the one or two bytes
left as two or three characters followed by padding. -/
def EncodeToString : GoString → GoString
  | a :: b :: c :: rest => encodeQuantum a b c ++ EncodeToString rest
  | [a, b] => (encodeQuantum a b 0).take 3 ++ [stdPadding]
  | [a] => (encodeQuantum a 0 0).take 2 ++ [stdPadding, stdPadding]
  | [] => []

/-- The bytes of four 6-bit values: `val := x<<18 | y<<12 | z<<6 | w`, then `byte(val>>16)`,
`byte(val>>8)` and `byte(val)`. -/
def decodeQuantum (x y z w : Nat) : GoString :=
  let val := x * 262144 + y * 4096 + z * 64 + w
  [UInt8.ofNat (val / 65536), UInt8.ofNat (val / 256), UInt8.ofNat val]

/-- The loop of Go's `decodeQuantum` over input without line breaks: quanta of four
alphabet characters; a last quantum may end in `=` or `==`, and then nothing may follow.
Anything else is a corrupt input. -/
def decodeQuanta : GoString → Option GoString
  | [] => some []
  | a :: b :: c :: d :: rest =>
    match decodeSextet a, decodeSextet b, decodeSextet c, decodeSextet d with
    | some x, some y, some z, some w => (decodeQuantum x y z w ++ ·) <$> decodeQuanta rest
    | some x, some y, some z, none =>
      if d = stdPadding ∧ rest = [] then some ((decodeQuantum x y z 0).take 2) else none
    | some x, some y, none, none =>
      if c = stdPadding ∧ d = stdPadding ∧ rest = [] then some ((decodeQuantum x y 0 0).take 1) else none
    | _, _, _, _ => none
  | _ => none

/-- Whether a byte is a line break, `\n` or `\r`, which the decoder skips. -/
def isLineBreak (b : UInt8) : Bool := b = 10 || b = 13

/-- Go's `CorruptInputError`. The offset its text names is left out: the auth package only
asks whether decoding failed. -/
def corruptInputError : Error := .text "illegal base64 data at input byte"

/-- Go's `StdEncoding.DecodeString(s)`. -/
def DecodeString (s : GoString) : Except Error GoString :=
  match decodeQuanta (s.filter fun b => !isLineBreak b) with
  | some decoded => .ok decoded
  | none => .error corruptInputError

/-- The auth package's `Encode64(s)`. -/
def Encode64 (s : GoString) : GoString := EncodeToString s

/-- The auth package's `Decode64(s)`: the decoded bytes as a string, or the decoder's error. -/
def Decode64 (s : GoString) : Except Error GoString := DecodeString s

/-! ## The round trip -/

/-- The alphabet, value by value: each 6-bit value's character decodes to it, and none is
a line break or the padding. -/
theorem encodeSextet_spec :
    ∀ v : Fin 64, decodeSextet (encodeSextet v) = some v.val ∧ isLineBreak (encodeSextet v) = false ∧
      encodeSextet v ≠ stdPadding := by
  decide

theorem decodeSextet_stdPadding : decodeSextet stdPadding = none := by decide

theorem isLineBreak_stdPadding : isLineBreak stdPadding = false := by decide

@[simp] theorem decodeSextet_encodeSextet (n : Nat) : decodeSextet (encodeSextet (n % 64)) = some (n % 64) :=
  (encodeSextet_spec ⟨n % 64, Nat.mod_lt _ (by decide)⟩).1

@[simp] theorem isLineBreak_encodeSextet (n : Nat) : isLineBreak (encodeSextet (n % 64)) = false :=
  (encodeSextet_spec ⟨n % 64, Nat.mod_lt _ (by decide)⟩).2.1

@[simp] theorem encodeSextet_ne_stdPadding (n : Nat) : encodeSextet (n % 64) ≠ stdPadding :=
  (encodeSextet_spec ⟨n % 64, Nat.mod_lt _ (by decide)⟩).2.2

theorem byte_eq_of_toNat {n : Nat} {a : UInt8} (low : n % 256 = a.toNat) : UInt8.ofNat n = a :=
  UInt8.toNat.inj (by rw [← low]; rfl)

/-- Each quantum of the encoder decodes to its three bytes, before what follows. -/
theorem decodeQuanta_quantum (a b c : UInt8) (rest : GoString) :
    decodeQuanta (encodeQuantum a b c ++ rest) = ([a, b, c] ++ ·) <$> decodeQuanta rest := by
  have ha : a.toNat < 256 := a.toNat_lt_size
  have hb : b.toNat < 256 := b.toNat_lt_size
  have hc : c.toNat < 256 := c.toNat_lt_size
  have bytes : decodeQuantum ((a.toNat * 65536 + b.toNat * 256 + c.toNat) / 262144 % 64)
      ((a.toNat * 65536 + b.toNat * 256 + c.toNat) / 4096 % 64) ((a.toNat * 65536 + b.toNat * 256 + c.toNat) / 64 % 64)
      ((a.toNat * 65536 + b.toNat * 256 + c.toNat) % 64) = [a, b, c] := by
    simp only [decodeQuantum, List.cons.injEq, and_true]
    exact ⟨byte_eq_of_toNat (by omega), byte_eq_of_toNat (by omega), byte_eq_of_toNat (by omega)⟩
  simp only [encodeQuantum, List.cons_append, List.nil_append, decodeQuanta, decodeSextet_encodeSextet, bytes,
    List.append_eq]

/-- The two bytes left after the last whole quantum decode from their three characters and
the padding. -/
theorem decodeQuanta_pair (a b : UInt8) :
    decodeQuanta ((encodeQuantum a b 0).take 3 ++ [stdPadding]) = some [a, b] := by
  have ha : a.toNat < 256 := a.toNat_lt_size
  have hb : b.toNat < 256 := b.toNat_lt_size
  simp only [encodeQuantum, List.take, List.cons_append, List.nil_append, decodeQuanta,
    decodeSextet_encodeSextet, decodeSextet_stdPadding, and_self, if_true, decodeQuantum, List.cons.injEq,
    Option.some.injEq, and_true]
  exact ⟨byte_eq_of_toNat (by simp; omega), byte_eq_of_toNat (by simp; omega)⟩

/-- The one byte left after the last whole quantum decodes from its two characters and the
padding. -/
theorem decodeQuanta_single (a : UInt8) :
    decodeQuanta ((encodeQuantum a 0 0).take 2 ++ [stdPadding, stdPadding]) = some [a] := by
  have ha : a.toNat < 256 := a.toNat_lt_size
  simp only [encodeQuantum, List.take, List.cons_append, List.nil_append, decodeQuanta,
    decodeSextet_encodeSextet, decodeSextet_stdPadding, and_self, if_true, decodeQuantum, List.cons.injEq,
    Option.some.injEq, and_true]
  exact byte_eq_of_toNat (by simp; omega)

/-- The encoder writes no line break. -/
theorem EncodeToString_no_lineBreak (s : GoString) : ∀ b ∈ EncodeToString s, isLineBreak b = false := by
  induction s using EncodeToString.induct with
  | case1 a b c rest ih => simpa [EncodeToString, encodeQuantum] using ih
  | case2 a b => simp [EncodeToString, encodeQuantum, isLineBreak_stdPadding]
  | case3 a => simp [EncodeToString, encodeQuantum, isLineBreak_stdPadding]
  | case4 => simp [EncodeToString]

/-- The quanta of the encoder decode to the bytes it encoded. -/
theorem decodeQuanta_EncodeToString (s : GoString) : decodeQuanta (EncodeToString s) = some s := by
  induction s using EncodeToString.induct with
  | case1 a b c rest ih => rw [EncodeToString, decodeQuanta_quantum, ih]; rfl
  | case2 a b => exact decodeQuanta_pair a b
  | case3 a => exact decodeQuanta_single a
  | case4 => rfl

/-- `Decode64` reads back every byte string `Encode64` wrote. -/
theorem Decode64_Encode64 (s : GoString) : Decode64 (Encode64 s) = .ok s := by
  have kept : (EncodeToString s).filter (fun b => !isLineBreak b) = EncodeToString s :=
    List.filter_eq_self.2 fun b mem => by simp [EncodeToString_no_lineBreak s b mem]
  simp only [Decode64, Encode64, DecodeString, kept, decodeQuanta_EncodeToString]

end Kuberpult
