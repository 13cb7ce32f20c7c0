/-!
UTF-8 by its lead byte.

The first byte of a sequence announces how many more follow it, so a reader
knows from that byte alone how much to fetch before it can judge the sequence.
Bytes that announce nothing are the continuation bytes, the leads `C0` and `C1`
of overlong forms, and the leads beyond the last Unicode plane.
-/

namespace MonkeyTokens.Utf8

/-- The number of bytes that follow a lead byte, or `none` for a byte that
cannot begin a sequence. -/
def followers? (lead : UInt8) : Option Nat :=
  if lead ≤ 0x7F then some 0
  else if lead < 0xC2 then none
  else if lead ≤ 0xDF then some 1
  else if lead ≤ 0xEF then some 2
  else if lead ≤ 0xF4 then some 3
  else none

/-- The character that the bytes of one whole sequence encode. Overlong forms,
surrogates and stray continuation bytes encode none. -/
def decode? (bytes : List UInt8) : Option Char := bytes.toByteArray.utf8DecodeChar? 0

/-- The bytes of a text. -/
def encode (cs : List Char) : List UInt8 := cs.flatMap String.utf8EncodeChar

@[simp] theorem encode_nil : encode [] = [] := rfl

@[simp] theorem encode_append (cs ds : List Char) :
    encode (cs ++ ds) = encode cs ++ encode ds := by
  simp [encode]

end MonkeyTokens.Utf8
