import ChartCompiler.Text.Surrogate

/-!
# UTF-8

Bytes are decoded into characters. What is not well formed is reported (`decodeUtf8?`) or shown as
one replacement character per maximal ill-formed part (`decodeUtf8Lossy`). Characters have bytes
(`encodeUtf8`), and so has a text unless it holds halves of surrogate pairs, which are reported
(`encodeUtf8OrHalves`).
-/

namespace ChartCompiler.Text

/-- The bytes that may follow a lead byte: how many follow, the bits the lead contributes, and the
least and greatest second byte. -/
structure Utf8Lead where
  following : Nat
  bits : Nat
  leastSecond : UInt8
  greatestSecond : UInt8

/-- The lead bytes of sequences of two to four bytes. The limits on the second byte exclude
overlong forms, surrogates and code points beyond the last one. -/
def utf8Lead? (byte : UInt8) : Option Utf8Lead :=
  if 0xc2 ≤ byte && byte ≤ 0xdf then some ⟨1, byte.toNat - 0xc0, 0x80, 0xbf⟩
  else if byte = 0xe0 then some ⟨2, 0, 0xa0, 0xbf⟩
  else if byte = 0xed then some ⟨2, 13, 0x80, 0x9f⟩
  else if 0xe1 ≤ byte && byte ≤ 0xef then some ⟨2, byte.toNat - 0xe0, 0x80, 0xbf⟩
  else if byte = 0xf0 then some ⟨3, 0, 0x90, 0xbf⟩
  else if byte = 0xf4 then some ⟨3, 4, 0x80, 0x8f⟩
  else if 0xf1 ≤ byte && byte ≤ 0xf3 then some ⟨3, byte.toNat - 0xf0, 0x80, 0xbf⟩
  else none

/-- What decoding is in the middle of: nothing, or a sequence that still needs bytes. -/
inductive Utf8State where
  | start
  | inside (remaining : Nat) (code : Nat) (least greatest : UInt8)

/-- Decodes bytes one after the other; `none` marks an ill-formed part. -/
def decodeUtf8Parts : Utf8State → List UInt8 → List (Option Char)
  | .start, [] => []
  | .inside _ _ _ _, [] => [none]
  | .start, byte :: rest =>
      if byte < 0x80 then some (Char.ofNat byte.toNat) :: decodeUtf8Parts .start rest
      else match utf8Lead? byte with
        | some lead =>
            decodeUtf8Parts
              (.inside lead.following lead.bits lead.leastSecond lead.greatestSecond) rest
        | none => none :: decodeUtf8Parts .start rest
  | .inside remaining code least greatest, byte :: rest =>
      if least ≤ byte && byte ≤ greatest then
        let extended := code * 64 + (byte.toNat - 0x80)
        if remaining ≤ 1 then some (Char.ofNat extended) :: decodeUtf8Parts .start rest
        else decodeUtf8Parts (.inside (remaining - 1) extended 0x80 0xbf) rest
      else if byte < 0x80 then
        none :: some (Char.ofNat byte.toNat) :: decodeUtf8Parts .start rest
      else match utf8Lead? byte with
        | some lead =>
            none :: decodeUtf8Parts
              (.inside lead.following lead.bits lead.leastSecond lead.greatestSecond) rest
        | none => none :: none :: decodeUtf8Parts .start rest

/-- The characters of well-formed bytes. -/
def decodeUtf8? (bytes : List UInt8) : Option String :=
  ((decodeUtf8Parts .start bytes).mapM id).map String.ofList

/-- The characters of any bytes, with U+FFFD for each ill-formed part. -/
def decodeUtf8Lossy (bytes : List UInt8) : String :=
  String.ofList ((decodeUtf8Parts .start bytes).map (·.getD '\uFFFD'))

/-- The bytes of characters. -/
def encodeUtf8 (content : String) : List UInt8 := content.toList.flatMap String.utf8EncodeChar

/-- The bytes of a text, or the first halves of surrogate pairs that keep it from having any. -/
def encodeUtf8OrHalves (text : String) : Except Halves (List UInt8) :=
  match firstHalves? (fun _ => false) 0 (units text) with
  | some halves => .error halves
  | none => .ok (encodeUtf8 (shown text))

example : decodeUtf8? (encodeUtf8 "aé€😀") = some "aé€😀" := by decide +kernel

end ChartCompiler.Text
