import EditPlayer.Text.Basic
set_option autoImplicit false

/-!
# Texts as bytes

A text is stored as its UTF-8 encoding.  Reading goes through the bytes from the left; a byte that
begins no well-formed encoding is kept as `none`, so that a reader may decide for itself whether
such a byte matters (`scan`) or refuse all input that has one (`decode?`).
-/

namespace EditPlayer.Utf8

/-- The contents of a file. -/
abbrev Bytes : Type := List UInt8

/-- The bytes of a text. -/
def encode (text : Text) : Bytes := text.flatMap String.utf8EncodeChar

/-- Whether a byte continues an encoding. -/
def isContinuation (byte : UInt8) : Bool := 0x80 ≤ byte && byte < 0xC0

/-- The six bits that a continuing byte carries. -/
def payload (byte : UInt8) : Nat := byte.toNat - 0x80

/-- The character of a two-byte encoding. -/
def two? (a b : UInt8) : Option Char :=
  if 0xC2 ≤ a && a < 0xE0 && isContinuation b then
    some (Char.ofNat ((a.toNat - 0xC0) * 0x40 + payload b))
  else none

/-- The character of a three-byte encoding, which is neither shorter in two bytes nor half of a
surrogate pair. -/
def three? (a b c : UInt8) : Option Char :=
  let code := ((a.toNat - 0xE0) * 0x40 + payload b) * 0x40 + payload c
  if 0xE0 ≤ a && a < 0xF0 && isContinuation b && isContinuation c && 0x800 ≤ code &&
      !(0xD800 ≤ code && code < 0xE000) then
    some (Char.ofNat code)
  else none

/-- The character of a four-byte encoding, which is not shorter in three bytes. -/
def four? (a b c d : UInt8) : Option Char :=
  let code := (((a.toNat - 0xF0) * 0x40 + payload b) * 0x40 + payload c) * 0x40 + payload d
  if 0xF0 ≤ a && a < 0xF5 && isContinuation b && isContinuation c && isContinuation d &&
      0x10000 ≤ code && code < 0x110000 then
    some (Char.ofNat code)
  else none

/-- The character whose encoding begins with a byte, and how many bytes continue it. -/
def char? (a : UInt8) (rest : Bytes) : Option (Char × Nat) :=
  if a < 0x80 then some (Char.ofNat a.toNat, 0)
  else
    match rest with
    | [] => none
    | [b] => (two? a b).map (·, 1)
    | [b, c] => ((two? a b).map (·, 1)).or ((three? a b c).map (·, 2))
    | b :: c :: d :: _ =>
        ((two? a b).map (·, 1)).or (((three? a b c).map (·, 2)).or ((four? a b c d).map (·, 3)))

/-- The characters of the bytes after the first `skip` of them, and `none` for each byte that
belongs to no character. -/
def scanFrom : Nat → Bytes → List (Option Char)
  | _, [] => []
  | skip + 1, _ :: rest => scanFrom skip rest
  | 0, byte :: rest =>
      match char? byte rest with
      | some (c, continued) => some c :: scanFrom continued rest
      | none => none :: scanFrom 0 rest

/-- The characters of the bytes, and `none` for each byte that belongs to no character. -/
def scan (bytes : Bytes) : List (Option Char) := scanFrom 0 bytes

/-- The text of the bytes, if every byte belongs to a character. -/
def decode? (bytes : Bytes) : Option Text := (scan bytes).mapM id

end EditPlayer.Utf8
