/-
Delimiters in disguise.

Some characters are in compatibility form a slash, a question mark, a
hash, an at sign or a colon, or hold one: a full-width colon, the sign
for "account of". A name that holds such a character may be read in two
ways.
-/
import DevicePairing.Text.CodePoint

namespace DevicePairing

namespace CodePoint

/-- The characters whose compatibility form holds a delimiter of URLs, the
delimiters themselves apart. -/
def disguised : List Nat :=
  [0x2047, 0x2048, 0x2049, 0x2100, 0x2101, 0x2105, 0x2106, 0x2A74, 0xFE13,
    0xFE16, 0xFE55, 0xFE56,
    0xFE5F, 0xFE6B, 0xFF03, 0xFF0F, 0xFF1A, 0xFF1F, 0xFF20]

/-- Whether the compatibility form of a character holds a delimiter that
the character itself is not. -/
def isDisguised (p : CodePoint) : Bool := disguised.contains p.code

end CodePoint

end DevicePairing
