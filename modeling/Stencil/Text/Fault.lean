import Stencil.Text.Quoted

/-!
# Bytes That Are No Text

Where and why bytes encode no text, and what is reported about it.

A report counts bytes from where reading started. A single byte is shown; of
several, the first and the last are named. The reasons are in the words that
each encoding has for them.

## Main definitions

* `DecodeReason`: Why bytes are no text.
* `DecodeFault`: Where the faulty bytes are, and why they are faulty.
* `DecodeFault.describe`: What is reported.
* `ReadFault`: Why a file is not read, be it reported or not.
-/

namespace Stencil.Text

/-- Why bytes are no text. -/
inductive DecodeReason where
  /-- The byte leads no sequence. -/
  | invalidStart
  /-- A byte inside a sequence does not continue it. -/
  | invalidContinuation
  /-- The bytes end inside a sequence, or between the two halves of a pair. -/
  | unexpectedEnd
  /-- The byte is no ASCII character. -/
  | outOfRange
  /-- The bytes end inside a unit. -/
  | truncated
  /-- The second half of a pair, without a first one before it. -/
  | loneSecondHalf
  /-- The first half of a pair, without a second one after it. -/
  | loneFirstHalf
  /-- The code point is half of a pair. -/
  | surrogate
  /-- There is no such code point. -/
  | beyondLast
  /-- The byte has no character. -/
  | noCharacter
  /-- The bytes are no sequence of those that stand for characters. -/
  | illegalSequence
  /-- The bytes end inside such a sequence. -/
  | incompleteSequence
  /-- A part in base 64 ends inside a unit. -/
  | partialUnit
  /-- A part in base 64 ends with bits that belong to nothing. -/
  | leftoverBits
  /-- No part in base 64 begins after the sign that says so. -/
  | illFormed
  /-- The byte stands for nothing outside of such parts. -/
  | specialByte
  /-- The bytes end inside such a part. -/
  | unterminated
  /-- The bytes end after the sign that an escape begins with. -/
  | loneBackslash
  /-- An escape has fewer digits than its kind, which is a letter, asks for. -/
  | truncatedEscape (kind : Char)
  /-- The number of an escape is that of no code point. -/
  | noCodePoint
  /-- The same where escapes are by number only. -/
  | rawBeyondLast
  /-- An escape by name without a name. -/
  | malformedName
  /-- No character has the name. -/
  | unknownName
deriving DecidableEq, Repr

/-- How many digits an escape of a kind has. -/
def escapeDigits (kind : Char) : Nat :=
  if kind = 'x' then 2 else if kind = 'u' then 4 else 8

/-- How a reason is reported. -/
def DecodeReason.text : DecodeReason → String
  | invalidStart => "invalid start byte"
  | invalidContinuation => "invalid continuation byte"
  | unexpectedEnd => "unexpected end of data"
  | outOfRange => "ordinal not in range(128)"
  | truncated => "truncated data"
  | loneSecondHalf => "illegal encoding"
  | loneFirstHalf => "illegal UTF-16 surrogate"
  | surrogate => "code point in surrogate code point range(0xd800, 0xe000)"
  | beyondLast => "code point not in range(0x110000)"
  | noCharacter => "character maps to <undefined>"
  | illegalSequence => "illegal multibyte sequence"
  | incompleteSequence => "incomplete multibyte sequence"
  | partialUnit => "partial character in shift sequence"
  | leftoverBits => "non-zero padding bits in shift sequence"
  | illFormed => "ill-formed sequence"
  | specialByte => "unexpected special character"
  | unterminated => "unterminated shift sequence"
  | loneBackslash => "\\ at end of string"
  | truncatedEscape kind =>
    "truncated \\" ++ .ofList (kind :: .replicate (escapeDigits kind) 'X') ++ " escape"
  | noCodePoint => "illegal Unicode character"
  | rawBeyondLast => "\\Uxxxxxxxx out of range"
  | malformedName => "malformed \\N character escape"
  | unknownName => "unknown Unicode character name"

/-- The place and the reason of a failed reading. -/
structure DecodeFault where
  /-- The name of the encoding, as it is reported. -/
  encoding : String
  /-- How many bytes were read before the faulty ones. -/
  start : Nat
  /-- The first faulty byte. -/
  byte : UInt8
  /-- How many bytes are faulty. -/
  length : Nat
  /-- Why they are. -/
  reason : DecodeReason
deriving DecidableEq, Repr

/-- What is reported about bytes that are no text. -/
def DecodeFault.describe (f : DecodeFault) : String :=
  let place :=
    if f.length = 1 then
      "byte 0x" ++ .ofList (hexDigits 2 f.byte.toNat) ++ " in position " ++ toString f.start
    else
      "bytes in position " ++ toString f.start ++ "-" ++ toString (f.start + f.length - 1)
  "'" ++ f.encoding ++ "' codec can't decode " ++ place ++ ": " ++ f.reason.text

/-- Why a file is not read. -/
inductive ReadFault where
  /-- Its bytes are no text. -/
  | bytes (fault : DecodeFault)
  /-- It should start with a mark of its byte order, and does not. -/
  | unmarked
  /-- A character is called up from a set that has none to call up. -/
  | undesignated
  /-- Its bytes do not say where characters beyond ASCII belong. -/
  | misplaced
  /-- A name in it is not written as it would be. -/
  | unfaithfulName
  /-- Its encoding reads nothing. -/
  | refused
deriving DecidableEq, Repr

end Stencil.Text
