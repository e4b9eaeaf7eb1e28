import EventFeed.Text.Numeral
import EventFeed.Text.Utf8

/-!
# EventFeed.Http.Percent

Percent-encoding.  A percent sign and two hexadecimal digits stand for a
byte; a percent sign without them stands for itself.
-/

namespace EventFeed

namespace Http

/-- The bytes that a percent-encoded text stands for. -/
def percentBytes : List Char → List UInt8
  | [] => []
  | '%' :: a :: b :: rest =>
    match hexDigit? a, hexDigit? b with
    | some x, some y => (x * 16 + y).toUInt8 :: percentBytes rest
    | _, _ => 0x25 :: percentBytes (a :: b :: rest)
  | c :: rest => String.utf8EncodeChar c ++ percentBytes rest

/-- The text that a percent-encoded text stands for; none if its bytes are
not well-formed. -/
def percentDecode? (s : String) : Option String := Utf8.decode? (percentBytes s.toList)

example : percentDecode? "%74%65st%2" = some "test%2" := by decide +kernel

example : percentDecode? "%ff" = none := by decide +kernel

end Http

end EventFeed
