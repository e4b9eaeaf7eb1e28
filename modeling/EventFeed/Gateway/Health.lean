import EventFeed.Bus.Basic
import EventFeed.Http.Basic

/-!
# EventFeed.Gateway.Health

What the gateway tells about itself: that it is well, at which moment, in
which version, and how many subscriptions it serves.
-/

namespace EventFeed

namespace Gateway

/-- The version of the gateway. -/
def version : String := "0.1.0"

/-- The answer to a question for the gateway's health. -/
def health (now : Timestamp) (b : Bus) : Http.Response :=
  .json 200 (Json.record [("status", .string "healthy"), ("timestamp", .string now.numericText),
    ("version", .string version), ("listeners", .ofNat b.receiverCount)])

end Gateway

end EventFeed
