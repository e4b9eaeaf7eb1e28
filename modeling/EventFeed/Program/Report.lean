/-!
# EventFeed.Program.Report

How a program tells why it gives up: an error, and below it what lies
behind that, from the outside in.  Several causes are numbered.
-/

namespace EventFeed

/-- A cause behind its mark, with every further line indented as far. -/
def indented (mark indent : String) (cause : String) : String :=
  mark ++ String.ofList (cause.toList.flatMap fun c => if c = '\n' then c :: indent.toList else [c])

/-- A number that takes five columns. -/
def column (n : Nat) : String :=
  let digits := String.ofList (Nat.toDigits 10 n)
  String.ofList (List.replicate (5 - digits.length) ' ') ++ digits

/-- The causes of an error, each on lines of its own. -/
def causesText : List String → String
  | [] => ""
  | [cause] => "\n\nCaused by:\n" ++ indented "    " "    " cause
  | causes =>
    "\n\nCaused by:" ++ String.join (causes.zipIdx.map fun (cause, n) =>
      "\n" ++ indented (column n ++ ": ") "       " cause)

/-- An error and what lies behind it, as a program reports them. -/
def report : List String → String
  | [] => ""
  | message :: causes => "Error: " ++ message ++ causesText causes ++ "\n"

example : report ["a", "b"] = "Error: a\n\nCaused by:\n    b\n" := by decide +kernel

example : report ["a", "b", "c\nd"] =
    "Error: a\n\nCaused by:\n    0: b\n    1: c\n       d\n" := by decide +kernel

end EventFeed
