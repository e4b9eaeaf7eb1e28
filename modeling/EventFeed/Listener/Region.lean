import EventFeed.Files.Tree
import EventFeed.Uuid

/-!
# EventFeed.Listener.Region

Where a listener shows what it has received.  A region shows one text at a
time, and all that can be done to it is to replace that text, which may
fail.  What a region works on is a state of its own kind: some memory, the
files, or the output of the program.

A file is never seen half written: the text goes to a staging file beside
it, which is then moved over it.
-/

namespace EventFeed

/-- A region that works on states of type `σ`: it replaces the text it
shows, and tells if that failed. -/
abbrev Region (σ : Type) := String → σ → Except IoError Unit × σ

namespace Region

/-- A region in memory. -/
def memory : Region (Option String) := fun text _ => (.ok (), some text)

/-- A region that writes every text to an output, a line end after each. -/
def output : Region String := fun text out => (.ok (), out ++ text ++ "\n")

/-! ## Files -/

/-- What a staging file has behind the name of its target. -/
def stagingMark (id : Uuid) : List UInt8 := Utf8.encode ("." ++ id.simple ++ ".tmp")

/-- The staging file of a target. -/
def staging (id : Uuid) (target : FilePath) : FilePath := target.extend (stagingMark id)

/-- A region in a file. -/
def file (id : Uuid) (target : FilePath) : Region FileTree := fun text t =>
  match t.write (staging id target) text with
  | .error e => (.error e, t)
  | .ok t =>
    match t.moveFile (staging id target) target with
    | .error e => (.error e, t)
    | .ok t => (.ok (), t)

end Region

end EventFeed
