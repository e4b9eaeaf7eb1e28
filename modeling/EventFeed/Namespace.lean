import EventFeed.Error
import EventFeed.Json.Reader.Record

/-!
# EventFeed.Namespace

The channels of the feed.  A namespace is a path of one segment, `/test`
or `/station-1`: a slash and one or more ASCII letters, digits, hyphens
and underscores.  The same grammar holds wherever a namespace comes from,
be it a path, the segment of a URL, a setting or a JSON text, and a
refusal always shows the whole path.
-/

namespace EventFeed

/-- The characters of a segment. -/
def isSegmentChar (c : Char) : Bool := c.isAlphanum || c == '_' || c == '-'

/-- A segment: at least one character, all of them allowed. -/
def IsSegment (s : String) : Prop := s.toList ≠ [] ∧ s.toList.all isSegmentChar = true

instance (s : String) : Decidable (IsSegment s) := inferInstanceAs (Decidable (_ ∧ _))

/-- A channel of the feed. -/
structure Namespace where
  segment : String
  valid : IsSegment segment
deriving Repr, DecidableEq

namespace Namespace

/-- The channel that is used unless another one is named. -/
def standard : Namespace := ⟨"test", by decide⟩

instance : Inhabited Namespace := ⟨standard⟩

/-- The path of the namespace. -/
def path (n : Namespace) : String := "/" ++ n.segment

/-- The namespace of a segment. -/
def ofSegment (segment : String) : Except FeedError Namespace :=
  if h : IsSegment segment then .ok ⟨segment, h⟩
  else .error (.invalidNamespace ("/" ++ segment))

/-- The namespace of a path. -/
def parse (path : String) : Except FeedError Namespace :=
  match path.toList with
  | '/' :: segment => ofSegment (String.ofList segment)
  | _ => .error (.invalidNamespace path)

/-- The namespace of a text, as texts are converted to values of any kind. -/
def ofText (text : String) : Except FeedError Namespace := parse text

/-- The namespace of a string that was read, as that of a JSON text is. -/
def ofString (s : String) : Except FeedError Namespace := parse s

/-- The JSON text of a namespace: its path as a string. -/
def json (n : Namespace) : String := (Json.string n.path).text

/-- Read a namespace from JSON. -/
def readJson (_bound _depth : Nat) (input : Input) : Except Json.Fault (Namespace × Input) := do
  let (path, rest) ← Json.readText input
  match ofString path with
  | .ok n => return (n, rest)
  | .error e => Json.fault (.invalidValue e.message) (Utf8.width rest)

/-- The namespace that a JSON text spells. -/
def ofJson (text : String) : Except Json.Fault Namespace :=
  Json.readAll readJson (Utf8.ofText text)

/-! ## One grammar -/

/-- The path of a namespace is read as that namespace. -/
@[simp] theorem parse_path (n : Namespace) : parse n.path = .ok n := by
  simp [parse, path, ofSegment, n.valid]

/-- A segment and its path are read alike. -/
theorem ofSegment_eq_parse (segment : String) :
    ofSegment segment = parse ("/" ++ segment) := by
  simp [parse]

/-- Whatever is read has the path that was read. -/
theorem path_of_parse {path : String} {n : Namespace} (h : parse path = .ok n) :
    n.path = path := by
  simp only [parse] at h
  split at h
  · next segment hs =>
    simp only [ofSegment] at h
    split at h
    · cases h
      have : path = String.ofList ('/' :: segment) := by rw [← hs, String.ofList_toList]
      rw [Namespace.path, this]
      apply String.toList_inj.1
      simp
    · cases h
  · cases h

end Namespace

end EventFeed
