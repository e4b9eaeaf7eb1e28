/-!
# EventFeed.Listener.Paragraphs

How received payloads are shown: one paragraph each, in the order they
came, nothing between them and nothing escaped.
-/

namespace EventFeed

/-- One payload as a paragraph. -/
def paragraph (payload : String) : String := "<p>" ++ payload ++ "</p>"

/-- The paragraphs of all payloads. -/
def paragraphs (payloads : List String) : String :=
  payloads.foldl (fun shown p => shown ++ paragraph p) ""

theorem foldl_paragraph (start : String) (payloads : List String) :
    payloads.foldl (fun shown p => shown ++ paragraph p) start = start ++ paragraphs payloads := by
  induction payloads generalizing start with
  | nil => simp [paragraphs]
  | cons p ps ih =>
    rw [paragraphs, List.foldl_cons, List.foldl_cons, ih, ih ("" ++ paragraph p)]
    simp [String.append_assoc]

@[simp] theorem paragraphs_nil : paragraphs [] = "" := rfl

theorem paragraphs_cons (p : String) (ps : List String) :
    paragraphs (p :: ps) = paragraph p ++ paragraphs ps := by
  rw [paragraphs, List.foldl_cons, foldl_paragraph]
  simp

/-- More payloads add their paragraphs at the end. -/
theorem paragraphs_append (ps qs : List String) :
    paragraphs (ps ++ qs) = paragraphs ps ++ paragraphs qs := by
  rw [paragraphs, List.foldl_append, foldl_paragraph]
  rfl

end EventFeed
