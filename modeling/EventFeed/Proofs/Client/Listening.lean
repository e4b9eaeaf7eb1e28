import EventFeed.Proofs.Client.Reading

/-!
# EventFeed.Proofs.Client.Listening

What a client hands to its listener of a row of texts
(`Client.listen_texts`): the data of each text that carries the event it
listens for, in the order of the texts, as long as every payload can be
shown.  A region in memory never fails.
-/

namespace EventFeed

namespace Received

/-- Texts as a client reads them. -/
def texts (texts : List String) : List Received := texts.map fun s => .frame (.text s)

@[simp] theorem heard_texts (ts : List String) : heard (texts ts) = ts := by
  induction ts with
  | nil => rfl
  | cons s ts ih => exact congrArg (s :: ·) ih

@[simp] theorem closing_texts {α : Type} (x : α) (ts : List String) :
    closing x (texts ts) = .ok x := by
  induction ts with
  | nil => rfl
  | cons s ts ih => exact ih

end Received

namespace Client

/-- **A client hands all payloads** of a row of texts to a listener in
memory. -/
theorem listen_texts (name : String) (e : Endpoint) (texts : List String)
    (s : Option String) :
    ∃ l s', listen ⟨e, Received.texts texts⟩ name (.of Region.memory) s =
        (.ok (), ⟨e, []⟩, l, s') ∧
      l.messages = texts.filterMap (Envelope.decodeEvent · name) := by
  have hfuel : (Client.mk e (Received.texts texts)).unread.length <
      (Received.texts texts).length + 1 := Nat.lt_succ_self _
  have hregion : (Listener.of Region.memory).region.NeverFails := neverFails_memory
  obtain ⟨l, s', hlisten, hmessages⟩ := listenFor_eq name hfuel hregion s
  rw [Received.closing_texts] at hlisten
  rw [Received.heard_texts] at hmessages
  exact ⟨l, s', hlisten, hmessages⟩

end Client

end EventFeed
