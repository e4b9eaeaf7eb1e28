import EventFeed.Proofs.Client.Reading
import EventFeed.Proofs.Gateway.Delivery

/-!
# EventFeed.Proofs.Gateway.Replies

What a client gets for a text that it sends: a refusal, always, which repeats
the identifier of the text if it could be read (`Gateway.replies`).  Refusals are
read as they were made, whatever their identifiers, so a refusal that is sent back
is refused under the same identifier; and as they carry no event, listeners pass
over them.
-/

namespace EventFeed

/-- The text is read as a refusal with this code of the request with this
identifier. -/
def Envelope.Refuses (id : String) (code : Nat) (text : String) : Prop :=
  ∃ m, ofText text = .ok m ∧ m.kind = .error ∧ m.event = none ∧ m.id = id ∧
    m.payload.get? "code" = some (.ofNat code)

/-- A refusal is read as one. -/
theorem Envelope.refuses_refusal (now : Timestamp) (id : String) {code : Nat} (h : code < 2 ^ 64)
    (message : String) : Refuses id code (refusal now id code message).text :=
  ⟨_, ofText_refusal now id h message, rfl, rfl, rfl, rfl⟩

namespace Gateway

open Envelope (Refuses)

/-- A text that can be read is refused under its identifier. -/
theorem refuses_replyTo_of_ok {t : String} {m : Envelope} (h : Envelope.ofText t = .ok m)
    (now : Timestamp) : Refuses m.id 405 (replyTo now t).text := by
  rw [replyTo, h]
  exact Envelope.refuses_refusal now m.id (by decide) _

/-- Any other one is refused without an identifier. -/
theorem refuses_replyTo_of_error {t : String} {f : Json.Fault} (h : Envelope.ofText t = .error f)
    (now : Timestamp) : Refuses "" 400 (replyTo now t).text := by
  rw [replyTo, h]
  exact Envelope.refuses_refusal now "" (by decide) _

/-- Every reply can be read. -/
theorem exists_ofText_replyTo (now : Timestamp) (t : String) :
    ∃ m, Envelope.ofText (replyTo now t).text = .ok m := by
  rw [replyTo]
  split
  · exact ⟨_, Envelope.ofText_refusal now _ (by decide) _⟩
  · exact ⟨_, Envelope.ofText_refusal now _ (by decide) _⟩

/-- **Every text of a client is refused, and nobody else notices.**

The task of a connection answers a text with a text of its own.  That is read as
an error without an event name: with the identifier of the text, to the letter,
and the code 405 if the text is an envelope, and without an identifier and with
the code 400 if it is none.

No listener is given anything by it, under any name: a client that finds it
among its frames, wherever, shows its listener what it would have shown without
it, and ends alike.  And if it is sent to the gateway in its turn, it is refused
there with the code 405 and under the identifier that it has. -/
theorem replies (fresh : Fresh) (t : String) :
    ∃ reply, react fresh (.ofClient (.frame (.text t))) = .send reply ∧
      (∀ m, Envelope.ofText t = .ok m → Refuses m.id 405 reply) ∧
      ((∀ m, Envelope.ofText t ≠ .ok m) → Refuses "" 400 reply) ∧
      (∀ name, Envelope.decodeEvent reply name = none) ∧
      (∀ {σ : Type} (name : String) (e : Endpoint) (before after : List Received)
        (l : Listener σ) (s : σ),
        let heard := Client.listen ⟨e, before ++ .frame (.text reply) :: after⟩ name l s
        let unheard := Client.listen ⟨e, before ++ after⟩ name l s
        heard.1 = unheard.1 ∧ heard.2.2 = unheard.2.2) ∧
      ∀ fresh' : Fresh, ∃ again m, Envelope.ofText reply = .ok m ∧
        react fresh' (.ofClient (.frame (.text reply))) = .send again ∧ Refuses m.id 405 again := by
  have hsilent (name : String) := decodeEvent_replyTo fresh.now t name
  refine ⟨(replyTo fresh.now t).text, rfl, fun m h => refuses_replyTo_of_ok h fresh.now,
    fun h => ?_, hsilent, fun name e before after l s =>
      Client.listen_passes (hsilent name) e before after l s, fun fresh' => ?_⟩
  · cases hread : Envelope.ofText t with
    | ok m => exact absurd hread (h m)
    | error f => exact refuses_replyTo_of_error hread fresh.now
  · obtain ⟨m, hm⟩ := exists_ofText_replyTo fresh.now t
    exact ⟨_, m, hm, rfl, refuses_replyTo_of_ok hm fresh'.now⟩

/-- A command is refused under its identifier, which must be escaped, and a text
that is no JSON without one. -/
theorem replies_to_command_and_garbage :
    let command : Envelope := ⟨"c-\"1\"\n☃", .command, none, default, .object []⟩
    (∃ reply, react default (.ofClient (.frame (.text command.text))) = .send reply ∧
      Refuses "c-\"1\"\n☃" 405 reply) ∧
    ∃ reply, react default (.ofClient (.frame (.text "not json"))) = .send reply ∧
      Refuses "" 400 reply := by
  intro command
  obtain ⟨reply, hsent, hrefused, -⟩ := replies default command.text
  obtain ⟨reply', hsent', -, hrefused', -⟩ := replies default "not json"
  have hcommand : Envelope.ofText command.text = .ok command :=
    Envelope.ofText_text trivial ⟨List.Pairwise.nil, trivial⟩ (by decide)
  have hgarbage : (Envelope.ofText "not json").toOption.isNone = true := by decide +kernel
  refine ⟨⟨reply, hsent, hrefused command hcommand⟩, reply', hsent', hrefused' fun m hm => ?_⟩
  rw [hm] at hgarbage
  cases hgarbage

end Gateway

end EventFeed
