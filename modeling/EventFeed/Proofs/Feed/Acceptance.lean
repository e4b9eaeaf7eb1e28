import EventFeed.Proofs.Gateway.Delivery
import EventFeed.Proofs.Gateway.Requests

/-!
# EventFeed.Proofs.Feed.Acceptance

What listeners make of the data that the gateway accepts.  A request that is
answered 202 publishes its data, and every task that receives the event
forwards it; but its envelope can be read only if the data leaves room for
the two objects around it (`accepted_event_shown`).  The body of the request
needs room for one, so data that is just too deep is accepted, counted as
delivered, and shown to nobody (`deep_data_accepted_but_not_shown`).
-/

namespace EventFeed

open Gateway (State accepted)

/-- A task that receives an event forwards it, if it can send. -/
theorem Gateway.State.forwards {g : State} {i : Nat} {c : Gateway.Connection}
    (hopen : g.open? i = some c) (hsendable : c.sendable = true) {e : Event}
    (hitem : (c.subscription.receive g.bus).1 = .item e) (fresh : Fresh) :
    ∃ d, (g.step fresh (.readBus i)).1.open? i = some d ∧
      d.sent = c.sent ++ [(Envelope.ofEvent fresh.id e).text] := by
  obtain ⟨hget, hrunning⟩ := State.open?_eq_some_iff.1 hopen
  obtain ⟨hlt, -⟩ := List.getElem?_eq_some_iff.1 hget
  rw [State.step, hopen]
  dsimp only
  rw [hitem, State.apply, Gateway.react]
  dsimp only
  rw [if_pos hsendable]
  exact ⟨_, State.open?_put_self hlt hrunning, rfl⟩

/-- **What becomes of an accepted request**: its event is published, and its
listeners are counted.  Every task that receives the event forwards it, and those who
listen for its trimmed name are shown its data, unless that is too deep within the
envelope.  The numbers of the data are read again on the way, which changes no
integer. -/
theorem accepted_event_shown {g g' : State} {fresh : Fresh} {upgradable : Bool}
    {r : Http.Request} {response : Http.Response}
    (h : g.step fresh (.request upgradable r) = (g', some (.response response)))
    (hstatus : response.status = 202) :
    ∃ q n, Gateway.emitRequest r = .ok q ∧ Namespace.parse q.path = .ok n ∧
      let e := Event.publishedAt fresh.now n (trimText q.event) q.data
      g'.bus = (g.bus.publish e).1 ∧ response = accepted (g.bus.publish e).2 ∧
      ∀ {t : State} {i : Nat} {c : Gateway.Connection} (later : Fresh), t.open? i = some c →
        c.sendable = true → (c.subscription.receive t.bus).1 = .item e →
        ∃ d text, (t.step later (.readBus i)).1.open? i = some d ∧ d.sent = c.sent ++ [text] ∧
          (Envelope.decodeEvent text (trimText q.event) =
            if q.data.depth + 2 ≤ Json.maxDepth then some (Envelope.dataText q.data.reread)
            else none) ∧
          (q.data.AllIntegers → Envelope.decodeEvent text (trimText q.event) =
            if q.data.depth + 2 ≤ Json.maxDepth then some (Envelope.dataText q.data)
            else none) := by
  have hanswered := Gateway.answered_respond fresh.now upgradable g.bus r
  rw [State.step] at h
  generalize Gateway.respond fresh.now upgradable g.bus r = p at h hanswered
  cases hanswered with
  | upgraded => cases h
  | refused reason status =>
    cases h
    exact absurd hstatus status
  | @accepted q e method path read asks =>
    cases h
    obtain ⟨n, hparse, -, -, rfl⟩ := EmitRequest.event?_eq_ok_iff.1 asks
    refine ⟨q, n, read, hparse, rfl, rfl, fun later hopen hsendable hitem => ?_⟩
    obtain ⟨d, hd, hsent⟩ := State.forwards hopen hsendable hitem later
    have hdecode := Envelope.decodeEvent_reread
      (e := Event.publishedAt fresh.now n (trimText q.event) q.data)
      (Gateway.fits_of_emitRequest read) (Gateway.ordered_of_emitRequest read) later.id
      (trimText q.event)
    simp only [Event.publishedAt, true_and] at hdecode
    refine ⟨d, _, hd, hsent, hdecode, fun hintegers => ?_⟩
    rw [Json.reread_of_allIntegers hintegers] at hdecode
    exact hdecode

/-! ## Samples -/

/-- The sample gateway accepts a request to publish, and its connection receives the
event. -/
theorem publish_sampleGateway {name : String} {data : Json} (hname : trimText name ≠ "")
    (hnull : data.isNull = false) (hintegers : data.AllIntegers) (hordered : data.Ordered)
    (hdepth : data.depth + 1 ≤ Json.maxDepth)
    (hlength : (requestToPublish .standard name data).body.length ≤ Gateway.maxBody) :
    Gateway.emitRequest (requestToPublish .standard name data) =
        .ok ⟨Namespace.standard.path, name, data⟩ ∧
      ∃ g c, sampleGateway.step default (.request false (requestToPublish .standard name data)) =
          (g, some (.response (accepted 1))) ∧
        g.open? 0 = some c ∧ c.sendable = true ∧ c.sent = [] ∧
        (c.subscription.receive g.bus).1 =
          .item (Event.publishedAt default .standard (trimText name) data) := by
  have hrespond := Gateway.respond_requestToPublish default false sampleGateway.bus .standard
    hname hnull hintegers hordered hdepth hlength
  have hnow : (default : Fresh).now = default := rfl
  refine ⟨Gateway.emitRequest_requestToPublish _ _ hintegers hordered hdepth hlength,
    { sampleGateway with bus := (sampleGateway.bus.publish
      (Event.publishedAt default .standard (trimText name) data)).1 },
    Gateway.Connection.opened ⟨.standard, ⟨0⟩⟩, ?_, rfl, rfl, rfl, rfl⟩
  rw [State.step, hnow, hrespond]
  rfl

/-- A request to publish lists in one another. -/
def nestedRequest (n : Nat) : Http.Request := requestToPublish .standard " name " (Json.nested n)

/-- Its body is short enough. -/
theorem length_nestedRequest {n : Nat} (h : n ≤ 126) :
    (nestedRequest n).body.length ≤ Gateway.maxBody := by
  let q : EmitRequest := ⟨Namespace.standard.path, " name ", Json.nested n⟩
  have hbody : (nestedRequest n).body = Utf8.encode (Json.record q.members) := by
    rw [nestedRequest, requestToPublish]
  have hchars : (Json.record q.members).toList.length = 46 + (Json.nested n).chars.length := by
    have hnames : (Json.stringChars "namespace" ++ Json.stringChars Namespace.standard.path ++
        Json.stringChars "event" ++ Json.stringChars " name " ++
        Json.stringChars "data").length = 39 := by decide +kernel
    simp only [List.length_append] at hnames
    simp only [q, Json.record, Json.text, String.toList_ofList, EmitRequest.members, Json.chars,
      Json.membersChars, List.length_append, List.length_cons, List.length_nil]
    omega
  have hlength := Utf8.length_encode_le (Json.record q.members)
  rw [hchars, Json.length_chars_nested] at hlength
  rw [hbody, Gateway.maxBody]
  omega

/-- The sample gateway accepts it, and its connection receives the event. -/
theorem step_sampleGateway {n : Nat} (hpos : 0 < n) (h : n ≤ 126) :
    Gateway.emitRequest (nestedRequest n) =
        .ok ⟨Namespace.standard.path, " name ", Json.nested n⟩ ∧
      ∃ g c, sampleGateway.step default (.request false (nestedRequest n)) =
          (g, some (.response (accepted 1))) ∧
        g.open? 0 = some c ∧ c.sendable = true ∧ c.sent = [] ∧
        (c.subscription.receive g.bus).1 =
          .item (Event.publishedAt default .standard "name" (Json.nested n)) := by
  have hdepth : (Json.nested n).depth + 1 ≤ Json.maxDepth := by
    rw [Json.depth_nested, Json.maxDepth]
    omega
  have hnull : (Json.nested n).isNull = false := by
    cases n with
    | zero => cases hpos
    | succ n => rfl
  have htrim : trimText " name " = "name" := by decide +kernel
  have hname : trimText " name " ≠ "" := by
    rw [htrim]
    decide
  rw [← htrim]
  exact publish_sampleGateway hname hnull (Json.allIntegers_nested n) (Json.ordered_nested n)
    hdepth (length_nestedRequest h)

/-- Data of 125 lists in one another is accepted and shown. -/
theorem nested_data_accepted_and_shown :
    ∃ g d text, sampleGateway.step default (.request false (nestedRequest 125)) =
        (g, some (.response (accepted 1))) ∧
      (g.step default (.readBus 0)).1.open? 0 = some d ∧ d.sent = [text] ∧
      Envelope.decodeEvent text "name" = some (Json.nested 125).text := by
  obtain ⟨hread, g, c, hstep, hopen, hsendable, hsent, hitem⟩ :=
    step_sampleGateway (by decide : 0 < 125) (by decide)
  obtain ⟨q, n, hq, hparse, hshown⟩ := accepted_event_shown hstep rfl
  obtain rfl := Except.ok.inj (hread.symm.trans hq)
  obtain rfl := Except.ok.inj ((Namespace.parse_path .standard).symm.trans hparse)
  have htrim : trimText " name " = "name" := by decide +kernel
  dsimp only at hshown
  rw [htrim] at hshown
  obtain ⟨d, text, hd, hdsent, -, hdecode⟩ := hshown.2.2 default hopen hsendable hitem
  rw [hsent] at hdsent
  refine ⟨g, d, text, hstep, hd, hdsent, (hdecode (Json.allIntegers_nested 125)).trans (if_pos ?_)⟩
  simp [Json.maxDepth]

/-- Data of 126 lists in one another is accepted, and one listener is
counted; but its envelope shows nothing. -/
theorem deep_data_accepted_but_not_shown :
    Gateway.emitRequest (nestedRequest 126) =
        .ok ⟨Namespace.standard.path, " name ", Json.nested 126⟩ ∧
      ∃ g d text, sampleGateway.step default (.request false (nestedRequest 126)) =
          (g, some (.response (accepted 1))) ∧
        (g.step default (.readBus 0)).1.open? 0 = some d ∧ d.sent = [text] ∧
        Envelope.decodeEvent text "name" = none := by
  obtain ⟨hread, g, c, hstep, hopen, hsendable, hsent, hitem⟩ :=
    step_sampleGateway (by decide : 0 < 126) (by decide)
  obtain ⟨d, hd, hdsent⟩ := State.forwards hopen hsendable hitem default
  rw [hsent] at hdsent
  have hdeep : Json.maxDepth < (Json.nested 126).depth + 2 := by simp [Json.maxDepth]
  exact ⟨hread, g, d, _, hstep, hd, hdsent, Envelope.decodeEvent_of_deep
    (Json.fits_of_allIntegers (Json.allIntegers_nested 126)) (Json.ordered_nested 126) hdeep _ _⟩

end EventFeed
