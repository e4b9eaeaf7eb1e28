import EventFeed.Gateway.Respond
import EventFeed.Proofs.Json.Record

/-!
# EventFeed.Proofs.Gateway.Emission

What a request can do to the bus.  There are three cases
(`answered_respond`): it publishes the event that its body asks for, and is
answered 202; it joins a namespace, and the connection stays open; or it
leaves the bus alone, and its answer is another one.
-/

namespace EventFeed

/-! ## Requests to publish -/

namespace EmitRequest

/-- A request is granted if its namespace is one, its event has a name, and
its data is not `null`. -/
theorem event?_eq_ok_iff {now : Timestamp} {r : EmitRequest} {e : Event} :
    r.event? now = .ok e ↔ ∃ n, Namespace.parse r.path = .ok n ∧ trimText r.event ≠ "" ∧
      r.data.isNull = false ∧ e = Event.publishedAt now n (trimText r.event) r.data := by
  rw [event?, Json.bind_eq_ok_iff]
  refine exists_congr fun n => and_congr_right fun _ => ?_
  by_cases hname : trimText r.event = ""
  · simp [hname, bind, Except.bind]
  · by_cases hnull : r.data.isNull = true
    · simp [hname, hnull, bind, Except.bind]
    · simp [hname, hnull, pure, Except.pure, eq_comm]

/-- What is claimed of data holds of that of a draft, if it is there. -/
def Draft.Holds (P : Json → Prop) (d : Draft) : Prop := ∀ j, d.data = some j → P j

section Data

variable {P : Json → Prop} (hnull : P .null)
  (hread : ∀ {bound depth : Nat} {input rest : Input} {j : Json},
    Json.readValue bound depth input = .ok (j, rest) → P j)

include hnull hread

theorem keeps_holds : ∀ f ∈ shape.fields, Json.Record.Keeps (Draft.Holds P) f := by
  intro f hf
  simp only [shape, List.mem_cons, List.not_mem_nil, or_false] at hf
  rcases hf with rfl | rfl | rfl
  · refine ⟨fun h hs => ?_, fun h => by cases h⟩
    obtain ⟨_, -, h⟩ := Json.bind_eq_ok_iff.1 h
    cases h
    exact hs
  · refine ⟨fun h hs => ?_, fun h => by cases h⟩
    obtain ⟨_, -, h⟩ := Json.bind_eq_ok_iff.1 h
    cases h
    exact hs
  · refine ⟨fun h hs j hj => ?_, fun h hs j hj => ?_⟩
    · obtain ⟨⟨x, _⟩, hx, h⟩ := Json.bind_eq_ok_iff.1 h
      cases h
      cases hj
      exact hread hx
    · cases h
      cases hj
      exact hnull

/-- What holds of `null`, the default, and of every value that is read holds of the data
of a request that was read. -/
theorem holds_of_ofBytes {body : List UInt8} {r : EmitRequest} (h : ofBytes body = .ok r) :
    P r.data := by
  obtain ⟨⟨r', rest⟩, hrequest, h⟩ := Json.bind_eq_ok_iff.1 h
  obtain ⟨_, -, h⟩ := Json.bind_eq_ok_iff.1 h
  cases h
  obtain ⟨⟨draft, _⟩, hdraft, h⟩ := Json.bind_eq_ok_iff.1 hrequest
  have hholds : draft.Holds P :=
    Json.Record.keeps_read (keeps_holds hnull hread) hdraft fun j hj => by cases hj
  obtain ⟨path, event, data⟩ := draft
  dsimp only at h
  split at h
  · next hfinish =>
    cases h
    unfold Draft.finish? at hfinish
    split at hfinish
    · next heq =>
      cases hfinish
      cases heq
      exact hholds _ rfl
    · cases hfinish
  · cases h

end Data

end EmitRequest

namespace Gateway

/-- What a request carries is what its body spells. -/
theorem ofBytes_of_emitRequest {r : Http.Request} {q : EmitRequest} (h : emitRequest r = .ok q) :
    EmitRequest.ofBytes r.body = .ok q := by
  rw [emitRequest] at h
  split at h
  · cases h
  split at h
  · cases h
  · cases hbytes : EmitRequest.ofBytes r.body with
    | error f =>
      rw [hbytes] at h
      cases h
    | ok q' =>
      rw [hbytes] at h
      cases h
      rfl

/-- The data of a request that is carried is ordered. -/
theorem ordered_of_emitRequest {r : Http.Request} {q : EmitRequest} (h : emitRequest r = .ok q) :
    q.data.Ordered :=
  EmitRequest.holds_of_ofBytes trivial Json.ordered_of_readValue (ofBytes_of_emitRequest h)

/-- Its numbers fit. -/
theorem fits_of_emitRequest {r : Http.Request} {q : EmitRequest} (h : emitRequest r = .ok q) :
    q.data.Fits :=
  EmitRequest.holds_of_ofBytes trivial Json.fits_of_readValue (ofBytes_of_emitRequest h)

/-! ## Answers -/

theorem status_plain {status : Nat} (h : status ≠ 202) (text : String) :
    (Http.Response.plain status text).status ≠ 202 := h

/-- No error of the feed is answered 202. -/
theorem status_response (e : FeedError) : e.response.status ≠ 202 := by
  have hstatus : e.response.status = e.status := rfl
  rw [hstatus]
  cases e <;> simp [FeedError.status]

theorem status_of_emitRequest {r : Http.Request} {response : Http.Response}
    (h : emitRequest r = .error response) : response.status ≠ 202 := by
  rw [emitRequest] at h
  split at h
  · cases h
    exact status_plain (by decide) _
  split at h
  · cases h
    exact status_plain (by decide) _
  · cases hbytes : EmitRequest.ofBytes r.body with
    | ok q =>
      rw [hbytes] at h
      cases h
    | error f =>
      rw [hbytes] at h
      cases h
      rw [unreadable]
      split
      · exact status_plain (by decide) _
      · exact status_plain (by decide) _
      · exact status_plain (by decide) _

theorem status_of_checkUpgrade {upgradable : Bool} {r : Http.Request} {response : Http.Response}
    (h : checkUpgrade upgradable r = .error response) : response.status ≠ 202 := by
  rw [checkUpgrade] at h
  repeat' split at h
  all_goals first
    | exact Except.error.inj h ▸ status_plain (by decide) _
    | cases h

/-- A segment that is no namespace is answered 400. -/
theorem status_of_channelOf_error {segment : String} {response : Http.Response}
    (h : channelOf segment = .error response) : response.status = 400 := by
  rw [channelOf] at h
  cases hs : Http.percentDecode? segment with
  | none =>
    rw [hs] at h
    cases h
    rfl
  | some s =>
    rw [hs] at h
    dsimp only at h
    rw [Namespace.ofSegment] at h
    split at h
    · cases h
    · cases h
      rfl

theorem status_of_channelOf {segment : String} {response : Http.Response}
    (h : channelOf segment = .error response) : response.status ≠ 202 := by
  rw [status_of_channelOf_error h]
  decide

theorem status_of_upgrade {upgradable : Bool} {segment : String} {r : Http.Request}
    {response : Http.Response} (h : upgrade upgradable segment r = .error response) :
    response.status ≠ 202 := by
  cases hcheck : checkUpgrade upgradable r with
  | error f =>
    rw [upgrade, hcheck] at h
    cases h
    exact status_of_checkUpgrade hcheck
  | ok u =>
    rw [upgrade, hcheck] at h
    exact status_of_channelOf h

/-- Only a `GET` request joins anything. -/
theorem method_of_upgrade {upgradable : Bool} {segment : String} {r : Http.Request}
    {n : Namespace} (h : upgrade upgradable segment r = .ok n) : r.method = "GET" := by
  obtain ⟨_, hcheck, -⟩ := Json.bind_eq_ok_iff.1 h
  rw [checkUpgrade] at hcheck
  split at hcheck
  · cases hcheck
  · next hmethod => exact Classical.not_not.1 hmethod

/-- Dressing an answer keeps its status. -/
theorem status_dress (method : String) (r : Http.Response) :
    (dress method r).status = r.status := by
  rw [dress]
  split <;> rfl

/-! ## Cases -/

/-- The answer to a request that was accepted, with so many listeners. -/
def accepted (delivered : Nat) : Http.Response :=
  dress "POST" (.json 202 (Json.record [("delivered", .ofNat delivered)]))

/-- Why a request is refused, or answered without doing anything. -/
inductive Refusal (now : Timestamp) (upgradable : Bool) (r : Http.Request) : Prop where
  /-- It asks what is allowed. -/
  | preflight (method : r.method = "OPTIONS")
  /-- Its path leads nowhere. -/
  | astray (path : Route.ofPath? r.path = none)
  /-- Its path does not know its method. -/
  | method {route : Route} (path : Route.ofPath? r.path = some route)
      (method : r.method ∉ route.methods)
  /-- It asks for the gateway's health. -/
  | health (path : Route.ofPath? r.path = some .health)
  /-- Its body is not sent as JSON, is too long, or is no request to publish. -/
  | unread {response : Http.Response} (path : Route.ofPath? r.path = some .emit)
      (read : emitRequest r = .error response)
  /-- What it asks to publish is no event. -/
  | invalid {q : EmitRequest} {e : FeedError} (path : Route.ofPath? r.path = some .emit)
      (read : emitRequest r = .ok q) (asks : q.event? now = .error e)
  /-- It does not ask for a WebSocket as it must, or its segment is no namespace. -/
  | unjoined {segment : String} {response : Http.Response}
      (path : Route.ofPath? r.path = some (.channel segment))
      (joins : upgrade upgradable segment r = .error response)

/-- What a request does to the bus, and how it is answered. -/
inductive Answered (now : Timestamp) (upgradable : Bool) (b : Bus) (r : Http.Request) :
    Bus × Answer → Prop where
  /-- It publishes the event that its body asks for. -/
  | accepted {q : EmitRequest} {e : Event} (method : r.method = "POST")
      (path : r.path = "/api/v1/emit") (read : emitRequest r = .ok q)
      (asks : q.event? now = .ok e) :
    Answered now upgradable b r ((b.publish e).1, .response (Gateway.accepted (b.publish e).2))
  /-- It joins the namespace of its path. -/
  | upgraded {segment : String} {n : Namespace} (method : r.method = "GET")
      (path : Route.ofPath? r.path = some (.channel segment))
      (joins : upgrade upgradable segment r = .ok n) :
    Answered now upgradable b r ((b.join n).1, .upgrade (b.join n).2)
  /-- It leaves the bus alone. -/
  | refused {response : Http.Response} (reason : Refusal now upgradable r)
      (status : response.status ≠ 202) :
    Answered now upgradable b r (b, .response response)

/-- Only one path is that of requests to publish. -/
theorem path_of_route_emit {path : String} (h : Route.ofPath? path = some .emit) :
    path = "/api/v1/emit" := by
  unfold Route.ofPath? at h
  split at h
  · assumption
  split at h
  · cases h
  · split at h
    · split at h <;> cases h
    · cases h

/-- A request to publish publishes the event it asks for, or nothing. -/
theorem answered_emit {now : Timestamp} {upgradable : Bool} {b : Bus} {r : Http.Request}
    (method : r.method = "POST") (path : Route.ofPath? r.path = some .emit) :
    Answered now upgradable b r (follow now upgradable b r .emit) := by
  rw [follow, emit]
  cases hq : emitRequest r with
  | error response =>
    refine .refused (.unread path hq) ?_
    rw [status_dress]
    exact status_of_emitRequest hq
  | ok q =>
    dsimp only
    cases he : q.event? now with
    | error e =>
      refine .refused (.invalid path hq he) ?_
      rw [status_dress]
      exact status_response e
    | ok e =>
      rw [method]
      exact .accepted method (path_of_route_emit path) hq he

/-- A request on the path of a namespace joins it, or does nothing. -/
theorem answered_channel {now : Timestamp} {upgradable : Bool} {b : Bus} {r : Http.Request}
    {segment : String} (path : Route.ofPath? r.path = some (.channel segment)) :
    Answered now upgradable b r (follow now upgradable b r (.channel segment)) := by
  rw [follow]
  cases hu : upgrade upgradable segment r with
  | error response =>
    refine .refused (.unjoined path hu) ?_
    rw [status_dress]
    exact status_of_upgrade hu
  | ok n => exact .upgraded (method_of_upgrade hu) path hu

/-- **What a request does** to the bus, and how it is answered. -/
theorem answered_respond (now : Timestamp) (upgradable : Bool) (b : Bus) (r : Http.Request) :
    Answered now upgradable b r (respond now upgradable b r) := by
  rw [respond]
  split
  · next hoptions => exact .refused (.preflight hoptions) (by decide : 200 ≠ 202)
  split
  · next hroute =>
    refine .refused (.astray hroute) ?_
    rw [status_dress]
    exact (by decide : 404 ≠ 202)
  · next route hroute =>
    split
    · next hmethod =>
      cases route with
      | emit => exact answered_emit (List.mem_singleton.1 hmethod) hroute
      | health =>
        refine .refused (.health hroute) ?_
        rw [status_dress]
        exact (by decide : 200 ≠ 202)
      | channel segment => exact answered_channel hroute
    · next hmethod =>
      refine .refused (.method hroute hmethod) ?_
      rw [status_dress]
      exact (by decide : 405 ≠ 202)

end Gateway

end EventFeed
