import EventFeed.Gateway.Run
import EventFeed.Proofs.Gateway.Emission
import EventFeed.Proofs.Text.Utf8
import Mathlib.Data.List.TakeWhile

/-!
# EventFeed.Proofs.Gateway.Requests

Requests as clients write them.  A request to publish is read as it was
written (`Gateway.emitRequest_requestToPublish`), and it is accepted if its
event has a name and its data is there (`Gateway.respond_requestToPublish`).
-/

namespace EventFeed

open Json (Reads)
open Json.Record (Fills)

/-- The path of a target is what stands before its query. -/
theorem Http.Request.path_of_target {r : Http.Request} {cs query : List Char}
    (htarget : r.target.toList = '/' :: (cs ++ query)) (hclean : ∀ c ∈ cs, c ≠ '?' ∧ c ≠ '#')
    (hquery : ∀ c ∈ query.head?, c = '?' ∨ c = '#') : r.path.toList = '/' :: cs := by
  have hrest : query.takeWhile (fun c => c != '?' && c != '#') = [] := by
    cases query with
    | nil => rfl
    | cons c query => rcases hquery c rfl with rfl | rfl <;> rfl
  have hpath : (cs ++ query).takeWhile (fun c => c != '?' && c != '#') = cs := by
    rw [List.takeWhile_append_of_pos fun c hc => by simp [hclean c hc], hrest, List.append_nil]
  unfold Http.Request.path
  rw [htarget]
  simp only [hpath, String.toList_ofList]

/-- A target without a query is its own path. -/
theorem Http.Request.path_eq_target {r : Http.Request} {cs : List Char}
    (htarget : r.target.toList = '/' :: cs) (hclean : ∀ c ∈ cs, c ≠ '?' ∧ c ≠ '#') :
    r.path = r.target := by
  have hall : r.target.toList = '/' :: (cs ++ []) := by rw [htarget, List.append_nil]
  exact String.toList_inj.1 ((path_of_target hall hclean (by simp)).trans htarget.symm)

/-- A request to join a namespace. -/
def requestToJoin (n : Namespace) : Http.Request where
  method := "GET"
  target := n.path
  headers := [("connection", Utf8.encode "Upgrade"), ("upgrade", Utf8.encode "websocket"),
    ("sec-websocket-key", []), ("sec-websocket-version", Utf8.encode "13")]
  body := []

/-- The members of the body of a request to publish. -/
def EmitRequest.members (q : EmitRequest) : List (String × Json) :=
  [("namespace", .string q.path), ("event", .string q.event), ("data", q.data)]

/-- A request to publish. -/
def requestToPublish (n : Namespace) (name : String) (data : Json) : Http.Request where
  method := "POST"
  target := "/api/v1/emit"
  headers := [("content-type", Utf8.encode "application/json")]
  body := Utf8.encode (Json.record (EmitRequest.mk n.path name data).members)

/-- A gateway of two slots, right after a connection on the standard
namespace was opened. -/
def sampleGateway : Gateway.State :=
  ((Gateway.State.mk ⟨Channel.create 2, []⟩ []).step default
    (.request true (requestToJoin .standard))).1

namespace EmitRequest

/-- The members fill the fields of the request. -/
theorem fills_members {q : EmitRequest} {bound depth : Nat}
    (hdata : Reads (Json.readValue bound depth) q.data) :
    Fills shape bound depth Draft.empty q.members
      ⟨some q.path, some q.event, some q.data.reread⟩ := by
  refine .member ⟨some q.path, none, none⟩ rfl rfl (fun rest _ => ?_)
    (.member ⟨some q.path, some q.event, none⟩ rfl rfl (fun rest _ => ?_)
      (.member _ rfl rfl (fun rest hrest => ?_) (.done _)))
  · simp only [Json.readText_chars, bind, Except.bind, pure, Except.pure]
    rfl
  · simp only [Json.readText_chars, bind, Except.bind, pure, Except.pure]
  · simp only [hdata rest hrest, bind, Except.bind, pure, Except.pure]

/-- Their text is read as the request. -/
theorem ofBytes_encode {q : EmitRequest} (hintegers : q.data.AllIntegers)
    (hordered : q.data.Ordered) (hdepth : q.data.depth + 1 ≤ Json.maxDepth) :
    ofBytes (Utf8.encode (Json.record q.members)) = .ok q := by
  obtain ⟨depth, hmax⟩ : ∃ depth, Json.maxDepth = depth + 1 := ⟨126, rfl⟩
  have hmem : ("data", q.data) ∈ q.members := by simp [members]
  have hdata : Reads (Json.readValue (Json.boundOf (Utf8.ofText (Json.record q.members))) depth)
      q.data :=
    Json.readValue_chars (Json.fits_of_allIntegers hintegers) hordered (by omega)
      (Json.length_member_le_boundOf hmem)
  have hread := Json.Record.read_object (fills_members hdata)
    (u := ⟨some q.path, some q.event, some q.data.reread⟩) rfl
    (Json.length_object_le_boundOf q.members) []
  rw [Json.reread_of_allIntegers hintegers, ← Json.symbols_record, ← hmax] at hread
  rw [ofBytes, Utf8.symbols_encode, Json.readAll]
  show (read _ _ _ >>= _) = _
  rw [read, hread]
  rfl

end EmitRequest

namespace Gateway

/-- **A request to publish is read as it was written.** -/
theorem emitRequest_requestToPublish (n : Namespace) (name : String) {data : Json}
    (hintegers : data.AllIntegers) (hordered : data.Ordered)
    (hdepth : data.depth + 1 ≤ Json.maxDepth)
    (hlength : (requestToPublish n name data).body.length ≤ maxBody) :
    emitRequest (requestToPublish n name data) = .ok ⟨n.path, name, data⟩ := by
  have hjson : (requestToPublish n name data).hasJson = true := by
    rw [Http.Request.hasJson, Http.Request.headerText?]
    have hheader : (requestToPublish n name data).header? "content-type" =
        some (Utf8.encode "application/json") := rfl
    rw [hheader, Option.bind_some, Utf8.decode?_encode]
    decide +kernel
  have hread : EmitRequest.ofBytes (requestToPublish n name data).body =
      .ok ⟨n.path, name, data⟩ := by
    have h := EmitRequest.ofBytes_encode (q := ⟨n.path, name, data⟩) hintegers hordered hdepth
    rw [requestToPublish]
    dsimp only
    rw [h]
  rw [emitRequest, hjson, if_neg (by decide), if_neg (Nat.not_lt.2 hlength), hread]
  rfl

/-- **It is accepted** if its event has a name and its data is there. -/
theorem respond_requestToPublish (now : Timestamp) (upgradable : Bool) (b : Bus) (n : Namespace)
    {name : String} (hname : trimText name ≠ "") {data : Json} (hnull : data.isNull = false)
    (hintegers : data.AllIntegers) (hordered : data.Ordered)
    (hdepth : data.depth + 1 ≤ Json.maxDepth)
    (hlength : (requestToPublish n name data).body.length ≤ maxBody) :
    respond now upgradable b (requestToPublish n name data) =
      ((b.publish (Event.publishedAt now n (trimText name) data)).1, .response
        (accepted (b.publish (Event.publishedAt now n (trimText name) data)).2)) := by
  have hread := emitRequest_requestToPublish n name hintegers hordered hdepth hlength
  have hevent : (EmitRequest.mk n.path name data).event? now =
      .ok (Event.publishedAt now n (trimText name) data) :=
    EmitRequest.event?_eq_ok_iff.2 ⟨n, Namespace.parse_path n, hname, hnull, rfl⟩
  have hmethod : (requestToPublish n name data).method = "POST" := rfl
  have hchars : "/api/v1/emit".toList = '/' :: "api/v1/emit".toList := by decide
  have hpath : (requestToPublish n name data).path = "/api/v1/emit" :=
    Http.Request.path_eq_target hchars (by simp)
  have hroute : Route.ofPath? "/api/v1/emit" = some .emit := by decide
  rw [respond, hpath, hroute, hmethod, if_neg (by decide)]
  dsimp only
  rw [if_pos (by decide), follow, emit, hread]
  dsimp only
  rw [hevent]
  rfl

end Gateway

end EventFeed
