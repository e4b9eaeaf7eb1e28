import EventFeed.Proofs.Bus.Delivery
import EventFeed.Proofs.Client.Connecting
import EventFeed.Proofs.Gateway.Delivery
import EventFeed.Proofs.Gateway.Requests
import EventFeed.Proofs.Gateway.Task
import EventFeed.Proofs.Http.Percent

/-!
# EventFeed.Proofs.Gateway.Access

Which requests get through to the bus.

A request that is neither answered 202 on the path of requests to publish,
nor upgraded on the path of a namespace, leaves no trace
(`refused_request_leaves_bus`): whatever is asked of the gateway later comes
out as if the request had not been made.

A namespace is joined by a request on its own path.  Paths are looked up
among the fixed routes first, so this goes wrong for the one namespace whose
path is such a route (`joinable_unless_health`): events can be published on
`/health`, but nobody can listen there.
-/

namespace EventFeed

namespace Gateway

variable {now : Timestamp} {upgradable : Bool} {b : Bus} {r : Http.Request}

/-! ## Refused requests -/

/-- Does the answer let the request through?  It is 202 on the path of
requests to publish, or an upgrade on the path of the namespace that is
joined. -/
def Answer.Grants (r : Http.Request) : Answer → Prop
  | .response a => r.method = "POST" ∧ r.path = "/api/v1/emit" ∧ a.status = 202
  | .upgrade s =>
    r.method = "GET" ∧ ∃ segment, Route.ofPath? r.path = some (.channel segment) ∧
      channelOf segment = .ok s.channel

/-- No request is refused that asks for an event as it must. -/
theorem Refusal.not_accepted (h : Refusal now upgradable r) {q : EmitRequest} {e : Event}
    (method : r.method = "POST") (path : r.path = "/api/v1/emit") (read : emitRequest r = .ok q)
    (asks : q.event? now = .ok e) : False := by
  have hroute : Route.ofPath? r.path = some .emit := by
    rw [path]
    decide
  cases h with
  | preflight hmethod => exact absurd (method.symm.trans hmethod) (by decide)
  | astray hpath => cases hroute.symm.trans hpath
  | method hpath hmethod =>
    cases hroute.symm.trans hpath
    rw [method] at hmethod
    exact hmethod (by decide)
  | health hpath => cases hroute.symm.trans hpath
  | unread _ hread => cases read.symm.trans hread
  | invalid _ hread hasks =>
    cases read.symm.trans hread
    cases asks.symm.trans hasks
  | unjoined hpath => cases hroute.symm.trans hpath

/-- No request is refused that asks for a namespace as it must. -/
theorem Refusal.not_upgraded (h : Refusal now upgradable r) {segment : String} {n : Namespace}
    (method : r.method = "GET") (path : Route.ofPath? r.path = some (.channel segment))
    (joins : upgrade upgradable segment r = .ok n) : False := by
  cases h with
  | preflight hmethod => exact absurd (method.symm.trans hmethod) (by decide)
  | astray hpath => cases path.symm.trans hpath
  | method hpath hmethod =>
    cases path.symm.trans hpath
    rw [method] at hmethod
    exact hmethod List.mem_cons_self
  | health hpath => cases path.symm.trans hpath
  | unread hpath => cases path.symm.trans hpath
  | invalid hpath => cases path.symm.trans hpath
  | unjoined hpath hjoins =>
    cases path.symm.trans hpath
    cases joins.symm.trans hjoins

/-- An answer that lets nothing through has a reason, and nothing else has
one. -/
theorem Answered.grants_iff {p : Bus × Answer} (h : Answered now upgradable b r p) :
    p.2.Grants r ↔ ¬ Refusal now upgradable r := by
  cases h with
  | accepted method path read asks =>
    exact ⟨fun _ h => h.not_accepted method path read asks, fun _ => ⟨method, path, rfl⟩⟩
  | upgraded method path joins =>
    obtain ⟨_, -, hchannel⟩ := Json.bind_eq_ok_iff.1 joins
    exact ⟨fun _ h => h.not_upgraded method path joins, fun _ => ⟨method, _, path, hchannel⟩⟩
  | refused reason status =>
    exact ⟨fun h => absurd h.2.2 status, fun h => absurd reason h⟩

/-- What is refused leaves the bus alone, and opens no connection. -/
theorem Answered.of_refusal {p : Bus × Answer} (h : Answered now upgradable b r p)
    (hrefusal : Refusal now upgradable r) : ∃ response, p = (b, .response response) := by
  cases h with
  | accepted method path read asks =>
    exact (hrefusal.not_accepted method path read asks).elim
  | upgraded method path joins => exact (hrefusal.not_upgraded method path joins).elim
  | refused => exact ⟨_, rfl⟩

/-- **A request that is refused leaves no trace.**

The answer is neither 202 to a request to publish nor an upgrade to a
namespace exactly if the request is one to be refused: for its method, its
path, its headers, its body, or the event or namespace it asks for, or because
it only asks about the gateway.  Then all counts are what they were, every
subscription receives what it would have received, and every later run has the
same states and answers. -/
theorem refused_request_leaves_bus {g g' : State} {fresh : Fresh} {answer : Answer}
    (hstep : g.step fresh (.request upgradable r) = (g', some answer)) :
    (¬ answer.Grants r ↔ Refusal fresh.now upgradable r) ∧
    (¬ answer.Grants r →
      (∀ n, g'.bus.listenerCount n = g.bus.listenerCount n) ∧
      g'.bus.receiverCount = g.bus.receiverCount ∧
      (∀ s : Subscription, s.receive g'.bus = s.receive g.bus) ∧
      ∀ steps, g'.run steps = g.run steps) := by
  have hanswered := answered_respond fresh.now upgradable g.bus r
  have hanswer : (respond fresh.now upgradable g.bus r).2 = answer := by
    rw [State.step] at hstep
    generalize respond fresh.now upgradable g.bus r = p at hstep
    obtain ⟨b, response | s⟩ := p
    · exact Option.some.inj (congrArg Prod.snd hstep)
    · exact Option.some.inj (congrArg Prod.snd hstep)
  have hiff : ¬ answer.Grants r ↔ Refusal fresh.now upgradable r := by
    rw [← hanswer, hanswered.grants_iff, Classical.not_not]
  refine ⟨hiff, fun hgrants => ?_⟩
  obtain ⟨response, hresponse⟩ := hanswered.of_refusal (hiff.1 hgrants)
  rw [State.step, hresponse] at hstep
  obtain rfl : g = g' := congrArg Prod.fst hstep
  exact ⟨fun _ => rfl, rfl, fun _ => rfl, fun _ => rfl⟩

/-- A request to join a namespace that cannot be. -/
def requestToStray : Http.Request := { requestToJoin .standard with target := "/a.b" }

/-- It is refused, and leaves the gateway with its one connection. -/
theorem stray_request_leaves_bus :
    ∃ g answer, sampleGateway.step default (.request true requestToStray) = (g, some answer) ∧
      ¬ answer.Grants requestToStray ∧ g.bus.listenerCount .standard = 1 := by
  have hroute : Route.ofPath? requestToStray.path = some (.channel "a.b") := rfl
  have hjoins : upgrade true "a.b" requestToStray =
      .error (FeedError.invalidNamespace "/a.b").response := rfl
  have hrefusal : Refusal (default : Fresh).now true requestToStray := .unjoined hroute hjoins
  obtain ⟨response, hresponse⟩ := (answered_respond (default : Fresh).now true sampleGateway.bus
    requestToStray).of_refusal hrefusal
  have hstep : sampleGateway.step default (.request true requestToStray) =
      (sampleGateway, some (.response response)) := by rw [State.step, hresponse]
  obtain ⟨hiff, hsame⟩ := refused_request_leaves_bus hstep
  have hgrants := hiff.2 hrefusal
  exact ⟨_, _, hstep, hgrants, ((hsame hgrants).1 _).trans (by decide +kernel)⟩

/-! ## Paths of namespaces -/

/-- The paths of the fixed routes. -/
def fixedPaths : List String := ["/api/v1/emit", "/health"]

/-- **A path leads to a namespace** if it is one segment and no fixed route. -/
theorem ofPath?_eq_channel_iff {path segment : String} :
    Route.ofPath? path = some (.channel segment) ↔
    path.toList = '/' :: segment.toList ∧ segment.toList ≠ [] ∧ '/' ∉ segment.toList ∧
      path ∉ fixedPaths := by
  rw [Route.ofPath?, fixedPaths, List.mem_cons, List.mem_singleton, not_or]
  split
  · next hemit => exact iff_of_false (by simp) fun h => h.2.2.2.1 hemit
  split
  · next hhealth => exact iff_of_false (by simp) fun h => h.2.2.2.2 hhealth
  next hemit hhealth =>
  split
  · next cs hchars =>
    rw [hchars, List.cons.injEq]
    constructor
    · intro h
      split at h
      · next hone =>
        cases h
        rw [String.toList_ofList]
        exact ⟨⟨rfl, rfl⟩, hone.1, hone.2, hemit, hhealth⟩
      · cases h
    · rintro ⟨⟨-, rfl⟩, hne, hslash, -⟩
      rw [if_pos ⟨hne, hslash⟩, String.ofList_toList]
  · next hno => exact iff_of_false (by simp) fun h => hno _ h.1

/-- A segment is read as the namespace that it is decoded to. -/
theorem channelOf_eq_ok_iff {segment : String} {n : Namespace} :
    channelOf segment = .ok n ↔ Http.percentDecode? segment = some n.segment := by
  rw [channelOf]
  cases Http.percentDecode? segment with
  | none => exact iff_of_false (by simp) (by simp)
  | some s =>
    dsimp only
    rw [Option.some.injEq]
    by_cases hs : IsSegment s
    · rw [Namespace.ofSegment, dif_pos hs]
      exact ⟨fun h => by cases h; rfl, fun h => by subst h; rfl⟩
    · rw [Namespace.ofSegment, dif_neg hs]
      exact iff_of_false (by simp [Except.mapError]) fun h => hs (h ▸ n.valid)

/-- The segment of a namespace spells it. -/
theorem channelOf_segment (n : Namespace) : channelOf n.segment = .ok n := by
  refine channelOf_eq_ok_iff.2 ((Http.percentDecode?_eq_some_iff fun c hc => ?_).2 (.refl _))
  exact ⟨n.ascii c hc, (n.plain c hc).2.2.2⟩

/-- The path of a namespace leads to it, unless it is that of the health. -/
theorem route_path (n : Namespace) (h : n.path ≠ "/health") :
    Route.ofPath? n.path = some (.channel n.segment) := by
  have hchars : n.path.toList = '/' :: n.segment.toList := by
    rw [Namespace.path, String.toList_append]
    rfl
  have hslash : '/' ∉ n.segment.toList := fun hc => (n.plain _ hc).1 rfl
  refine ofPath?_eq_channel_iff.2 ⟨hchars, n.valid.1, hslash, fun hfixed => ?_⟩
  rw [fixedPaths, List.mem_cons, List.mem_singleton] at hfixed
  rcases hfixed with hemit | hhealth
  · have hall : n.path.toList = '/' :: "api/v1/emit".toList := by rw [hemit]; decide
    rw [List.tail_eq_of_cons_eq (hchars.symm.trans hall)] at hslash
    exact hslash (by decide)
  · exact h hhealth

/-! ## Requests to join -/

/-- A request that asks for a WebSocket, on whatever path. -/
structure AsksForSocket (r : Http.Request) : Prop where
  method : r.method = "GET"
  connection : r.headerContains "connection" "upgrade" = true
  upgrade : r.headerIs "upgrade" "websocket" = true
  key : (r.header? "sec-websocket-key").isSome = true
  version : r.headerIs "sec-websocket-version" "13" = true

/-- Nothing is wrong with its headers. -/
theorem AsksForSocket.checkUpgrade_eq (h : AsksForSocket r) : checkUpgrade true r = .ok () := by
  have hkey : (r.header? "sec-websocket-key").isNone = false := by
    rw [← Option.not_isSome, h.key]
    rfl
  simp [checkUpgrade, h.method, h.connection, h.upgrade, hkey, h.version]

/-- It joins the namespace that its path leads to. -/
theorem AsksForSocket.respond_of_route (h : AsksForSocket r) {segment : String} {n : Namespace}
    (hroute : Route.ofPath? r.path = some (.channel segment)) (hchannel : channelOf segment = .ok n)
    (now : Timestamp) (b : Bus) :
    respond now true b r = ((b.join n).1, .upgrade (b.join n).2) := by
  have hupgrade : Gateway.upgrade true segment r = .ok n := by
    rw [Gateway.upgrade, h.checkUpgrade_eq]
    exact hchannel
  simp only [respond, h.method, hroute, follow, hupgrade]
  rfl

/-- A well-formed request to join a namespace: it asks for a WebSocket on the
path of the namespace. -/
structure AsksToJoin (n : Namespace) (r : Http.Request) : Prop where
  method : r.method = "GET"
  path : r.path = n.path
  connection : r.headerContains "connection" "upgrade" = true
  upgrade : r.headerIs "upgrade" "websocket" = true
  key : (r.header? "sec-websocket-key").isSome = true
  version : r.headerIs "sec-websocket-version" "13" = true

theorem AsksToJoin.asksForSocket {n : Namespace} (h : AsksToJoin n r) : AsksForSocket r :=
  ⟨h.method, h.connection, h.upgrade, h.key, h.version⟩

/-- It is granted, unless the namespace has the path of the health. -/
theorem AsksToJoin.respond_eq {n : Namespace} (h : AsksToJoin n r) (hn : n.path ≠ "/health")
    (now : Timestamp) (b : Bus) :
    respond now true b r = ((b.join n).1, .upgrade (b.join n).2) := by
  have hroute := route_path n hn
  rw [← h.path] at hroute
  exact h.asksForSocket.respond_of_route hroute (channelOf_segment n) now b

/-- If the namespace has that path, the answer tells the health instead. -/
theorem AsksToJoin.respond_health {n : Namespace} (h : AsksToJoin n r) (hn : n.path = "/health")
    (now : Timestamp) (b : Bus) :
    respond now true b r = (b, .response (dress "GET" (health now b))) := by
  have hroute : Route.ofPath? r.path = some .health := by
    rw [h.path, hn]
    rfl
  simp only [respond, h.method, hroute, follow]
  rfl

namespace State

variable {g : State}

/-- Every event that is published on the namespace by a request counts the
connection, if it runs, and reaches it: the event is among what its
subscription receives next. -/
def Hears (g : State) (i : Nat) (n : Namespace) : Prop :=
  ∀ c, g.open? i = some c → c.subscription.channel = n ∧ c.subscription ∈ g.subscriptions ∧
    ∀ fresh a q, a.accepted? (g.step fresh a).2 = some q → q.path = n.path →
      (g.step fresh a).2 =
        some (.response (accepted (g.subscriptions.countP (·.channel = n)))) ∧
      .item (Event.publishedAt fresh.now n (trimText q.event) q.data) ∈
        (c.subscription.drain (g.step fresh a).1.bus).1

/-- An action that is accepted publishes what it asks for. -/
theorem step_of_accepted {fresh : Fresh} {a : Action} {q : EmitRequest} {n : Namespace}
    (h : a.accepted? (g.step fresh a).2 = some q) (hpath : q.path = n.path) :
    let e := Event.publishedAt fresh.now n (trimText q.event) q.data
    g.step fresh a = ({ g with bus := (g.bus.publish e).1 },
      some (.response (accepted (g.bus.publish e).2))) := by
  cases a with
  | request upgradable r =>
    rw [step] at h ⊢
    have hanswered := answered_respond fresh.now upgradable g.bus r
    generalize respond fresh.now upgradable g.bus r = p at hanswered h ⊢
    cases hanswered with
    | @accepted q' e method path read asks =>
      have hq : q' = q := by
        simpa [Action.accepted?, Gateway.accepted, status_dress, Http.Response.json, read,
          Except.toOption] using h
      subst hq
      obtain ⟨m, hparse, -, -, rfl⟩ := EmitRequest.event?_eq_ok_iff.1 asks
      rw [hpath, Namespace.parse_path] at hparse
      cases hparse
      rfl
    | upgraded => simp [Action.accepted?] at h
    | refused reason status => simp [Action.accepted?, status] at h
  | _ => simp [Action.accepted?] at h

/-- Whoever runs on a namespace hears what is published there. -/
theorem Reached.hears {capacity i : Nat} {n : Namespace} (hreached : Reached capacity g)
    (hchannel : ∀ c, g.open? i = some c → c.subscription.channel = n) : g.Hears i n := by
  intro c hopen
  have hn := hchannel c hopen
  refine ⟨hn, mem_subscriptions hopen, fun fresh a q haccepted hpath => ?_⟩
  obtain ⟨⟨log, hserves⟩, hslots⟩ := hreached.serves
  obtain ⟨xs, ys, hsplit, -⟩ := exists_subscriptions_split hopen
  have hpos : 0 < g.bus.channel.slots := by
    rw [hslots]
    exact slotsFor_pos _
  rw [step_of_accepted haccepted hpath]
  refine ⟨?_, ?_⟩
  · rw [Bus.snd_publish, hserves.counts]
    rfl
  · rw [hsplit] at hserves
    exact hserves.item_mem_drain hpos hn.symm

end State

/-- **Every namespace but `/health` can be joined.**

The path that a client asks for is that of its namespace.  A well-formed
request on it is answered with an upgrade, adds one listener to the namespace
and none to another, and opens a connection that runs on the namespace; as long
as it does, whatever happens in between, every event that is published there
counts it and reaches it.

The one exception is the namespace whose path is that of the gateway's health:
there the health is told, and nothing is joined. -/
theorem joinable_unless_health {capacity : Nat} {g : State} (hreached : State.Reached capacity g)
    {n : Namespace} (hasks : AsksToJoin n r) (fresh : Fresh) :
    (∀ (e : Endpoint) u, e.channel = n → (∀ c ∈ e.host.toList, Uri.endsAuthority c = false) →
      Uri.ofText? e.url.toList = .ok u → Client.requestPath u = n.path) ∧
    (n.path ≠ "/health" → ∃ g' s, g.step fresh (.request true r) = (g', some (.upgrade s)) ∧
      s.channel = n ∧ g'.open? g.connections.length = some (Connection.opened s) ∧
      (∀ m, g'.bus.listenerCount m = g.bus.listenerCount m + if n = m then 1 else 0) ∧
      ∀ steps, (g'.run steps).1.Hears g.connections.length n) ∧
    (n.path = "/health" → g.step fresh (.request true r) =
      (g, some (.response (dress "GET" (health fresh.now g.bus))))) := by
  refine ⟨?_, fun hn => ?_, fun hn => ?_⟩
  · rintro e u rfl hhost hread
    exact Client.requestPath_of_url hread hhost
  · let g' : State := ⟨(g.bus.join n).1, g.connections ++ [Connection.opened (g.bus.join n).2]⟩
    have hstep : g.step fresh (.request true r) = (g', some (.upgrade (g.bus.join n).2)) := by
      rw [State.step, hasks.respond_eq hn]
    have hget : g'.connections[g.connections.length]? =
        some (Connection.opened (g.bus.join n).2) := List.getElem?_concat_length
    refine ⟨g', _, hstep, rfl, State.open?_eq_some_iff.2 ⟨hget, rfl⟩, fun m => ?_, fun steps => ?_⟩
    · have hcount : g'.bus.listenerCount m = _ := Counts.count_increment n m g.bus.joined
      rw [hcount, Bus.listenerCount]
      split <;> rfl
    · have hreached' := hreached.run [(fresh, .request true r)]
      have hrun : (g.run [(fresh, .request true r)]).1 = g' := congrArg Prod.fst hstep
      rw [hrun] at hreached'
      refine (hreached'.run steps).hears fun c hc => ?_
      obtain ⟨d, hd, hchannel⟩ := State.channel_run hget steps
      rw [Option.some.inj (hd.symm.trans (State.open?_eq_some_iff.1 hc).1)] at hchannel
      exact hchannel
  · rw [State.step, hasks.respond_health hn]

/-- The request to join a namespace is one. -/
theorem asksToJoin_requestToJoin (n : Namespace) : AsksToJoin n (requestToJoin n) where
  method := rfl
  path := by
    have htarget : (requestToJoin n).target.toList = '/' :: n.segment.toList := by
      simp [requestToJoin, Namespace.path]
    exact Http.Request.path_eq_target htarget fun c hc => ⟨(n.plain c hc).2.1, (n.plain c hc).2.2.1⟩
  connection := by
    have htext : (requestToJoin n).headerText? "connection" = some "Upgrade" :=
      Utf8.decode?_encode "Upgrade"
    rw [Http.Request.headerContains, htext]
    decide +kernel
  upgrade := by
    have htext : (requestToJoin n).headerText? "upgrade" = some "websocket" :=
      Utf8.decode?_encode "websocket"
    rw [Http.Request.headerIs, htext]
    decide +kernel
  key := rfl
  version := by
    have htext : (requestToJoin n).headerText? "sec-websocket-version" = some "13" :=
      Utf8.decode?_encode "13"
    rw [Http.Request.headerIs, htext]
    decide +kernel

/-! ## Samples -/

/-- The sample gateway was reached from its start. -/
theorem reached_sampleGateway : State.Reached 2 sampleGateway :=
  ⟨⟨⟨Channel.create 2, []⟩, []⟩, [(default, .request true (requestToJoin .standard))], rfl, rfl⟩

/-- The namespace that has the path of the health. -/
def healthNamespace : Namespace := ⟨"health", by decide⟩

/-- What a request answers that publishes something on one of the two sample
namespaces. -/
theorem answer_publish {g : State} {n : Namespace} (hn : n = .standard ∨ n = healthNamespace) :
    (g.step default (.request false (requestToPublish n "name" (.string "a")))).2 =
      some (.response (accepted (g.bus.listenerCount n))) := by
  have hlength : (requestToPublish n "name" (.string "a")).body.length ≤ maxBody := by
    rcases hn with rfl | rfl
    · decide +kernel
    · decide +kernel
  have hrespond := @respond_requestToPublish default false g.bus n "name" (by decide +kernel)
    (.string "a") rfl trivial trivial (by decide) hlength
  have hnow : (default : Fresh).now = default := rfl
  rw [State.step, hnow, hrespond, Bus.snd_publish]
  rfl

/-- A second connection is opened on the standard namespace, and counted by
what is published there next. -/
theorem standard_namespace_joined :
    ∃ g s, sampleGateway.step default (.request true (requestToJoin .standard)) =
        (g, some (.upgrade s)) ∧
      (g.step default (.request false (requestToPublish .standard "name" (.string "a")))).2 =
        some (.response (accepted 2)) := by
  obtain ⟨-, hjoins, -⟩ := joinable_unless_health reached_sampleGateway
    (asksToJoin_requestToJoin .standard) default
  obtain ⟨g, s, hstep, -, -, hcount, -⟩ := hjoins (by decide)
  have hbefore : sampleGateway.bus.listenerCount .standard = 1 := by decide +kernel
  refine ⟨g, s, hstep, ?_⟩
  rw [answer_publish (.inl rfl), hcount, hbefore, if_pos rfl]

/-- A client that asks for `/health` is told the health, and nobody gets what
is published there. -/
theorem health_namespace_not_joined :
    AsksToJoin healthNamespace (requestToJoin healthNamespace) ∧
    ∃ g response, sampleGateway.step default (.request true (requestToJoin healthNamespace)) =
        (g, some (.response response)) ∧ response.status = 200 ∧
      (g.step default (.request false (requestToPublish healthNamespace "name" (.string "a")))).2 =
        some (.response (accepted 0)) := by
  have hasks := asksToJoin_requestToJoin healthNamespace
  have hstep : sampleGateway.step default (.request true (requestToJoin healthNamespace)) =
      (sampleGateway, some (.response (dress "GET" (health default sampleGateway.bus)))) := by
    rw [State.step, hasks.respond_health rfl]
    rfl
  have hnobody : sampleGateway.bus.listenerCount healthNamespace = 0 := by decide +kernel
  refine ⟨hasks, _, _, hstep, rfl, ?_⟩
  rw [answer_publish (.inr rfl), hnobody]

end Gateway

end EventFeed
