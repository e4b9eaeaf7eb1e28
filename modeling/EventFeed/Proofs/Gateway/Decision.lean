import EventFeed.Proofs.Bus.Closing
import EventFeed.Proofs.Bus.Delivery
import EventFeed.Proofs.Gateway.Content
import EventFeed.Proofs.Gateway.Requests
import EventFeed.Proofs.Gateway.Service
import EventFeed.Proofs.Namespace.Grammar
import EventFeed.Proofs.Text.Trim

/-!
# EventFeed.Proofs.Gateway.Decision

How a request to publish is decided (`Gateway.emit_decision`).  Its namespace is
checked first, then the name of its event, then its data; the first of them that
is wrong is what it is refused for, and if none is, the event goes to whoever
listens on the namespace.

So whatever is published by requests is well-formed.  The bus keeps nothing else,
and nothing else leaves the gateway, unless it was published past the requests
(`Gateway.State.sent_of_run`).
-/

namespace EventFeed

/-! ## Well-formed events -/

/-- An event as requests publish it: its name is not empty and has no blanks at
its ends, and it has data. -/
structure Event.WellFormed (e : Event) : Prop where
  named : e.name ≠ ""
  front : ∀ c ∈ e.name.toList.head?, isBlank c = false
  back : ∀ c ∈ e.name.toList.getLast?, isBlank c = false
  data : e.data ≠ .null

theorem Json.isNull_iff {j : Json} : j.isNull = true ↔ j = .null := by
  cases j <;> simp [isNull]

namespace EmitRequest

variable {now : Timestamp} {q : EmitRequest} {n : Namespace}

/-- The namespace is checked first. -/
theorem event?_of_astray (h : ∀ n : Namespace, n.path ≠ q.path) :
    q.event? now = .error (.invalidNamespace q.path) := by
  rw [event?, Namespace.parse_of_astray h]
  rfl

/-- Then the name. -/
theorem event?_of_blank (hn : n.path = q.path) (hname : trimText q.event = "") :
    q.event? now = .error (.invalidRequest "event name must not be empty") := by
  rw [event?, ← hn, Namespace.parse_path]
  simp [hname, bind, Except.bind]

/-- Then the data. -/
theorem event?_of_null (hn : n.path = q.path) (hname : trimText q.event ≠ "")
    (hdata : q.data = .null) :
    q.event? now = .error (.invalidRequest "data must be present and not null") := by
  rw [event?, ← hn, Namespace.parse_path]
  simp [hname, hdata, Json.isNull, bind, Except.bind]

/-- **What is published is well-formed.** -/
theorem wellFormed_of_event? {e : Event} (h : q.event? now = .ok e) : e.WellFormed := by
  obtain ⟨n, -, hname, hdata, rfl⟩ := event?_eq_ok_iff.1 h
  have hchars : (trimText q.event).toList = trim q.event.toList := String.toList_ofList
  refine ⟨hname, ?_, ?_, fun hnull => ?_⟩
  · show ∀ c ∈ (trimText q.event).toList.head?, _
    rw [hchars]
    exact head_trim _
  · show ∀ c ∈ (trimText q.event).toList.getLast?, _
    rw [hchars]
    exact getLast_trim _
  · exact Bool.noConfusion ((Json.isNull_iff.2 hnull).symm.trans hdata)

open Json (Spaced fieldDepth) in
open Json.Written (given) in
/-- The data of a request is `null` if its body gives none, or gives that. -/
theorem data_eq_null_iff {body : List UInt8} (h : ofBytes body = .ok q) {w : Json.Written}
    (hbody : Spaced w.tokens (Utf8.symbols body)) {ps : List (String × Json.Written)}
    (hps : w.pairs? fieldNames = some ps) :
    q.data = .null ↔ ∀ x ∈ given "data" ps, x.value? fieldDepth = some .null := by
  have hread : some q = ofPairs? ps := by
    rw [← Option.bind_some ps ofPairs?, ← hps, ← ofTree?, ← toOption_ofBytes hbody, h]
    rfl
  obtain ⟨path, -, hread⟩ := Option.bind_eq_some_iff.1 hread.symm
  obtain ⟨event, -, hread⟩ := Option.bind_eq_some_iff.1 hread
  obtain ⟨data, hdata, hq⟩ := Option.bind_eq_some_iff.1 hread
  obtain rfl := Option.some.inj hq
  cases hgiven : given "data" ps with
  | nil =>
    rw [hgiven] at hdata
    exact iff_of_true (Option.some.inj hdata).symm fun x hx => absurd hx List.not_mem_nil
  | cons x more =>
    rw [hgiven] at hdata
    cases more with
    | nil =>
      have hvalue : x.value? fieldDepth = some data := hdata
      rw [List.forall_mem_singleton, hvalue, Option.some.injEq]
    | cons y more => cases hdata

end EmitRequest

namespace Gateway

/-! ## What leaves the gateway -/

/-- The texts that connections send: replies to their clients, and envelopes of
events of this kind. -/
def Sends (P : Event → Prop) (text : String) : Prop :=
  (∃ now t, text = (replyTo now t).text) ∨ ∃ id e, P e ∧ text = (Envelope.ofEvent id e).text

/-- A task that reads from its client sends a reply, if anything. -/
theorem sends_of_client {P : Event → Prop} {fresh : Fresh} {m : Incoming} {text : String}
    (h : react fresh (.ofClient m) = .send text) : Sends P text := by
  match m with
  | .frame (.text t) => exact .inl ⟨fresh.now, t, (Reaction.send.inj h).symm⟩
  | .frame (.binary _) | .frame (.ping _) | .frame (.pong _) | .frame .close | .failed | .ended =>
    cases h

/-- A task that reads from the bus sends an envelope of what it received. -/
theorem sends_of_bus {P : Event → Prop} {fresh : Fresh} {got : Reception Event} {text : String}
    (h : react fresh (.ofBus got) = .send text) (hgot : ∀ e, got = .item e → P e) :
    Sends P text := by
  match got with
  | .item e => exact .inr ⟨fresh.id, e, hgot e rfl, (Reaction.send.inj h).symm⟩
  | .lagged _ | .pending | .closed => cases h

namespace State

/-- The gateway holds events of this kind only: the bus has kept no others, and
no connection has sent others. -/
structure Only (P : Event → Prop) (g : State) : Prop where
  kept : ∀ e ∈ g.bus.channel.kept, P e
  sent : ∀ c ∈ g.connections, ∀ text ∈ c.sent, Sends P text

variable {P : Event → Prop} {g : State} {i : Nat} {c : Connection}

/-- A connection in the place of another one. -/
theorem Only.set {b : Bus} (h : g.Only P) (hb : b.channel.kept = g.bus.channel.kept)
    (hc : ∀ text ∈ c.sent, Sends P text) : Only P ⟨b, g.connections.set i c⟩ where
  kept := by
    rw [hb]
    exact h.kept
  sent := by
    intro d hd
    rcases List.mem_or_eq_of_mem_set hd with hd | rfl
    · exact h.sent d hd
    · exact hc

/-- A task deals with something. -/
theorem Only.apply (h : g.Only P) (hc : ∀ text ∈ c.sent, Sends P text) (fresh : Fresh)
    {s : Stimulus} (hs : ∀ text, react fresh s = .send text → Sends P text) :
    (g.apply fresh i c s).Only P := by
  rcases apply_cases g fresh i c s with happly | ⟨-, happly⟩ | ⟨text, hreact, happly⟩
  · rw [happly]
    exact h.set rfl hc
  · rw [happly]
    exact h.set rfl hc
  · rw [happly]
    refine h.set rfl fun t ht => ?_
    rcases List.mem_append.1 ht with ht | ht
    · exact hc t ht
    · obtain rfl := List.mem_singleton.1 ht
      exact hs t hreact

/-- An event is published. -/
theorem Only.publish (h : g.Only P) {e : Event} (he : P e) :
    Only P { g with bus := (g.bus.publish e).1 } where
  kept := by
    intro x hx
    have hpublished : x ∈ g.bus.channel.kept ∨ x = e := by
      simp only [Bus.publish, Channel.send?] at hx
      split at hx
      · split at hx
        · exact .inl hx
        · rcases List.mem_append.1 (List.mem_of_mem_drop hx) with hx | hx
          · exact .inl hx
          · exact .inr (List.mem_singleton.1 hx)
      · exact .inl hx
    rcases hpublished with hx | rfl
    · exact h.kept x hx
    · exact he
  sent := h.sent

/-- **Every step keeps that**, if requests and whoever else publishes ask for
events of this kind. -/
theorem Only.step (h : g.Only P) {fresh : Fresh} {a : Action}
    (hasked : ∀ q : EmitRequest, ∀ e, q.event? fresh.now = .ok e → P e)
    (hdirect : ∀ e, a = .publish e → P e) : (g.step fresh a).1.Only P := by
  cases a with
  | request upgradable r =>
    rw [State.step]
    have hanswered := answered_respond fresh.now upgradable g.bus r
    generalize respond fresh.now upgradable g.bus r = p at hanswered ⊢
    cases hanswered with
    | @accepted q e method path read asks => exact h.publish (hasked q e asks)
    | @upgraded segment n =>
      refine ⟨h.kept, fun d hd => ?_⟩
      rcases List.mem_append.1 hd with hd | hd
      · exact h.sent d hd
      · obtain rfl := List.mem_singleton.1 hd
        exact fun text htext => absurd htext List.not_mem_nil
    | refused => exact h
  | arrive i m =>
    rw [State.step]
    split
    · next c hc => exact h.set rfl (h.sent c (List.mem_of_getElem? hc))
    · exact h
  | sever i =>
    rw [State.step]
    split
    · next c hc => exact h.set rfl (h.sent c (List.mem_of_getElem? hc))
    · exact h
  | readClient i =>
    simp only [State.step]
    split
    · next c hc =>
      split
      · next m unread hunread =>
        refine Only.apply h ?_ fresh fun _ => sends_of_client
        exact h.sent c (List.mem_of_getElem? (open?_eq_some_iff.1 hc).1)
      · exact h
    · exact h
  | readBus i =>
    simp only [State.step]
    split
    · next c hc =>
      refine Only.apply h ?_ fresh fun _ hreact => sends_of_bus hreact fun e he => ?_
      · exact h.sent c (List.mem_of_getElem? (open?_eq_some_iff.1 hc).1)
      · exact h.kept e (Subscription.of_receive_item he).1
    · exact h
  | publish e => exact h.publish (hdirect e rfl)
  | shutdown => exact ⟨h.kept, h.sent⟩

theorem Only.run (h : g.Only P) {steps : List (Fresh × Action)}
    (hasked : ∀ now, ∀ q : EmitRequest, ∀ e, q.event? now = .ok e → P e)
    (hdirect : ∀ p ∈ steps, ∀ e, p.2 = .publish e → P e) : (g.run steps).1.Only P := by
  induction steps generalizing g with
  | nil => exact h
  | cons p rest ih =>
    obtain ⟨hfirst, hrest⟩ := List.forall_mem_cons.1 hdirect
    exact ih (h.step (hasked p.1.now) hfirst) hrest

/-- **What leaves the gateway** in a run from its start: replies to clients, and
envelopes of events that are well-formed, unless they were published past the
requests. -/
theorem sent_of_run {capacity : Nat} (hstart : start capacity = .ok g)
    (steps : List (Fresh × Action)) {c : Connection} (hc : c ∈ (g.run steps).1.connections)
    {text : String} (htext : text ∈ c.sent) :
    Sends (fun e => e.WellFormed ∨ ∃ fresh, (fresh, .publish e) ∈ steps) text := by
  obtain ⟨hcreate, hnone⟩ := bus_of_start hstart
  have hempty : g.bus.channel.kept = [] := by
    rw [Bus.create] at hcreate
    split at hcreate
    · rw [← Except.ok.inj hcreate]
      rfl
    · cases hcreate
  have honly : g.Only fun e => e.WellFormed ∨ ∃ fresh, (fresh, .publish e) ∈ steps :=
    ⟨by simp [hempty], by simp [hnone]⟩
  have hdirect : ∀ p ∈ steps, ∀ e, p.2 = .publish e →
      e.WellFormed ∨ ∃ fresh, (fresh, .publish e) ∈ steps := by
    rintro ⟨fresh, a⟩ hp e rfl
    exact .inr ⟨fresh, hp⟩
  have hasked (now : Timestamp) (q : EmitRequest) (e : Event) (h : q.event? now = .ok e) :
      e.WellFormed ∨ ∃ fresh, (fresh, .publish e) ∈ steps :=
    .inl (EmitRequest.wellFormed_of_event? h)
  exact (honly.run hasked hdirect).sent c hc text htext

end State

/-! ## The decision -/

/-- The answer that tells what is wrong with a request. -/
def wrong (code : Nat) (message : String) : Http.Response :=
  .json 400 (Json.record [("error", .object [("code", .ofNat code), ("message", .string message)])])

variable {now : Timestamp} {b : Bus} {req : Http.Request} {q : EmitRequest} {e : Event}

theorem emit_refused {error : FeedError} (hread : emitRequest req = .ok q)
    (hasks : q.event? now = .error error) : emit now b req = (b, error.response) := by
  simp only [emit, hread, hasks]

theorem emit_published (hread : emitRequest req = .ok q) (hasks : q.event? now = .ok e) :
    emit now b req = ((b.publish e).1,
      .json 202 (Json.record [("delivered", .ofNat (b.listenerCount e.channel))])) := by
  simp only [emit, hread, hasks, ← Bus.snd_publish b e]

open Bus (Run Operation received publishedOn)
open Json (Spaced fieldDepth)

/-- **What a request to publish comes to**, in every state of the bus.

It is read as a namespace, the name of an event and data, which counts as `null`
if it is not given.  Unless the namespace is a path of one, it is refused for
that, and told so; else, unless some character of the name is no blank, for the
name; else, if the data is `null`, for the data.  The bus then stays as it was.

In all other cases the event is published, under its trimmed name and with the
data as it was given, and the answer counts the subscriptions of the namespace.
Each of them that does not fall behind the slots, and does not leave, receives
the event exactly once: behind what was there for it before, and before what is
published on its namespace later.  No subscription of another namespace ever
receives it.

Hence the events that requests publish are well-formed, and whatever connections
send to their clients, apart from replies, are envelopes of such events, or of
events that were published past the requests. -/
theorem emit_decision {capacity : Nat} {r : Run} (hreached : r.Reached capacity)
    (hread : emitRequest req = .ok q) (now : Timestamp) :
    (∀ (w : Json.Written) (ps : List (String × Json.Written)),
      Spaced w.tokens (Utf8.symbols req.body) → w.pairs? EmitRequest.fieldNames = some ps →
      (q.data = .null ↔ ∀ x ∈ Json.Written.given "data" ps, x.value? fieldDepth = some .null)) ∧
    ((∀ n : Namespace, n.path ≠ q.path) →
      emit now r.bus req = (r.bus, wrong 1002 ("invalid namespace: " ++ q.path))) ∧
    (∀ n : Namespace, n.path = q.path →
      ((∀ c ∈ q.event.toList, isBlank c = true) → emit now r.bus req =
        (r.bus, wrong 1001 "invalid request: event name must not be empty")) ∧
      ((∃ c ∈ q.event.toList, isBlank c = false) → q.data = .null → emit now r.bus req =
        (r.bus, wrong 1001 "invalid request: data must be present and not null")) ∧
      ((∃ c ∈ q.event.toList, isBlank c = false) → q.data ≠ .null →
        let e := Event.publishedAt now n (trimText q.event) q.data
        let bus := (emit now r.bus req).1
        (emit now r.bus req).2 = .json 202
          (Json.record [("delivered", .ofNat (r.live.countP (·.channel = n)))]) ∧
        e.WellFormed ∧
        (∀ i s, r.subscription? i = some s → s.channel = n →
          ∀ after : List Operation, .leave i ∉ after →
          (∀ done, done <+: after →
            (Run.steps { r with bus } done).1.outstanding i ≤ r.bus.channel.slots) →
          let ops := after ++ [.drain i]
          let outcomes := (Run.steps { r with bus } ops).2
          received i ops outcomes = (r.bus.channel.unseen s.receiver).filter s.wants ++
            e :: publishedOn n ops outcomes) ∧
        ∀ s : Subscription, s.channel ≠ n → ∀ b,
          (s.receive b).1 ≠ .item e ∧ .item e ∉ (s.drain b).1)) ∧
    ∀ {capacity : Nat} {g : State}, State.start capacity = .ok g →
      ∀ steps, ∀ c ∈ (g.run steps).1.connections, ∀ text ∈ c.sent,
        Sends (fun e => e.WellFormed ∨ ∃ fresh, (fresh, .publish e) ∈ steps) text := by
  have hvisible : (∃ c ∈ q.event.toList, isBlank c = false) → trimText q.event ≠ "" := by
    rintro ⟨c, hc, hvisible⟩ hempty
    rw [trimText_eq_empty_iff.1 hempty c hc] at hvisible
    cases hvisible
  refine ⟨fun w ps hbody hps =>
      EmitRequest.data_eq_null_iff (ofBytes_of_emitRequest hread) hbody hps,
    fun hastray => emit_refused hread (EmitRequest.event?_of_astray hastray),
    fun n hn => ⟨fun hblank => ?_, fun hname hnull => ?_, fun hname hdata => ?_⟩,
    fun hstart steps c hc text htext => State.sent_of_run hstart steps hc htext⟩
  · exact emit_refused hread (EmitRequest.event?_of_blank hn (trimText_eq_empty_iff.2 hblank))
  · exact emit_refused hread (EmitRequest.event?_of_null hn (hvisible hname) hnull)
  · intro e bus
    have hasks : q.event? now = .ok e := by
      refine EmitRequest.event?_eq_ok_iff.2 ⟨n, ?_, hvisible hname, ?_, rfl⟩
      · rw [← hn, Namespace.parse_path]
      · exact Bool.eq_false_iff.2 fun hnull => hdata (Json.isNull_iff.1 hnull)
    have hemit := @emit_published now r.bus req q e hread hasks
    have hbus : bus = (r.bus.publish e).1 := congrArg Prod.fst hemit
    rw [hbus]
    refine ⟨?_, EmitRequest.wellFormed_of_event? hasks, ?_, ?_⟩
    · obtain ⟨log, hserves⟩ := hreached.serves
      rw [hemit, hserves.counts]
      rfl
    · rintro i s hs rfl after hstays hcurrent
      exact hreached.received_published hs rfl hstays hcurrent
    · refine fun s hs b => ⟨fun hgot => hs ?_, fun hgot => hs ?_⟩
      · exact (Subscription.of_receive_item hgot).2.symm
      · exact (Subscription.of_item_mem_drain hgot).2.symm

/-- An event whose name stands between two wide blanks reaches the one
subscription there is, under its trimmed name; and a request with neither a name
nor data is refused for the name. -/
theorem emit_decision_of_blanks :
    let r : Run := (Run.step ⟨⟨Channel.create 2, []⟩, []⟩ (.join .standard)).1
    let asked := requestToPublish .standard "\u2003name\u3000" (.bool true)
    let e := Event.publishedAt default .standard "name" (.bool true)
    let bus := (emit default r.bus asked).1
    (emit default r.bus asked).2 = .json 202 (Json.record [("delivered", .ofNat 1)]) ∧
      received 0 [.drain 0] (Run.steps { r with bus } [.drain 0]).2 = [e] ∧
      emit default r.bus (requestToPublish .standard "\u2003\u0085" .null) =
        (r.bus, wrong 1001 "invalid request: event name must not be empty") := by
  intro r asked e bus
  have hreached : r.Reached 2 := ⟨⟨⟨Channel.create 2, []⟩, []⟩, [.join .standard], rfl, rfl⟩
  have hread : emitRequest asked =
      .ok ⟨Namespace.standard.path, "\u2003name\u3000", .bool true⟩ :=
    emitRequest_requestToPublish _ _ trivial trivial (by decide) (by decide +kernel)
  have hblank : emitRequest (requestToPublish .standard "\u2003\u0085" .null) =
      .ok ⟨Namespace.standard.path, "\u2003\u0085", .null⟩ :=
    emitRequest_requestToPublish _ _ trivial trivial (by decide) (by decide +kernel)
  obtain ⟨-, -, hdecision, -⟩ := emit_decision hreached hread default
  obtain ⟨-, -, hrefused, -⟩ := emit_decision hreached hblank default
  have htrim : trimText "\u2003name\u3000" = "name" := by decide +kernel
  have hasks : (EmitRequest.mk Namespace.standard.path "\u2003name\u3000" (.bool true)).event?
      default = .ok e :=
    EmitRequest.event?_eq_ok_iff.2
      ⟨_, Namespace.parse_path _, by decide +kernel, rfl, by rw [htrim]⟩
  obtain ⟨-, -, hpublished⟩ := hdecision .standard rfl
  obtain ⟨hanswer, -, hreceived, -⟩ := hpublished ⟨'n', by decide, by decide⟩ nofun
  refine ⟨hanswer, ?_, (hrefused .standard rfl).1 (trimText_eq_empty_iff.1 (by decide +kernel))⟩
  have hbus : (emit default r.bus asked).1 = (r.bus.publish e).1 :=
    congrArg Prod.fst (emit_published hread hasks)
  rw [htrim, hbus] at hreceived
  rw [show bus = (r.bus.publish e).1 from hbus]
  exact hreceived 0 ⟨.standard, ⟨0⟩⟩ rfl rfl [] (by simp) fun done hdone => by
    rw [List.prefix_nil.1 hdone]
    decide

end Gateway

end EventFeed
