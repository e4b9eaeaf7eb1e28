import EventFeed.Proofs.Feed.Acceptance
import EventFeed.Proofs.Settings.Fields
import EventFeed.Proofs.Settings.Loading

/-!
# EventFeed.Proofs.Feed.Names

Whether a producer and a listener who are given the same name of an event meet.

The gateway trims the names of the events that it publishes.  A listener does not trim
the name that is set: it is used as it is, unless it is empty
(`ListenerSettings.event_of_ofEnvironment`), and is compared to the letter.  So the two
meet if and only if trimming leaves the name as it is, which is to say that there is no
blank at either end of it (`listener_hears_same_name`).
-/

namespace EventFeed

open Gateway (State accepted)

/-! ## The name that is set -/

/-- A listener uses the name that is set as it is. -/
theorem ListenerSettings.event_of_ofEnvironment {e : Environment} {settings : ListenerSettings}
    {name : String} (h : ofEnvironment e = .ok settings) (hset : e.text? "FEED_EVENT" = some name)
    (hname : name ≠ "") : settings.event = name := by
  rw [(setBy_of_ofEnvironment h).event, eventOf, hset]
  exact if_neg hname

/-! ## The name that is published -/

/-- **A request that is accepted** publishes its data under its trimmed name. -/
theorem Gateway.State.publishes_of_accepted {g g' : State} {fresh : Fresh} {upgradable : Bool}
    {r : Http.Request} {response : Http.Response} {q : EmitRequest} {n : Namespace}
    (h : g.step fresh (.request upgradable r) = (g', some (.response response)))
    (hstatus : response.status = 202) (hread : Gateway.emitRequest r = .ok q)
    (hpath : Namespace.parse q.path = .ok n) :
    g'.bus = (g.bus.publish (Event.publishedAt fresh.now n (trimText q.event) q.data)).1 := by
  have hanswered := Gateway.answered_respond fresh.now upgradable g.bus r
  rw [State.step] at h
  generalize Gateway.respond fresh.now upgradable g.bus r = p at h hanswered
  cases hanswered with
  | upgraded => cases h
  | refused reason status =>
    cases h
    exact absurd hstatus status
  | @accepted q' e method path read asks =>
    cases h
    obtain rfl := Except.ok.inj (hread.symm.trans read)
    obtain ⟨n', hparse, -, -, rfl⟩ := EmitRequest.event?_eq_ok_iff.1 asks
    obtain rfl := Except.ok.inj (hpath.symm.trans hparse)
    rfl

/-- **The same name for both.**

Take a listener whose settings are loaded, with `FEED_EVENT` set to some name by the
process or, after that, by the file; and a request to publish a text under this name that
the gateway accepts in the listener's namespace.  The listener then waits for the name as
it is set, and the event is published under the trimmed name.  Every task that receives
it forwards it to its client, and what the listener reads from that is the text if there
is no blank at either end of the name, and else nothing. -/
theorem listener_hears_same_name {env e : Environment} {file : Option (List UInt8)}
    {settings : ListenerSettings} {name : String}
    (hload : Loader.load file .listener env = .ok (.listener (.ok settings), e))
    (hset : env.text? "FEED_EVENT" = some name ∨ e.text? "FEED_EVENT" = some name)
    (hname : name ≠ "") {g g' : State} {fresh : Fresh} {upgradable : Bool} {r : Http.Request}
    {response : Http.Response} {q : EmitRequest} {s : String}
    (hstep : g.step fresh (.request upgradable r) = (g', some (.response response)))
    (hstatus : response.status = 202) (hread : Gateway.emitRequest r = .ok q)
    (hpath : Namespace.parse q.path = .ok settings.endpoint.channel) (hevent : q.event = name)
    (hdata : q.data = .string s) :
    let published :=
      Event.publishedAt fresh.now settings.endpoint.channel (trimText name) (.string s)
    settings.event = name ∧ g'.bus = (g.bus.publish published).1 ∧
    ∀ {t : State} {i : Nat} {c : Gateway.Connection} (later : Fresh), t.open? i = some c →
      c.sendable = true → (c.subscription.receive t.bus).1 = .item published →
      ∃ d text, (t.step later (.readBus i)).1.open? i = some d ∧ d.sent = c.sent ++ [text] ∧
        Envelope.decodeEvent text settings.event =
          if HasVisibleEnds name.toList then some s else none := by
  intro published
  obtain ⟨f, hfile, hloaded⟩ := Json.bind_eq_ok_iff.1 hload
  obtain ⟨hsettings, rfl⟩ : ListenerSettings.ofEnvironment f = .ok settings ∧ f = e := by
    have hpair := Except.ok.inj hloaded
    exact ⟨Loaded.listener.inj (congrArg Prod.fst hpair), congrArg Prod.snd hpair⟩
  have hset : f.text? "FEED_EVENT" = some name := hset.elim (Environment.text?_of_load hfile) id
  have hwaits := ListenerSettings.event_of_ofEnvironment hsettings hset hname
  refine ⟨hwaits, ?_, fun later hopen hsendable hitem => ?_⟩
  · rw [State.publishes_of_accepted hstep hstatus hread hpath, hevent, hdata]
  · obtain ⟨d, hd, hsent⟩ := State.forwards hopen hsendable hitem later
    refine ⟨d, _, hd, hsent, ?_⟩
    rw [hwaits, Envelope.decodeEvent_ofEvent (Event.readable_of_string ..)]
    exact if_congr trimText_eq_self_iff rfl rfl

/-- The sample gateway accepts a request to publish a text, and its connection receives
the event. -/
theorem publish_text_sampleGateway {name : String} (hname : trimText name ≠ "") {s : String}
    (hlength : (requestToPublish .standard name (.string s)).body.length ≤ Gateway.maxBody) :
    Gateway.emitRequest (requestToPublish .standard name (.string s)) =
        .ok ⟨Namespace.standard.path, name, .string s⟩ ∧
      ∃ g c, sampleGateway.step default
            (.request false (requestToPublish .standard name (.string s))) =
          (g, some (.response (accepted 1))) ∧
        g.open? 0 = some c ∧ c.sendable = true ∧ c.sent = [] ∧
        (c.subscription.receive g.bus).1 =
          .item (Event.publishedAt default .standard (trimText name) (.string s)) := by
  obtain ⟨hintegers, hordered, hshallow⟩ := Event.readable_of_string default .standard name s
  exact publish_sampleGateway hname rfl hintegers hordered (Nat.le_of_succ_le hshallow) hlength

/-- A name with a blank inside is heard: it is set by the process, and the file, which
sets another one, does not change it. -/
theorem hears_name_with_blank_inside :
    let env : Environment := ⟨[("FEED_EVENT", Utf8.encode "new mail")]⟩
    let settings : ListenerSettings := ⟨⟨"127.0.0.1", 5000, .standard⟩, "new mail", none⟩
    Loader.load (some (Utf8.encode "FEED_EVENT=mail")) .listener env =
        .ok (.listener (.ok settings), env) ∧
      ∃ g d text, sampleGateway.step default (.request false
            (requestToPublish .standard "new mail" (.string "hi"))) =
          (g, some (.response (accepted 1))) ∧
        (g.step default (.readBus 0)).1.open? 0 = some d ∧ d.sent = [text] ∧
        Envelope.decodeEvent text settings.event = some "hi" := by
  intro env settings
  have hload : Loader.load (some (Utf8.encode "FEED_EVENT=mail")) .listener env =
      .ok (.listener (.ok settings), env) := by decide +kernel
  have hset : env.text? "FEED_EVENT" = some "new mail" := by decide +kernel
  have hname : trimText "new mail" ≠ "" := by decide +kernel
  obtain ⟨hread, g, c, hstep, hopen, hsendable, hsent, hitem⟩ :=
    publish_text_sampleGateway hname (s := "hi") (by decide +kernel)
  obtain ⟨-, -, hforwards⟩ := listener_hears_same_name hload (.inl hset) (by decide) hstep rfl hread
    (Namespace.parse_path .standard) rfl rfl
  obtain ⟨d, text, hd, hdsent, hdecode⟩ := hforwards default hopen hsendable hitem
  rw [hsent] at hdsent
  exact ⟨hload, g, d, text, hstep, hd, hdsent, hdecode.trans (if_pos (by decide +kernel))⟩

/-- A name with blanks at its ends is not, though it is the same for both. -/
theorem blanks_at_ends_not_heard :
    let env : Environment := ⟨[("FEED_EVENT", Utf8.encode " name ")]⟩
    let settings : ListenerSettings := ⟨⟨"127.0.0.1", 5000, .standard⟩, " name ", none⟩
    let r := requestToPublish .standard " name " (.string "hi")
    Loader.load none .listener env = .ok (.listener (.ok settings), env) ∧
      Gateway.emitRequest r = .ok ⟨settings.endpoint.channel.path, " name ", .string "hi"⟩ ∧
      ∃ g d text, sampleGateway.step default (.request false r) =
          (g, some (.response (accepted 1))) ∧
        (g.step default (.readBus 0)).1.open? 0 = some d ∧ d.sent = [text] ∧
        Envelope.decodeEvent text settings.event = none := by
  intro env settings r
  have hload : Loader.load none .listener env = .ok (.listener (.ok settings), env) := by
    decide +kernel
  have hname : trimText " name " ≠ "" := by decide +kernel
  obtain ⟨hread, g, c, hstep, hopen, hsendable, hsent, hitem⟩ :=
    publish_text_sampleGateway hname (s := "hi") (by decide +kernel)
  obtain ⟨d, hd, hdsent⟩ := State.forwards hopen hsendable hitem default
  rw [hsent] at hdsent
  refine ⟨hload, hread, g, d, _, hstep, hd, hdsent, ?_⟩
  rw [Envelope.decodeEvent_ofEvent (Event.readable_of_string ..)]
  exact if_neg (by decide +kernel)

end EventFeed
