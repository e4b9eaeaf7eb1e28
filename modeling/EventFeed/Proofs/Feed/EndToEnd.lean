import EventFeed.Proofs.Client.Listening
import EventFeed.Proofs.Gateway.Delivery
import EventFeed.Proofs.Gateway.Requests

/-!
# EventFeed.Proofs.Feed.EndToEnd

From the requests to the listener.  What a client shows is what was
published on its namespace, under the name it listens for, by the requests
that were answered 202 since it joined: nothing is lost, doubled, out of
order or mixed up (`messages_eq_payloads`).

This holds as long as the connection keeps up, so that the slots hold what
is outstanding whenever its task receives.  It is not enough that no more
events than slots enter from one reception to the next: a task may fall
behind by a little each time (`paced_run_loses_one`).
-/

namespace EventFeed

open Gateway (State Action Answer)

/-! ## Listening -/

/-- **What a client shows is what was published for it.**  A connection was
opened on the namespace and kept up since.  When it runs, and has forwarded
everything, a client that reads all its texts and listens for the name has
shown exactly the data of the requests that were answered 202, that name the
namespace and whose trimmed event is that name. -/
theorem messages_eq_payloads {g : State} {capacity i : Nat} {n : Namespace}
    {after : List (Fresh × Action)} (h : g.KeepsUp capacity n i after) {c : Gateway.Connection}
    (hopen : (g.run after).1.open? i = some c)
    (hpending : (c.subscription.receive (g.run after).1.bus).1 = .pending) (name : String)
    (e : Endpoint) (s : Option String) :
    ∃ l s', Client.listen ⟨e, Received.texts c.sent⟩ name (.of Region.memory) s =
        (.ok (), ⟨e, []⟩, l, s') ∧
      l.messages = State.payloads n name after (g.run after).2 := by
  obtain ⟨l, s', hlisten, hmessages⟩ := Client.listen_texts name e c.sent s
  exact ⟨l, s', hlisten, hmessages.trans (h.shows_eq hopen hpending name)⟩

/-! ## Samples -/

theorem joined_sampleGateway : sampleGateway.Joined 2 .standard 0 :=
  ⟨_, [], default, true, requestToJoin .standard, _, rfl, rfl, rfl, rfl⟩

/-- Publish a text on a namespace. -/
def sampleEmission (n : Namespace) (text : String) : Fresh × Action :=
  (default, .request false (requestToPublish n " name " (.string text)))

/-- Two texts reach the listener of a connection while another namespace is
joined and used, and the client itself says something. -/
theorem messages_eq_two_payloads :
    let other : Namespace := ⟨"other", by decide⟩
    let after := [(default, .request true (requestToJoin other)), sampleEmission .standard "a",
      sampleEmission other "b", (default, .readBus 0), (default, .arrive 0 (.frame (.text "?"))),
      (default, .readClient 0), sampleEmission .standard "c", (default, .readBus 0)]
    sampleGateway.KeepsUp 2 .standard 0 after ∧
      ∃ c, (sampleGateway.run after).1.open? 0 = some c ∧ ∃ l s',
        Client.listen ⟨default, Received.texts c.sent⟩ "name" (.of Region.memory) none =
          (.ok (), ⟨default, []⟩, l, s') ∧
        l.messages = ["a", "c"] := by
  intro other after
  -- one evaluation of the run for all that has to be looked up
  have hfacts : (∀ p ∈ after.zip (sampleGateway.run after).2, ∀ q ∈ p.1.2.accepted? p.2, q.Plain) ∧
      (∀ k < 9, (sampleGateway.run (after.take k)).1.outstanding 0 ≤ slotsFor (max 2 1)) ∧
      ((sampleGateway.run after).1.open? 0).isSome = true ∧
      (∀ c ∈ (sampleGateway.run after).1.open? 0,
        Channel.isPending (c.subscription.receive (sampleGateway.run after).1.bus).1 = true) ∧
      State.payloads .standard "name" after (sampleGateway.run after).2 = ["a", "c"] := by
    decide +kernel
  obtain ⟨hplain, hcurrent, hsome, hlast, hpayloads⟩ := hfacts
  have hkeeps : sampleGateway.KeepsUp 2 .standard 0 after := by
    refine ⟨⟨joined_sampleGateway, by simp [after, sampleEmission], hplain⟩, ?_⟩
    intro done fresh later heq
    have hprefix : done <+: after := ⟨_, heq.symm⟩
    have hlen : done.length ≤ 8 := hprefix.length_le
    rw [List.prefix_iff_eq_take.1 hprefix]
    exact hcurrent done.length (Nat.lt_succ_of_le hlen)
  obtain ⟨c, hopen⟩ := Option.isSome_iff_exists.1 hsome
  have hpending := Channel.eq_pending_of_isPending (hlast c hopen)
  obtain ⟨l, s', hlisten, hmessages⟩ :=
    messages_eq_payloads hkeeps hopen hpending "name" default none
  exact ⟨hkeeps, c, hopen, l, s', hlisten, hmessages.trans hpayloads⟩

/-! ## Falling behind -/

/-- No more events than the limit enter the channel between two receptions of
a connection; `since` have entered since the last one. -/
def Gateway.State.isPaced (limit i : Nat) : Nat → State → List (Fresh × Action) → Bool
  | _, _, [] => true
  | since, g, (fresh, a) :: rest =>
    let g' := (g.step fresh a).1
    let since := match a with
      | .readBus j => if j = i then 0 else since
      | _ => since + (g'.bus.channel.sent - g.bus.channel.sent)
    decide (since ≤ limit) && isPaced limit i since g' rest

/-- A connection that takes one event of every two falls behind.  There are
two slots, and never more than two events enter from one reception to the
next; all the same a client that has read everything has not shown all of
the four texts that were published for it. -/
theorem paced_run_loses_one :
    let after := [sampleEmission .standard "a", sampleEmission .standard "b",
      (default, .readBus 0), sampleEmission .standard "c", sampleEmission .standard "d",
      (default, .readBus 0), (default, .readBus 0), (default, .readBus 0)]
    sampleGateway.Attends 2 .standard 0 after ∧
      State.isPaced (slotsFor (max 2 1)) 0 0 sampleGateway after = true ∧
      ∃ c, (sampleGateway.run after).1.open? 0 = some c ∧
        (c.subscription.receive (sampleGateway.run after).1.bus).1 = .pending ∧ ∃ l s',
        Client.listen ⟨default, Received.texts c.sent⟩ "name" (.of Region.memory) none =
          (.ok (), ⟨default, []⟩, l, s') ∧
        State.payloads .standard "name" after (sampleGateway.run after).2 = ["a", "b", "c", "d"] ∧
        l.messages.length ≤ 3 := by
  intro after
  have hfacts : (∀ p ∈ after.zip (sampleGateway.run after).2, ∀ q ∈ p.1.2.accepted? p.2, q.Plain) ∧
      State.isPaced (slotsFor (max 2 1)) 0 0 sampleGateway after = true ∧
      ((sampleGateway.run after).1.open? 0).isSome = true ∧
      (∀ c ∈ (sampleGateway.run after).1.open? 0,
        Channel.isPending (c.subscription.receive (sampleGateway.run after).1.bus).1 = true ∧
        c.sent.length = 3) ∧
      State.payloads .standard "name" after (sampleGateway.run after).2 = ["a", "b", "c", "d"] := by
    decide +kernel
  obtain ⟨hplain, hpaced, hsome, hlast, hpayloads⟩ := hfacts
  have hattends : sampleGateway.Attends 2 .standard 0 after :=
    ⟨joined_sampleGateway, by simp [after, sampleEmission], hplain⟩
  obtain ⟨c, hopen⟩ := Option.isSome_iff_exists.1 hsome
  obtain ⟨hpending, hsent⟩ := hlast c hopen
  obtain ⟨l, s', hlisten, hmessages⟩ := Client.listen_texts "name" default c.sent none
  have hshort : l.messages.length ≤ 3 := by
    rw [hmessages, ← hsent]
    exact List.length_filterMap_le _ _
  exact ⟨hattends, hpaced, c, hopen, Channel.eq_pending_of_isPending hpending, l, s', hlisten,
    hpayloads, hshort⟩

end EventFeed
