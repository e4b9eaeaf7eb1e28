import EventFeed.Proofs.Gateway.Access

/-!
# EventFeed.Proofs.Gateway.Paths

Which paths can be joined, as they are spelled in requests.

Routes are found on the path as it was sent, and the namespace in what its one
segment is decoded to.  So a slash that is percent-encoded does not divide a
segment, and the percent-encoded path of a fixed route is not that route, but
is a namespace like any other.  All spellings of a namespace join the same one
(`joined_iff_named`).
-/

namespace EventFeed

namespace Gateway

/-- The path names a namespace: it is one segment, which is not that of a fixed
route, and the segment is decoded to that of the namespace. -/
def Names (path : String) (n : Namespace) : Prop :=
  ∃ segment, path.toList = '/' :: segment ∧ segment ≠ [] ∧ '/' ∉ segment ∧ path ∉ fixedPaths ∧
    Http.percentDecode? (String.ofList segment) = some n.segment

variable {path segment : String} {n : Namespace} {r : Http.Request}

/-- The segment that a path leads to spells the namespace that the path names. -/
theorem names_iff_route :
    Names path n ↔ ∃ segment, Route.ofPath? path = some (.channel segment) ∧
      channelOf segment = .ok n := by
  constructor
  · rintro ⟨cs, hpath, hne, hslash, hfixed, hdecode⟩
    refine ⟨String.ofList cs, ofPath?_eq_channel_iff.2 ?_, channelOf_eq_ok_iff.2 hdecode⟩
    rw [String.toList_ofList]
    exact ⟨hpath, hne, hslash, hfixed⟩
  · rintro ⟨segment, hroute, hchannel⟩
    obtain ⟨hpath, hne, hslash, hfixed⟩ := ofPath?_eq_channel_iff.1 hroute
    refine ⟨segment.toList, hpath, hne, hslash, hfixed, ?_⟩
    rw [String.ofList_toList]
    exact channelOf_eq_ok_iff.1 hchannel

/-- It names one only. -/
theorem Names.unique {m : Namespace} (h : Names path n) (h' : Names path m) : n = m := by
  obtain ⟨segment, hroute, hchannel⟩ := names_iff_route.1 h
  obtain ⟨segment', hroute', hchannel'⟩ := names_iff_route.1 h'
  cases hroute.symm.trans hroute'
  exact Except.ok.inj (hchannel.symm.trans hchannel')

/-- A path that names a namespace spells its segment, each character by itself
or percent-encoded. -/
theorem names_iff_spells :
    Names path n ↔ ∃ segment, path.toList = '/' :: segment ∧ '/' ∉ segment ∧ path ∉ fixedPaths ∧
      Http.Spells segment n.segment.toList := by
  have hdecode (cs : List Char) : Http.percentDecode? (String.ofList cs) = some n.segment ↔
      Http.Spells cs n.segment.toList := by
    rw [Http.percentDecode?_eq_some_iff, String.toList_ofList]
    exact fun c hc => ⟨n.ascii c hc, (n.plain c hc).2.2.2⟩
  constructor
  · rintro ⟨cs, hpath, -, hslash, hfixed, hcs⟩
    exact ⟨cs, hpath, hslash, hfixed, (hdecode cs).1 hcs⟩
  · rintro ⟨cs, hpath, hslash, hfixed, hcs⟩
    refine ⟨cs, hpath, ?_, hslash, hfixed, (hdecode cs).2 hcs⟩
    rintro rfl
    have hempty : n.segment.toList = [] := by
      generalize n.segment.toList = ds at hcs
      cases hcs
      rfl
    exact n.valid.1 hempty

/-! ## Requests -/

/-- On a path that names no namespace, a request for a WebSocket does nothing. -/
theorem AsksForSocket.respond_of_not_names (h : AsksForSocket r) (hno : ∀ n, ¬ Names r.path n)
    (now : Timestamp) (b : Bus) :
    ∃ response, respond now true b r = (b, .response response) ∧ response.status ≠ 101 := by
  have hoptions : r.method ≠ "OPTIONS" := by
    rw [h.method]
    decide
  rw [respond, if_neg hoptions]
  cases hroute : Route.ofPath? r.path with
  | none => exact ⟨_, rfl, by rw [status_dress]; decide⟩
  | some route =>
    dsimp only
    cases route with
    | emit =>
      rw [if_neg (by rw [h.method]; decide)]
      exact ⟨_, rfl, by rw [status_dress]; decide⟩
    | health =>
      rw [if_pos (by rw [h.method]; decide), follow]
      exact ⟨_, rfl, by rw [status_dress]; exact (by decide : 200 ≠ 101)⟩
    | channel segment =>
      have hget : r.method ∈ (Route.channel segment).methods := h.method ▸ List.mem_cons_self
      rw [if_pos hget, follow, Gateway.upgrade, h.checkUpgrade_eq]
      cases hchannel : channelOf segment with
      | ok n => exact absurd (names_iff_route.2 ⟨segment, hroute, hchannel⟩) (hno n)
      | error response =>
        refine ⟨_, rfl, ?_⟩
        rw [status_dress, status_of_channelOf_error hchannel]
        decide

/-- **A request joins exactly the namespace that its path names.**

The request asks for a WebSocket on a connection that can become one.  Its path
is what stands before the query, as it was sent.  The gateway answers 101 if and
only if the path is one segment, is not that of a fixed route, and is decoded to
the segment of a namespace; in other words, if it spells that segment, each
character by itself or percent-encoded.  Then the connection is opened with a
subscription of that namespace, however it was spelled, and nobody else is
counted there or elsewhere.  On all other paths the gateway stays as it was. -/
theorem joined_iff_named (h : AsksForSocket r) (g : State) (fresh : Fresh) :
    (∀ cs query : List Char, r.target.toList = '/' :: (cs ++ query) →
      (∀ c ∈ cs, c ≠ '?' ∧ c ≠ '#') → (∀ c ∈ query.head?, c = '?' ∨ c = '#') →
      r.path.toList = '/' :: cs) ∧
    (∀ n, Names r.path n ↔ ∃ segment, r.path.toList = '/' :: segment ∧ '/' ∉ segment ∧
      r.path ∉ fixedPaths ∧ Http.Spells segment n.segment.toList) ∧
    ∃ g' answer, g.step fresh (.request true r) = (g', some answer) ∧
      (answer.status = 101 ↔ ∃ n, Names r.path n) ∧
      (∀ n, Names r.path n → ∃ s, answer = .upgrade s ∧ s.channel = n ∧
        g'.connections = g.connections ++ [Connection.opened s] ∧
        (∀ m, g'.bus.listenerCount m = g.bus.listenerCount m + if n = m then 1 else 0) ∧
        g'.bus.receiverCount = g.bus.receiverCount + 1) ∧
      ((∀ n, ¬ Names r.path n) → g' = g) := by
  refine ⟨fun _ _ => Http.Request.path_of_target, fun _ => names_iff_spells, ?_⟩
  by_cases hnames : ∃ n, Names r.path n
  · obtain ⟨n, hn⟩ := hnames
    refine ⟨⟨(g.bus.join n).1, g.connections ++ [Connection.opened (g.bus.join n).2]⟩,
      .upgrade (g.bus.join n).2, ?_, ⟨fun _ => ⟨n, hn⟩, fun _ => rfl⟩, fun m hm => ?_,
      fun hno => absurd hn (hno n)⟩
    · obtain ⟨segment, hroute, hchannel⟩ := names_iff_route.1 hn
      rw [State.step, h.respond_of_route hroute hchannel]
    · obtain rfl := Names.unique hn hm
      exact ⟨_, rfl, rfl, rfl, fun m => Bus.listenerCount_join g.bus n m, rfl⟩
  · have hno : ∀ n, ¬ Names r.path n := fun n hn => hnames ⟨n, hn⟩
    obtain ⟨response, hrespond, hstatus⟩ := h.respond_of_not_names hno fresh.now g.bus
    refine ⟨g, .response response, ?_, iff_of_false hstatus hnames,
      fun n hn => absurd hn (hno n), fun _ => rfl⟩
    rw [State.step, hrespond]

/-- A request on the path `/health`, with its first letter percent-encoded, and
with a query. -/
def requestToSpelledHealth : Http.Request :=
  { requestToJoin healthNamespace with target := "/%68ealth?from=1" }

/-- It joins the namespace that cannot be joined by its own path, because the
health is told there. -/
theorem health_joined_by_spelling :
    AsksForSocket requestToSpelledHealth ∧
    (∃ g s, sampleGateway.step default (.request true requestToSpelledHealth) =
        (g, some (.upgrade s)) ∧ s.channel = healthNamespace ∧ g.bus.receiverCount = 2) ∧
    AsksForSocket (requestToJoin healthNamespace) ∧
    ∃ answer, sampleGateway.step default (.request true (requestToJoin healthNamespace)) =
      (sampleGateway, some answer) ∧ answer.status ≠ 101 := by
  have hasks := (asksToJoin_requestToJoin healthNamespace).asksForSocket
  have hspelled : AsksForSocket requestToSpelledHealth :=
    ⟨rfl, hasks.connection, hasks.upgrade, hasks.key, hasks.version⟩
  obtain ⟨hpath, -, g, answer, hstep, -, hjoins, -⟩ :=
    joined_iff_named hspelled sampleGateway default
  obtain ⟨-, -, g', answer', hstep', hiff, -, hstays⟩ :=
    joined_iff_named hasks sampleGateway default
  have hpath : requestToSpelledHealth.path = "/%68ealth" :=
    String.toList_inj.1 <| hpath ['%', '6', '8', 'e', 'a', 'l', 't', 'h'] "?from=1".toList rfl
      (by simp) (by simp)
  have hnames : Names requestToSpelledHealth.path healthNamespace := by
    rw [hpath]
    exact ⟨"%68ealth".toList, rfl, by decide, by decide, by decide, by decide +kernel⟩
  have hno : ∀ n, ¬ Names (requestToJoin healthNamespace).path n := by
    rintro n ⟨-, -, -, -, hfixed, -⟩
    exact hfixed (by rw [(asksToJoin_requestToJoin healthNamespace).path]; decide)
  obtain ⟨s, rfl, hchannel, -, -, hcount⟩ := hjoins _ hnames
  obtain rfl := hstays hno
  have hbefore : sampleGateway.bus.receiverCount = 1 := by decide +kernel
  exact ⟨hspelled, ⟨g, s, hstep, hchannel, by rw [hcount, hbefore]⟩, hasks, answer', hstep',
    fun h => let ⟨n, hn⟩ := hiff.1 h; hno n hn⟩

end Gateway

end EventFeed
