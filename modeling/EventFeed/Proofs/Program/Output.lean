import EventFeed.Program.Basic
import EventFeed.Proofs.Client.Relistening
import EventFeed.Proofs.Listener.Rows

/-!
# EventFeed.Proofs.Program.Output

What the listener leaves on its output and in its file.

The payloads of a connection come to the listener as one row, and its region is given one
text for each (`Program.follow_of_shown`), unless the first one cannot be shown
(`Program.follow_of_refused`).  So the output has the paragraphs of all payloads that had
come by then, as often as there were payloads, and the file has those of all payloads in
the end; the last text is the same for both, and for a region in memory
(`Program.listener_output`).  Whatever happens, no file but that of the listener and its
staging file changes (`Program.at?_listenWith`).
-/

namespace EventFeed

open Received (closing payloads)

/-! ## Regions that never fail -/

/-- An output can show everything. -/
theorem Region.neverFails_output : Region.output.NeverFails := fun _ _ => rfl

/-- So all texts of a row are shown. -/
theorem Region.NeverFails.showAll {σ : Type} {region : Region σ} (h : region.NeverFails) (s : σ)
    (texts : List String) : ∀ r ∈ (region.showAll s texts).1, r = .ok () := by
  induction texts generalizing s with
  | nil => exact fun r hr => absurd hr List.not_mem_nil
  | cons text texts ih => exact List.forall_mem_cons.2 ⟨h text s, ih _⟩

namespace Program

variable {net : Network} {id : Uuid} {files : FileTree} {env e : Environment}
  {file : Option (List UInt8)} {settings : ListenerSettings} {c : Client}

/-! ## Following a connection -/

section Follow

variable {σ : Type} {region : Region σ} {s s' : σ}

/-- The region is given one text for each payload, if it can show them all, and it ends as
the connection does. -/
theorem follow_of_shown
    (h : ∀ r ∈ (region.showAll s (Listener.renders [] (payloads settings.event c.unread))).1,
      r = .ok ()) :
    follow settings region c s = (closing () c.unread,
      (region.showAll s (Listener.renders [] (payloads settings.event c.unread))).2) := by
  have hhandle := Listener.handleAll_eq (.of region) s (payloads settings.event c.unread)
  have hok : ∀ r ∈ ((Listener.of region).handleAll s (payloads settings.event c.unread)).1,
      r.isOk = true := by
    rw [hhandle]
    intro r hr
    obtain ⟨shown, hshown, rfl⟩ := List.mem_map.1 hr
    rw [h shown hshown]
    rfl
  rw [follow, Client.listen_of_isOk hok, hhandle]
  rfl

/-- If it cannot show the first one, that is the end. -/
theorem follow_of_refused {payload : String} {ps : List String} {e : IoError}
    (hps : payloads settings.event c.unread = payload :: ps)
    (h : region (paragraphs [payload]) s = (.error e, s')) :
    follow settings region c s = (.error (.render e), s') := by
  have hhandle : (Listener.of region).handle payload s =
      (.error (.render e), ⟨region, ⟨[payload]⟩⟩, s') := by
    change ((region (paragraphs [payload]) s).1.mapError FeedError.render, _,
      (region (paragraphs [payload]) s).2) = _
    rw [h]
    rfl
  obtain ⟨c', hlisten⟩ := Client.listen_of_error hps hhandle
  rw [follow, hlisten]

/-- Whatever comes of it, the region has been given a row of texts. -/
theorem exists_showAll_of_follow (settings : ListenerSettings) (region : Region σ) (c : Client)
    (s : σ) : ∃ texts, (follow settings region c s).2 = (region.showAll s texts).2 := by
  obtain ⟨ps, hps⟩ := Client.exists_handleAll settings.event c (.of region) s
  rw [Listener.handleAll_eq] at hps
  exact ⟨_, congrArg Prod.snd hps⟩

/-- Without payloads nothing is shown. -/
theorem follow_of_nil (hps : payloads settings.event c.unread = []) :
    follow settings region c s = (closing () c.unread, s) := by
  have hnone : ∀ r ∈ (region.showAll s (Listener.renders [] [])).1, r = .ok () :=
    fun r hr => absurd hr List.not_mem_nil
  rw [follow_of_shown (by rwa [hps]), hps]
  rfl

end Follow

/-! ## The three regions -/

/-- A region that never fails is given them all. -/
theorem follow_of_neverFails {σ : Type} {region : Region σ} (h : region.NeverFails)
    (settings : ListenerSettings) (c : Client) (s : σ) :
    follow settings region c s = (closing () c.unread,
      (region.showAll s (Listener.renders [] (payloads settings.event c.unread))).2) :=
  follow_of_shown (h.showAll s _)

section File

variable {target : FilePath}

/-- In a file the last one is, if there is room for the staging file. -/
theorem follow_file_of_ready (h : Region.Ready files id target)
    (hps : payloads settings.event c.unread ≠ []) :
    ∃ after, follow settings (Region.file id target) c files = (closing () c.unread, after) ∧
      ∀ q, after.at? q =
        if q = target.place then some (.file (paragraphs (payloads settings.event c.unread)))
        else if q = (Region.staging id target).place then none else files.at? q := by
  obtain ⟨hok, hafter⟩ := Region.showAll_file h (Listener.getLast?_renders [] hps)
  exact ⟨_, follow_of_shown hok, hafter⟩

/-- If there is none, the first one cannot be shown. -/
theorem follow_file_of_not_hasRoom (h : files.Writable target)
    (hroom : ¬ Region.HasRoom files id target) (hps : payloads settings.event c.unread ≠ []) :
    follow settings (Region.file id target) c files =
      (.error (.render (if target.last.length ≤ 218 ∧ target.bytes.length ≤ 4058
        then .isDirectory else .nameTooLong)), files) := by
  obtain ⟨payload, ps, hps⟩ := List.exists_cons_of_ne_nil hps
  refine follow_of_refused hps ?_
  rw [Region.file, Region.write_staging_of_not_hasRoom h hroom]

end File

/-! ## How it stops -/

@[simp] theorem output_stopped (result : Except FeedError Unit) (output : String)
    (files : FileTree) : (stopped result output files).output = output := by
  cases result with
  | ok u => rfl
  | error e => rfl

@[simp] theorem files_stopped (result : Except FeedError Unit) (output : String)
    (files : FileTree) : (stopped result output files).files = files := by
  cases result with
  | ok u => rfl
  | error e => rfl

/-! ## The listener's file -/

/-- A listener without a file writes on its output. -/
theorem listenWith_of_none (hconnect : Client.connect net settings.endpoint = .ok c)
    (hpath : settings.logPath = none) : listenWith net id files settings =
      stopped (follow settings Region.output c "").1 (follow settings Region.output c "").2
        files := by
  simp only [listenWith, hconnect, hpath]

/-- A listener with a file writes nowhere else. -/
theorem listenWith_of_some (hconnect : Client.connect net settings.endpoint = .ok c)
    {path : List UInt8} (hpath : settings.logPath = some path) :
    listenWith net id files settings =
      stopped (follow settings (Region.file id (FilePath.ofBytes path)) c files).1 ""
        (follow settings (Region.file id (FilePath.ofBytes path)) c files).2 := by
  simp only [listenWith, hconnect, hpath]

/-- **No other file changes**: nothing does but the listener's own and its staging file. -/
theorem at?_listenWith (net : Network) (id : Uuid) (files : FileTree)
    (settings : ListenerSettings) {q : FilePlace}
    (hq : ∀ path, settings.logPath = some path → q ≠ (FilePath.ofBytes path).place ∧
      q ≠ (Region.staging id (FilePath.ofBytes path)).place) :
    (listenWith net id files settings).files.at? q = files.at? q := by
  cases hconnect : Client.connect net settings.endpoint with
  | error e =>
    rw [listenWith, hconnect]
    rfl
  | ok c =>
    cases hpath : settings.logPath with
    | none => rw [listenWith_of_none hconnect hpath, files_stopped]
    | some path =>
      obtain ⟨htarget, hstaging⟩ := hq path hpath
      obtain ⟨texts, htexts⟩ := exists_showAll_of_follow settings
        (Region.file id (FilePath.ofBytes path)) c files
      rw [listenWith_of_some hconnect hpath, files_stopped, htexts]
      exact Region.at?_showAll_file texts htarget hstaging

/-! ## The listener as it is started -/

section Listen

variable {path : List UInt8} (hload : env.load file = .ok e)
  (hsettings : ListenerSettings.ofEnvironment e = .ok settings)
  (hconnect : Client.connect net settings.endpoint = .ok c)

include hload hsettings

/-- The listener with the settings that it loads. -/
theorem listen_of_load : listen net id files env file = listenWith net id files settings := by
  simp only [listen, hload, hsettings]

include hconnect

/-- Without a file, the output has all texts, and a line end behind each. -/
theorem listen_of_none (hpath : settings.logPath = none) : listen net id files env file =
    stopped (closing () c.unread) (String.join
      ((Listener.renders [] (payloads settings.event c.unread)).map (· ++ "\n"))) files := by
  rw [listen_of_load hload hsettings, listenWith_of_none hconnect hpath,
    follow_of_neverFails Region.neverFails_output, Region.showAll_output, String.empty_append]

/-- With one, it has nothing. -/
theorem output_listen_of_some (hpath : settings.logPath = some path) :
    (listen net id files env file).output = "" := by
  rw [listen_of_load hload hsettings, listenWith_of_some hconnect hpath, output_stopped]

/-- Without payloads the file is left alone. -/
theorem listen_of_nil (hpath : settings.logPath = some path)
    (hps : payloads settings.event c.unread = []) :
    listen net id files env file = stopped (closing () c.unread) "" files := by
  rw [listen_of_load hload hsettings, listenWith_of_some hconnect hpath, follow_of_nil hps]

/-- With payloads it holds all of them in the end, if there is room. -/
theorem exists_listen_of_ready (hpath : settings.logPath = some path)
    (hready : Region.Ready files id (FilePath.ofBytes path))
    (hps : payloads settings.event c.unread ≠ []) :
    ∃ after, listen net id files env file = stopped (closing () c.unread) "" after ∧
      ∀ q, after.at? q =
        if q = (FilePath.ofBytes path).place then
          some (.file (paragraphs (payloads settings.event c.unread)))
        else if q = (Region.staging id (FilePath.ofBytes path)).place then none
        else files.at? q := by
  obtain ⟨after, hfollow, hafter⟩ := follow_file_of_ready hready hps
  refine ⟨after, ?_, hafter⟩
  rw [listen_of_load hload hsettings, listenWith_of_some hconnect hpath, hfollow]

/-- If there is none, the listener gives up. -/
theorem listen_of_not_hasRoom (hpath : settings.logPath = some path)
    (hwritable : files.Writable (FilePath.ofBytes path))
    (hroom : ¬ Region.HasRoom files id (FilePath.ofBytes path))
    (hps : payloads settings.event c.unread ≠ []) :
    listen net id files env file = giveUp "" files (FeedError.render
      (if (FilePath.ofBytes path).last.length ≤ 218 ∧ (FilePath.ofBytes path).bytes.length ≤ 4058
        then .isDirectory else .nameTooLong)).chain := by
  rw [listen_of_load hload hsettings, listenWith_of_some hconnect hpath,
    follow_file_of_not_hasRoom hwritable hroom hps]
  rfl

end Listen

/-! ## The law -/

/-- **What the listener leaves behind.**

Take any settings that can be loaded and any connection that comes of them, whatever is
sent on it; `ps` are the payloads of the event that is set, among the texts before the end.

Without a file, the output has for each payload the paragraphs of all up to it and a line
end.  With a file, the output has nothing.  If there are no payloads, nothing is written.
If there are, and the file can be written, it holds the paragraphs of all of them in the
end, and nothing else has changed, provided that there is room for the staging file; if
there is none, the first payload cannot be shown, and the listener gives up and leaves
everything as it was.

So the last text on the output, the content of the file and what memory holds after the
same payloads are the same. -/
theorem listener_output (hload : env.load file = .ok e)
    (hsettings : ListenerSettings.ofEnvironment e = .ok settings)
    (hconnect : Client.connect net settings.endpoint = .ok c) :
    let ps := payloads settings.event c.unread
    let shown (ps : List String) := String.join (ps.map fun p => "<p>" ++ p ++ "</p>")
    let texts := (List.range ps.length).map fun k => shown (ps.take (k + 1))
    let outcome := listen net id files env file
    (settings.logPath = none → outcome =
      stopped (closing () c.unread) (String.join (texts.map (· ++ "\n"))) files) ∧
    (∀ path, settings.logPath = some path →
      let target := FilePath.ofBytes path
      outcome.output = "" ∧
      (ps = [] → outcome = stopped (closing () c.unread) "" files) ∧
      (ps ≠ [] → files.Writable target →
        (Region.HasRoom files id target →
          ∃ after, outcome = stopped (closing () c.unread) "" after ∧ ∀ q, after.at? q =
            if q = target.place then some (.file (shown ps))
            else if q = (Region.staging id target).place then none else files.at? q) ∧
        (¬ Region.HasRoom files id target → outcome = giveUp "" files
          (FeedError.render (if target.last.length ≤ 218 ∧ target.bytes.length ≤ 4058
            then .isDirectory else .nameTooLong)).chain))) ∧
    (ps ≠ [] → texts.getLast? = some (shown ps) ∧
      (c.listen settings.event (.of Region.memory) none).2.2.2 = some (shown ps)) := by
  intro ps shown texts outcome
  have hshown : shown = paragraphs := funext fun ps => (paragraphs_eq_join ps).symm
  have htexts : texts = Listener.renders [] ps := by
    rw [Listener.renders_eq, ← hshown]
    rfl
  have hlast (hps : ps ≠ []) : texts.getLast? = some (shown ps) := by
    rw [htexts, hshown]
    exact Listener.getLast?_renders [] hps
  refine ⟨fun hpath => ?_, fun path hpath => ?_, fun hps => ⟨hlast hps, ?_⟩⟩
  · rw [htexts]
    exact listen_of_none hload hsettings hconnect hpath
  · intro target
    refine ⟨output_listen_of_some hload hsettings hconnect hpath,
      listen_of_nil hload hsettings hconnect hpath,
      fun hps hwritable => ⟨fun hroom => ?_, fun hroom => ?_⟩⟩
    · rw [hshown]
      exact exists_listen_of_ready hload hsettings hconnect hpath ⟨hwritable, hroom⟩ hps
    · exact listen_of_not_hasRoom hload hsettings hconnect hpath hwritable hroom hps
  · have hmemory := congrArg Prod.snd
      (follow_of_neverFails Client.neverFails_memory settings c none)
    rw [Region.showAll_memory, ← htexts, hlast hps] at hmemory
    exact hmemory

/-! ## Samples -/

end Program

/-- A network where all servers accept all connections, and send the same on each. -/
def Network.sending (frames : List Received) : Network :=
  ⟨fun _ _ => .ok fun _ => .accepted frames, fun _ => .ok ()⟩

/-- A client of the standard endpoint gets it. -/
theorem Client.connect_sending (frames : List Received) :
    connect (.sending frames) ⟨"127.0.0.1", 5000, .standard⟩ =
      .ok ⟨⟨"127.0.0.1", 5000, .standard⟩, frames⟩ := rfl

namespace Program

/-- Payloads as texts of the standard event, and a close frame behind them. -/
def sampleFrames (ps : List String) : List Received :=
  ps.map (fun p => .frame (.text (Envelope.ofEvent default
    (Event.publishedAt default .standard Event.standardName (.string p))).text)) ++
    [.frame .close]

theorem payloads_sampleFrames (ps : List String) :
    payloads Event.standardName (sampleFrames ps) = ps := by
  induction ps with
  | nil => rfl
  | cons p ps ih =>
    have hdecode : Envelope.decodeEvent (Envelope.ofEvent default
        (Event.publishedAt default .standard Event.standardName (.string p))).text
        Event.standardName = some p :=
      (Envelope.decodeEvent_ofEvent (Event.readable_of_string ..) default _).trans (if_pos rfl)
    have hframes : payloads Event.standardName (sampleFrames (p :: ps)) = p :: _ :=
      Received.payloads_text hdecode (sampleFrames ps)
    rw [hframes, ih]

theorem closing_sampleFrames (ps : List String) : closing () (sampleFrames ps) = .ok () := by
  induction ps with
  | nil => rfl
  | cons p ps ih => exact ih

/-- Payloads with a line feed, with markup and with nothing in them: once on the output, and
once in a file whose place is taken by another one. -/
theorem listener_output_of_three :
    let ps := ["a\nb", "<i>&</i>", ""]
    let net := Network.sending (sampleFrames ps)
    let files : FileTree := ⟨[([Utf8.encode "log"], .file "old")]⟩
    let env : Environment := ⟨[("FEED_LOG_PATH", Utf8.encode "log")]⟩
    listen net ⟨1⟩ files ⟨[]⟩ none = ⟨0, "<p>a\nb</p>\n<p>a\nb</p><p><i>&</i></p>\n" ++
        "<p>a\nb</p><p><i>&</i></p><p></p>\n", "", files⟩ ∧
      ∃ after, listen net ⟨1⟩ files env none = ⟨0, "", "", after⟩ ∧
        after.at? [Utf8.encode "log"] = some (.file "<p>a\nb</p><p><i>&</i></p><p></p>") := by
  intro ps net files env
  have hplain : ListenerSettings.ofEnvironment ⟨[]⟩ =
      .ok ⟨⟨"127.0.0.1", 5000, .standard⟩, Event.standardName, none⟩ := by decide +kernel
  have hset : ListenerSettings.ofEnvironment env =
      .ok ⟨⟨"127.0.0.1", 5000, .standard⟩, Event.standardName, some (Utf8.encode "log")⟩ := by
    decide +kernel
  have hwritable : files.Writable (FilePath.ofText "log") :=
    FileTree.writable_of_isLegal (by decide +kernel) (by decide +kernel)
  have hroom : Region.HasRoom files ⟨1⟩ (FilePath.ofText "log") :=
    ⟨by decide +kernel, by decide +kernel, by decide +kernel⟩
  obtain ⟨houtput, -, -⟩ := @listener_output net ⟨1⟩ files _ _ _ _ _ (Environment.load_none ⟨[]⟩)
    hplain (Client.connect_sending _)
  obtain ⟨-, hfile, -⟩ := @listener_output net ⟨1⟩ files _ _ _ _ _ (Environment.load_none env)
    hset (Client.connect_sending _)
  simp only [payloads_sampleFrames, closing_sampleFrames] at houtput hfile
  obtain ⟨-, -, hwritten⟩ := hfile _ rfl
  obtain ⟨after, houtcome, hafter⟩ := (hwritten (by decide) hwritable).1 hroom
  refine ⟨(houtput trivial).trans (by decide +kernel), after, houtcome, ?_⟩
  rw [hafter, if_pos (by decide +kernel)]
  decide +kernel

/-- With a name of 219 bytes the listener gives up at the first payload, though a file of
that name can be written. -/
theorem output_not_shown :
    let frames := sampleFrames ["x"]
    let name : FileName := List.replicate 219 0x61
    let outcome := listen (.sending frames) ⟨1⟩ .empty ⟨[("FEED_LOG_PATH", name)]⟩ none
    payloads Event.standardName frames = ["x"] ∧
      FileTree.empty.Writable (FilePath.ofBytes name) ∧
      outcome = giveUp "" .empty (FeedError.render .nameTooLong).chain ∧
      outcome.files.at? (FilePath.ofBytes name).place ≠ some (.file (paragraphs ["x"])) := by
  intro frames name outcome
  let settings : ListenerSettings :=
    ⟨⟨"127.0.0.1", 5000, .standard⟩, Event.standardName, some name⟩
  have hset : ListenerSettings.ofEnvironment ⟨[("FEED_LOG_PATH", name)]⟩ = .ok settings := by
    decide +kernel
  have hlog : settings.logPath = some name := rfl
  have hconnect : Client.connect (.sending frames) settings.endpoint =
      .ok ⟨settings.endpoint, frames⟩ := Client.connect_sending frames
  have hpayloads : payloads settings.event frames = ["x"] := payloads_sampleFrames _
  have hpath : FilePath.ofBytes name = ⟨[], name⟩ := by decide +kernel
  have hwritable : FileTree.empty.Writable (FilePath.ofBytes name) :=
    hpath ▸ FileTree.writable_of_isLegal (by decide +kernel) (by decide +kernel)
  have hlong : ¬ (FilePath.ofBytes name).last.length ≤ 218 := by decide +kernel
  have hroom : ¬ Region.HasRoom .empty ⟨1⟩ (FilePath.ofBytes name) := fun h => hlong h.name
  have houtcome : outcome = giveUp "" .empty (FeedError.render .nameTooLong).chain := by
    refine (listen_of_not_hasRoom (Environment.load_none _) hset hconnect hlog hwritable hroom
      (hpayloads ▸ List.cons_ne_nil "x" [])).trans ?_
    rw [if_neg fun h => hlong h.1]
  refine ⟨hpayloads, hwritable, houtcome, ?_⟩
  rw [houtcome, hpath]
  exact (by decide +kernel : FileTree.empty.at? [name] ≠ some (.file (paragraphs ["x"])))

end Program

end EventFeed
