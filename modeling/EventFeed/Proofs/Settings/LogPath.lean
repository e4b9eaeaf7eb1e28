import EventFeed.Proofs.Environment.Overlay
import EventFeed.Proofs.Program.Output
import EventFeed.Proofs.Settings.Fields

/-!
# EventFeed.Proofs.Settings.LogPath

Who names the listener's file: the environment, or the `.env` file.

The path is the one setting that need not be text.  But a `.env` file is loaded over
every variable that cannot be read as text (`Environment.bytes?_of_load`).  So a path in
the environment stays if it is text, or if the `.env` file has none; and if it is not and
the file has one, that one counts (`ListenerSettings.logPath_kept_iff`).
-/

namespace EventFeed

/-- **A variable that is set** stays, unless it is no text and the file assigns it. -/
theorem Environment.bytes?_of_load_of_set {e f : Environment} {file : Option (List UInt8)}
    {name : String} {value : List UInt8} (h : e.load file = .ok f)
    (hset : e.bytes? name = some value) :
    f.bytes? name = if (Utf8.decode? value).isSome then some value
      else ((file.elim [] (Dotenv.assignmentsOf e)).lookup name).elim (some value)
        fun text => some (Utf8.encode text) := by
  have htext : e.text? name = Utf8.decode? value := by rw [text?, hset, Option.bind_some]
  rw [bytes?_of_load h, bytes?_extend, htext, hset]
  split
  · rfl
  · cases (file.elim [] (Dotenv.assignmentsOf e)).lookup name with
    | none => rfl
    | some text => rfl

namespace ListenerSettings

variable {env e : Environment} {file : Option (List UInt8)} {settings : ListenerSettings}
  {path : List UInt8}

/-- An empty path is none. -/
theorem logPathOf_of_bytes? (h : e.bytes? "FEED_LOG_PATH" = some path) :
    logPathOf e = if path = [] then none else some path := by
  rw [logPathOf, h]

/-- A path that is set is kept if it is text, or if the file assigns none. -/
theorem logPath_of_kept (hload : env.load file = .ok e)
    (hsettings : ofEnvironment e = .ok settings)
    (hset : env.bytes? "FEED_LOG_PATH" = some path) (hpath : path ≠ [])
    (hkept : (Utf8.decode? path).isSome ∨
      (file.elim [] (Dotenv.assignmentsOf env)).lookup "FEED_LOG_PATH" = none) :
    settings.logPath = some path := by
  have hbytes : e.bytes? "FEED_LOG_PATH" = some path := by
    rw [Environment.bytes?_of_load_of_set hload hset]
    rcases hkept with htext | hnone
    · exact if_pos htext
    · rw [hnone]
      exact ite_self _
  rw [(setBy_of_ofEnvironment hsettings).logPath, logPathOf_of_bytes? hbytes, if_neg hpath]

/-- One that is no text gives way to the first one that the file assigns. -/
theorem logPath_of_assigned (hload : env.load file = .ok e)
    (hsettings : ofEnvironment e = .ok settings)
    (hset : env.bytes? "FEED_LOG_PATH" = some path) (htext : Utf8.decode? path = none)
    {text : String}
    (hassigned : (file.elim [] (Dotenv.assignmentsOf env)).lookup "FEED_LOG_PATH" = some text) :
    settings.logPath = if text = "" then none else some (Utf8.encode text) := by
  have hbytes : e.bytes? "FEED_LOG_PATH" = some (Utf8.encode text) := by
    rw [Environment.bytes?_of_load_of_set hload hset, htext, hassigned]
    rfl
  rw [(setBy_of_ofEnvironment hsettings).logPath, logPathOf_of_bytes? hbytes]
  simp only [Utf8.encode_eq_nil_iff]

/-- **When the environment decides where a listener writes.**

Take any environment with a path that is not empty, and any `.env` file, or none, so that
there are settings.  They have this path if and only if it can be read as text or the file
assigns none.  Otherwise they have the first one that the file assigns, and none if that is
empty.

If they have it, a listener changes no file but the one of this path and its staging
file. -/
theorem logPath_kept_iff (hload : env.load file = .ok e)
    (hsettings : ofEnvironment e = .ok settings)
    (hset : env.bytes? "FEED_LOG_PATH" = some path) (hpath : path ≠ []) :
    let assigned := (file.elim [] (Dotenv.assignmentsOf env)).lookup "FEED_LOG_PATH"
    let kept := (Utf8.decode? path).isSome ∨ assigned = none
    (settings.logPath = some path ↔ kept) ∧
    (∀ text, Utf8.decode? path = none → assigned = some text →
      settings.logPath = if text = "" then none else some (Utf8.encode text)) ∧
    (kept → ∀ net id files q, q ≠ (FilePath.ofBytes path).place →
      q ≠ (Region.staging id (FilePath.ofBytes path)).place →
      (Program.listen net id files env file).files.at? q = files.at? q) := by
  intro assigned kept
  have hkeeps : kept → settings.logPath = some path :=
    logPath_of_kept hload hsettings hset hpath
  refine ⟨⟨fun hlog => ?_, hkeeps⟩,
    fun text htext hassigned => logPath_of_assigned hload hsettings hset htext hassigned,
    fun hkept net id files q htarget hstaging => ?_⟩
  · by_contra hlost
    obtain ⟨htext, hassigned⟩ := not_or.1 hlost
    obtain ⟨text, hassigned⟩ := Option.ne_none_iff_exists'.1 hassigned
    have hgiven := logPath_of_assigned hload hsettings hset
      (Option.not_isSome_iff_eq_none.1 htext) hassigned
    rw [hlog] at hgiven
    split at hgiven
    · cases hgiven
    · -- the path would be the encoding of a text, and so be text itself
      rw [Option.some.inj hgiven, Utf8.decode?_encode] at htext
      exact htext rfl
  · rw [Program.listen_of_load hload hsettings]
    refine Program.at?_listenWith net id files settings fun path' hlog => ?_
    obtain rfl := Option.some.inj ((hkeeps hkept).symm.trans hlog)
    exact ⟨htarget, hstaging⟩

/-- A path that is text stays, whatever the file assigns. -/
theorem logPath_kept_over_file :
    let env : Environment := ⟨[("FEED_LOG_PATH", Utf8.encode "log")]⟩
    let file := Utf8.encode "FEED_EVENT=mail\nFEED_LOG_PATH=other\nFEED_LOG_PATH=third"
    ∃ e settings, env.load (some file) = .ok e ∧ ofEnvironment e = .ok settings ∧
      settings.event = "mail" ∧ settings.logPath = some (Utf8.encode "log") := by
  intro env file
  let e : Environment :=
    ⟨[("FEED_EVENT", Utf8.encode "mail"), ("FEED_LOG_PATH", Utf8.encode "log")]⟩
  let settings : ListenerSettings :=
    ⟨⟨"127.0.0.1", 5000, .standard⟩, "mail", some (Utf8.encode "log")⟩
  have hload : env.load (some file) = .ok e := by decide +kernel
  have hsettings : ofEnvironment e = .ok settings := by decide +kernel
  obtain ⟨hkept, -, -⟩ := logPath_kept_iff hload hsettings rfl (by decide +kernel)
  exact ⟨e, settings, hload, hsettings, rfl, hkept.2 (.inl (by decide +kernel))⟩

/-- A path that is not text is lost, and what is received stands in the file that the
`.env` file names. -/
theorem logPath_lost :
    let path : List UInt8 := [0x6C, 0xFF]
    let env : Environment := ⟨[("FEED_LOG_PATH", path)]⟩
    let file := Utf8.encode "FEED_LOG_PATH=other"
    let net := Network.sending (Program.sampleFrames ["x"])
    let after := (Program.listen net ⟨1⟩ .empty env (some file)).files
    (∃ e settings, env.load (some file) = .ok e ∧ ofEnvironment e = .ok settings ∧
        settings.logPath = some (Utf8.encode "other") ∧ settings.logPath ≠ some path) ∧
      after.at? [Utf8.encode "other"] = some (.file "<p>x</p>") := by
  intro path env file net after
  let settings : ListenerSettings :=
    ⟨⟨"127.0.0.1", 5000, .standard⟩, Event.standardName, some (Utf8.encode "other")⟩
  let c : Client := ⟨settings.endpoint, Program.sampleFrames ["x"]⟩
  have hload : env.load (some file) = .ok ⟨[("FEED_LOG_PATH", Utf8.encode "other")]⟩ := by
    decide +kernel
  have hsettings : ofEnvironment ⟨[("FEED_LOG_PATH", Utf8.encode "other")]⟩ = .ok settings := by
    decide +kernel
  have hlog : settings.logPath = some (Utf8.encode "other") := rfl
  have hconnect : Client.connect net settings.endpoint = .ok c := Client.connect_sending _
  have hpayloads : Received.payloads settings.event c.unread = ["x"] :=
    Program.payloads_sampleFrames _
  have hsome : Received.payloads settings.event c.unread ≠ [] :=
    hpayloads ▸ List.cons_ne_nil "x" []
  have hready : Region.Ready .empty ⟨1⟩ (FilePath.ofText "other") :=
    ⟨FileTree.writable_of_isLegal (by decide +kernel) (by decide +kernel),
      ⟨by decide +kernel, by decide +kernel, by decide +kernel⟩⟩
  obtain ⟨written, hlisten, hwritten⟩ :=
    Program.exists_listen_of_ready hload hsettings hconnect hlog hready hsome
  have hafter : after = written :=
    (congrArg Program.Outcome.files hlisten).trans (Program.files_stopped ..)
  refine ⟨⟨_, settings, hload, hsettings, hlog, by decide +kernel⟩, ?_⟩
  rw [hafter, hwritten, hpayloads, if_pos (by decide +kernel)]
  decide +kernel

end ListenerSettings

end EventFeed
