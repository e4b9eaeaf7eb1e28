import EventFeed.Program.Basic
import EventFeed.Proofs.Environment.Overlay

/-!
# EventFeed.Proofs.Settings.Loading

Loading the settings of the programs, once or several times in one process.

Each load applies the `.env` file to the environment of the process first, and leaves
it changed for the next one.  The settings depend on what the variables are
(`Loader.settings_congr`), and the first load leaves them as every later one does, so
all loads give the settings of the environment that the file extends, whichever program
they are for and in whatever order they come (`Environment.loading_overlays`).
-/

namespace EventFeed

/-- Who loads settings. -/
inductive Loader where
  | gateway
  | listener
deriving Repr, DecidableEq

/-- What a loader gets: settings, or what is wrong with them. -/
inductive Loaded where
  | gateway (settings : Except FeedError GatewaySettings)
  | listener (settings : Except FeedError ListenerSettings)
deriving DecidableEq

namespace Loader

/-- The settings in an environment. -/
def settings : Loader → Environment → Loaded
  | .gateway, e => .gateway (GatewaySettings.ofEnvironment e)
  | .listener, e => .listener (ListenerSettings.ofEnvironment e)

/-- Load settings: first the file, then what is set.  The environment stays as the file
has left it. -/
def load (file : Option (List UInt8)) (l : Loader) (e : Environment) :
    Except ZeroInValue (Loaded × Environment) := do
  let e ← e.load file
  return (l.settings e, e)

/-- Load settings one after the other in one process. -/
def loadAll (file : Option (List UInt8)) :
    List Loader → Environment → Except ZeroInValue (List Loaded × Environment)
  | [], e => .ok ([], e)
  | l :: ls, e => do
    let (loaded, e) ← l.load file e
    let (more, e) ← loadAll file ls e
    return (loaded :: more, e)

variable {e f : Environment}

/-- Settings depend on the variables only. -/
theorem settings_congr (h : e.bytes? = f.bytes?) (l : Loader) : l.settings e = l.settings f := by
  have htext := Environment.text?_congr h
  cases l with
  | gateway => simp only [settings, GatewaySettings.ofEnvironment, Environment.number, htext]
  | listener =>
    simp only [settings, ListenerSettings.ofEnvironment, ListenerSettings.channelOf,
      ListenerSettings.eventOf, ListenerSettings.logPathOf, Environment.number, htext, h]

theorem load_eq {file : Option (List UInt8)} (h : e.load file = .ok f) (l : Loader) :
    l.load file e = .ok (l.settings f, f) := by
  rw [load, h]
  rfl

/-- All loads of one process give the settings of the environment that the file
extends: each load leaves it as the next one finds it. -/
theorem exists_loadAll {file : List UInt8} (hfile : 0 ∉ file) (ls : List Loader)
    (hf : ∃ g, f.load (some file) = .ok g ∧ g.HasNoZero ∧
      g.bytes? = (e.extend (Dotenv.assignmentsOf e file)).bytes?) :
    ∃ g, loadAll (some file) ls f =
      .ok (ls.map (·.settings (e.extend (Dotenv.assignmentsOf e file))), g) := by
  induction ls generalizing f with
  | nil => exact ⟨f, rfl⟩
  | cons l ls ih =>
    obtain ⟨g, hload, hg, hloaded⟩ := hf
    obtain ⟨again, hreload, hagain, hsame⟩ := Environment.exists_reload hfile hg hloaded
    obtain ⟨last, hrest⟩ := ih ⟨again, hreload, hagain, hsame.trans hloaded⟩
    refine ⟨last, ?_⟩
    rw [loadAll, load_eq hload, settings_congr hloaded]
    simp only [bind, Except.bind]
    rw [hrest]
    rfl

end Loader

/-- **Loading settings is an overlay.**

Take any environment and any `.env` file without zeros.  The file can be loaded, and
after that a variable that could be read as text is what it was, and any other one has
the first value that the file assigns to it, or else is what it was.  Loading the file
again changes nothing.

A program gets the settings that it would get without a file from the environment
extended by the assignments of the file, and does what it would do then.  And if
settings are loaded several times in one process, for one program or the other, each
load gives what it gives alone. -/
theorem Environment.loading_overlays {e : Environment} (he : e.HasNoZero) {file : List UInt8}
    (hfile : 0 ∉ file) :
    let assigned := Dotenv.assignmentsOf e file
    (∃ f, e.load (some file) = .ok f ∧
      (∀ name, f.bytes? name =
        if (e.text? name).isSome then e.bytes? name
        else ((assigned.lookup name).map Utf8.encode).or (e.bytes? name)) ∧
      ∃ g, f.load (some file) = .ok g ∧ g.bytes? = f.bytes?) ∧
    (∀ l : Loader, l.load none (e.extend assigned) =
        .ok (l.settings (e.extend assigned), e.extend assigned) ∧
      ∃ f, l.load (some file) e = .ok (l.settings (e.extend assigned), f)) ∧
    (∀ ls : List Loader, ∃ f, Loader.loadAll (some file) ls e =
      .ok (ls.map (·.settings (e.extend assigned)), f)) ∧
    (∀ net id files, Program.listen net id files e (some file) =
      Program.listen net id files (e.extend assigned) none) ∧
    ∀ net files, Program.gateway net files e (some file) =
      Program.gateway net files (e.extend assigned) none := by
  intro assigned
  obtain ⟨f, hload, hf, hbytes⟩ := exists_load hfile he
  have hsettings := Loader.settings_congr hbytes
  refine ⟨⟨f, hload, fun name => ?_, ?_⟩, fun l => ⟨rfl, f, ?_⟩, fun ls => ?_,
    fun net id files => ?_, fun net files => ?_⟩
  · rw [hbytes, bytes?_extend]
  · obtain ⟨g, hreload, -, hsame⟩ := exists_reload hfile hf hbytes
    exact ⟨g, hreload, hsame⟩
  · rw [Loader.load_eq hload, hsettings]
  · exact Loader.exists_loadAll hfile ls ⟨f, hload, hf, hbytes⟩
  · have hlistener : ListenerSettings.ofEnvironment f =
        ListenerSettings.ofEnvironment (e.extend assigned) :=
      Loaded.listener.inj (hsettings .listener)
    simp only [Program.listen, hload, load_none, hlistener]
  · have hgateway : GatewaySettings.ofEnvironment f =
        GatewaySettings.ofEnvironment (e.extend assigned) :=
      Loaded.gateway.inj (hsettings .gateway)
    simp only [Program.gateway, hload, load_none, hgateway]

/-- An event whose name is not text and is set from another variable; a host that is set
already; and a port behind a line that is not well formed.  The listener's settings are
loaded before and after those of the gateway. -/
theorem Environment.loading_overlays_sample :
    let e : Environment := ⟨[("FEED_HOST", Utf8.encode "feed"), ("FEED_EVENT", [0xFF])]⟩
    let file := Utf8.encode ("FEED_EVENT='mail of '$\x7bFEED_HOST\x7d\nFEED_HOST=other\n" ++
      "FEED_EVENT=late\nEVENT_BUS_CAPACITY=7\n!\nFEED_PORT=1")
    let listener := Loaded.listener (.ok ⟨⟨"feed", 5000, .standard⟩, "mail of feed", none⟩)
    let gateway := Loaded.gateway (.ok ⟨.v4 ⟨0, 0, 0, 0⟩ 5000, 7⟩)
    ∃ f, Loader.loadAll (some file) [.listener, .gateway, .listener] e =
      .ok ([listener, gateway, listener], f) := by
  intro e file listener gateway
  have he : e.HasNoZero := hasNoZero_of_entries (by decide +kernel)
  have hfile : 0 ∉ file := by decide +kernel
  obtain ⟨-, -, hall, -⟩ := loading_overlays he hfile
  obtain ⟨f, hf⟩ := hall [.listener, .gateway, .listener]
  have hsettings : [.listener, .gateway, .listener].map
      (fun l : Loader => l.settings (e.extend (Dotenv.assignmentsOf e file))) =
      [listener, gateway, listener] := by decide +kernel
  exact ⟨f, by rw [hf, hsettings]⟩

end EventFeed
