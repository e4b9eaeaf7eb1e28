import EventFeed.Client.Basic
import EventFeed.Gateway.Run
import EventFeed.Program.Report
import EventFeed.Settings

/-!
# EventFeed.Program.Basic

The two programs, as functions of what surrounds them: the environment with
its `.env` file, the network, and the files.

* The listener connects to its endpoint, shows every payload in its file or
  else on its output, and stops when the connection is closed.
* The gateway makes its bus and listens on its address.

A program that gives up reports why on its error output, and its exit
status is one.
-/

namespace EventFeed

namespace Program

/-- What a program leaves behind when it stops. -/
structure Outcome where
  exit : Nat
  output : String
  errors : String
  files : FileTree
deriving Repr, DecidableEq, Inhabited

/-- The exit status of a program that cannot go on at all. -/
def brokenExit : Nat := 101

/-- A program that gives up for a reason. -/
def giveUp (output : String) (files : FileTree) (chain : List String) : Outcome :=
  ⟨1, output, report chain, files⟩

/-- A program that cannot go on at all. -/
def halted (files : FileTree) (message : String) : Outcome :=
  ⟨brokenExit, "", message ++ "\n", files⟩

/-! ## The listener -/

/-- Hand all events of a client to a listener, and say how that ended. -/
def follow {σ : Type} (settings : ListenerSettings) (region : Region σ) (c : Client) (s : σ) :
    Except FeedError Unit × σ :=
  let (result, _, _, s) := c.listen settings.event (Listener.of region) s
  (result, s)

/-- How the listener stops after all events have been handed over. -/
def stopped (result : Except FeedError Unit) (output : String) (files : FileTree) : Outcome :=
  match result with
  | .ok _ => ⟨0, output, "", files⟩
  | .error e => giveUp output files e.chain

/-- The listener with its settings; `id` marks its staging file. -/
def listenWith (net : Network) (id : Uuid) (files : FileTree) (settings : ListenerSettings) :
    Outcome :=
  match Client.connect net settings.endpoint with
  | .error e => giveUp "" files (("connecting to " ++ settings.endpoint.url) :: e.chain)
  | .ok c =>
    match settings.logPath with
    | some path =>
      let (result, files) := follow settings (Region.file id (FilePath.ofBytes path)) c files
      stopped result "" files
    | none =>
      let (result, output) := follow settings Region.output c ""
      stopped result output files

/-- The listener. -/
def listen (net : Network) (id : Uuid) (files : FileTree) (env : Environment)
    (file : Option (List UInt8)) : Outcome :=
  match env.load file with
  | .error e => halted files e.message
  | .ok env =>
    match ListenerSettings.ofEnvironment env with
    | .error e => giveUp "" files e.chain
    | .ok settings => listenWith net id files settings

/-! ## The gateway -/

/-- Start the gateway: either it is ready for requests, or it has given
up. -/
def gateway (net : Network) (files : FileTree) (env : Environment) (file : Option (List UInt8)) :
    Except Outcome Gateway.State :=
  match env.load file with
  | .error e => .error (halted files e.message)
  | .ok env =>
    match GatewaySettings.ofEnvironment env with
    | .error e => .error (giveUp "" files e.chain)
    | .ok settings =>
      match Gateway.State.start settings.capacity with
      | .error e => .error (halted files e.message)
      | .ok state =>
        match net.listen settings.listenAddress with
        | .error e => .error (giveUp "" files [e.message])
        | .ok _ => .ok state

end Program

end EventFeed
