import WalletResponder.Service.Connection
import WalletResponder.Wallet.Overlay

/-!
# The daemon

From start to end: the configuration is loaded, a socket is bound to its path and listened to, the
connections are served one after another, and a signal ends it all. What the daemon prints and what
becomes of its socket depends on the configuration, on what is at the path, and on the connections.
-/

namespace WalletResponder

/-- What is at the path of the socket. -/
inductive SocketPlace where
  | free
  /-- The directory does not exist. -/
  | missingDirectory
  /-- A directory, which cannot be removed. -/
  | directory
  /-- A file of an earlier run, which is removed. -/
  | stale
  deriving DecidableEq, Repr

/-- Why no socket can be bound to a place, if that is so. -/
def SocketPlace.obstacle? : SocketPlace → Option Bytes
  | free | stale => none
  | missingDirectory => some (utf8 "No such file or directory")
  | directory => some (utf8 "Address already in use")

/-- A client: the pieces in which its bytes arrive, and whether it does not listen. -/
structure Client where
  pieces : List Bytes
  isDeaf : Bool

/-- A whole run: the exit code, what is printed, what each client gets, what is done, and whether
something is left at the path of the socket. -/
structure Run where
  exitCode : Nat
  output : Bytes
  errors : Bytes
  written : List Bytes
  effects : List Effect
  isSocketLeft : Bool

namespace Wallet

/-- Serves connections one after another; `i` connections came before. -/
def serveAllFrom (w : Wallet) (e : Entropy) : Nat → List Client → List Served
  | _, [] => []
  | i, c :: cs => w.serveConnection c.isDeaf c.pieces (e.part i) :: w.serveAllFrom e (i + 1) cs

/-- Serves connections one after another. -/
def serveAll (w : Wallet) (clients : List Client) (e : Entropy) : List Served :=
  w.serveAllFrom e 0 clients

end Wallet

namespace Daemon

/-- A line about the configuration. -/
def badConfiguration (f : Failure) : Bytes :=
  utf8 "siopvp-walletd: bad configuration: " ++ f.report ++ [0x0a]

/-- The line that says where the daemon listens. -/
def listening (path : Bytes) : Bytes :=
  utf8 "siopvp-walletd listening on UNIX socket: " ++ path ++ [0x0a]

/-- The line about a write that failed. -/
def brokenPipe : Bytes := utf8 "write: Broken pipe\n"

/-- The line about a socket that cannot be bound. -/
def cannotBind (reason : Bytes) : Bytes := utf8 "bind: " ++ reason ++ [0x0a]

/-- Runs with a loaded configuration. -/
def runWith (config : WalletConfig) (place : SocketPlace) (http : HttpFactory) (now : Int)
    (clients : List Client) (e : Entropy) : Run :=
  match place.obstacle? with
  | some reason => ⟨1, [], cannotBind reason, [], [], place == .directory⟩
  | none =>
    let w : Wallet := { config, http, now }
    let served := w.serveAll clients e
    ⟨0, listening config.socketPath,
      served.flatMap fun s => if s.isBroken then brokenPipe else [],
      served.map Served.written, served.flatMap Served.effects, false⟩

/-- Runs from start to end. When the configuration cannot be loaded, the socket is not touched. -/
def run (config : Except Failure WalletConfig) (place : SocketPlace) (http : HttpFactory)
    (now : Int) (clients : List Client) (e : Entropy) : Run :=
  match config with
  | .error f =>
    ⟨1, [], badConfiguration f, [], [], place == .directory || place == .stale⟩
  | .ok config => runWith config place http now clients e

end Daemon
end WalletResponder
