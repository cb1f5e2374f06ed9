import Std.Time.DateTime.Timestamp
import WalletResponder.Service.Daemon
import WalletResponder.Service.Log

/-!
# Serving a connection on the standard streams

The outermost layer. Whoever starts the program listens to the socket and hands each connection over
as the standard streams. The program reads the configuration and the files that it names, serves the
lines that arrive, and carries out what is to be recorded. All that it decides is decided by
`WalletConfig.load`, `Connection.split` and `Wallet.handleLine`.

Nothing is sent over a network: the client is `HttpClient.offline`.
-/

namespace WalletResponder
namespace Outside

/-- A path, if the bytes are text. -/
def path? (s : Bytes) : Option String := String.fromUTF8? ⟨s.toArray⟩

/-- What is in a file, if it can be read. -/
def read? (path : Bytes) : IO (Option Bytes) := do
  match path? path with
  | none => pure none
  | some path =>
    try
      let content ← IO.FS.readBinFile path
      pure (some content.toList)
    catch _ => pure none

/-- The text of the configuration: none if there is no such file, and a failure if it cannot be
read. -/
def configText (path : String) : IO (Except Failure (Option Bytes)) := do
  match ← (IO.FS.readBinFile path).toBaseIO with
  | .ok text => pure (.ok (some text.toList))
  | .error (.noFileOrDirectory ..) => pure (.ok none)
  | .error _ => pure (.error (.crypto (.cannotOpen (utf8 path))))

/-- Loads the configuration and the key that it names. -/
def config : IO (Except Failure WalletConfig) := do
  let path := (← IO.getEnv "SIOPVP_CONFIG").getD "/etc/siopvp/walletd.json"
  match ← configText path with
  | .error f => pure (.error f)
  | .ok text =>
    let keyPath := (text.bind WalletConfig.keyPath?).getD []
    let key ← read? keyPath
    pure (WalletConfig.load (fun p => if p = keyPath then key else none) text)

/-- Records an event in the audit trail. A trail that cannot be written to is left as it is. -/
def record (logPath : Bytes) (ev : AuditEvent) (now : Int) : IO Unit := do
  match ev.entry? now, path? logPath, path? (WalletConfig.directory logPath) with
  | some entry, some path, some directory =>
    try
      if !directory.isEmpty then IO.FS.createDirAll directory
      let file ← IO.FS.Handle.mk path .append
      file.write ⟨entry.toArray⟩
    catch e => IO.eprintln s!"audit: {e}"
  | _, _, _ => pure ()

/-- The time in seconds. -/
def now : IO Int := do
  let t ← Std.Time.Timestamp.now
  pure t.toSecondsSinceUnixEpoch.val

/-- Serves one line. -/
def serveLine (c : WalletConfig) (output : IO.FS.Stream) (line : Bytes) : IO Unit := do
  let time ← now
  let seed ← IO.getRandomBytes 32
  let w : Wallet := { config := c, http := .ok (some .offline), now := time }
  let (effects, reply) := w.handleLine line (Entropy.ofSeed seed.toList)
  for ev in effects.filterMap Effect.event? do record c.logPath ev time
  output.write ⟨(reply ++ [0x0a]).toArray⟩
  output.flush

/-- Serves the lines that arrive after `waiting`. -/
partial def serve (c : WalletConfig) (input output : IO.FS.Stream) (waiting : Bytes) : IO Unit := do
  let piece ← input.read 4096
  if piece.isEmpty then pure ()
  else
    let (lines, rest) := Connection.split (waiting ++ piece.toList)
    for line in lines do
      if !line.isEmpty then serveLine c output line
    if rest.length > Wallet.maxLineBytes then serveLine c output rest
    else serve c input output rest

end Outside
end WalletResponder

/-- Loads the configuration and serves a connection, until it ends or a write fails. -/
def main : IO UInt32 := do
  let errors ← IO.getStderr
  match ← WalletResponder.Outside.config with
  | .error f =>
    errors.write ⟨(WalletResponder.Daemon.badConfiguration f).toArray⟩
    pure 1
  | .ok c =>
    try WalletResponder.Outside.serve c (← IO.getStdin) (← IO.getStdout) []
    catch _ => errors.write ⟨WalletResponder.Daemon.brokenPipe.toArray⟩
    pure 0
