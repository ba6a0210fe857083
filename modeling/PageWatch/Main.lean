import PageWatch.CommandLine.Program
import PageWatch.Network.Wire
import Std.Async.DNS
import Std.Async.Signal
import Std.Async.TCP
import Std.Async.Timer

/-!
# Running the program

The host of the operating system. Requests go out over plain connections, and
what cannot be reached that way counts as unanswered.
-/

set_option autoImplicit false

namespace PageWatch.CommandLine

def fileError : IO.Error → FileError
  | .noFileOrDirectory .. => .missing
  | .alreadyExists .. => .occupied
  | .inappropriateType .. => .notFolder
  | .illegalOperation .. => .isFolder
  | e => .other e.toString

def attempt {α : Type} (action : IO α) : IO (Except FileError α) := do
  try
    return .ok (← action)
  catch e =>
    return .error (fileError e)

def appendTo (path : String) (bytes : List UInt8) : IO Unit := do
  let handle ← IO.FS.Handle.mk path .append
  handle.write (ByteArray.mk bytes.toArray)
  handle.flush

def performStep : FileStep → IO Unit
  | .makeFolders path => IO.FS.createDirAll path
  | .create path => IO.FS.writeBinFile path ByteArray.empty
  | .append path bytes => appendTo path bytes
  | .rename source target => IO.FS.rename source target

def systemDisk : Disk IO where
  read path := attempt do return (← IO.FS.readBinFile path).toList
  perform step := attempt (performStep step)

open Std.Async

def socketAddress (number : UInt16) : Std.Net.IPAddr → Std.Net.SocketAddress
  | .v4 address => .v4 ⟨address, number⟩
  | .v6 address => .v6 ⟨address, number⟩

def connectAny (number : UInt16) : List Std.Net.IPAddr → Async (Option TCP.Socket.Client)
  | [] => return none
  | address :: rest => do
    try
      let client ← TCP.Socket.Client.mk
      client.connect (socketAddress number address)
      return some client
    catch _ => connectAny number rest

def receiveAll (client : TCP.Socket.Client) : Async ByteArray := do
  let mut received := ByteArray.empty
  repeat
    match ← client.recv? 65536 with
    | some bytes => received := received ++ bytes
    | none => break
  return received

def converse (request : Request) (d : Destination) : Async (Option Reply) := do
  let number := d.number.getD 80
  let addresses ← DNS.getAddrInfo d.machine (toString number)
  match ← connectAny number.toUInt16 addresses.toList with
  | none => return none
  | some client =>
    client.send ⟨(request.bytes d).toArray⟩
    return Reply.ofBytes? (← receiveAll client).toList

def longestWait : Nat := 4294967295

def waiting (milliseconds : Nat) : Async Unit := sleep (.ofNat (min milliseconds longestWait))

/-- A reply that comes too late is none. -/
def exchange : Network IO := fun request => do
  let reply ← try
      match Destination.ofUrl? request.url with
      | none => pure none
      | some d =>
        Async.block (Async.race (converse request d)
          (do waiting (1000 * request.timeoutSecs); return none))
    catch _ => pure none
  match reply with
  | some reply => return .ok reply
  | none => return .error (.unanswered request.url)

/-- Waits until the next tick is due, or until the program is interrupted. `began` holds when the
last tick began. -/
def waitSince (began : IO.Ref Nat) (interrupt : Signal.Waiter) (seconds : Nat) : IO Bool := do
  let stop ← interrupt.wait
  let due := (← began.get) + 1000 * seconds
  let alarm ← (waiting (due - (← IO.monoMsNow))).toIO
  let goesOn ← IO.waitAny [stop.map fun _ => false, alarm.map fun _ => true]
  began.set (max due (← IO.monoMsNow))
  IO.ofExcept goesOn

def systemHost (began : IO.Ref Nat) (interrupt : Signal.Waiter) : Host IO where
  disk := systemDisk
  network := exchange
  variableOf := fun name => IO.getEnv name
  print := fun line => IO.println line
  display e := IO.eprintln ("[" ++ e.level.name ++ " " ++ e.target ++ "] " ++ e.text)
  pause := waitSince began interrupt

def explain : Exit → IO Unit
  | .misuse e => do
    IO.eprintln e.text
    IO.eprintln "\nFor more information, try '--help'."
  | .failure e => IO.eprintln ("Error: " ++ e.message)
  | _ => pure ()

end PageWatch.CommandLine

def main (arguments : List String) : IO UInt32 := do
  let began ← IO.mkRef (← IO.monoMsNow)
  let interrupt ← Std.Async.Signal.Waiter.mk .sigint false
  let exit ← PageWatch.CommandLine.run (PageWatch.CommandLine.systemHost began interrupt) arguments
  PageWatch.CommandLine.explain exit
  return exit.code.toUInt32
