import SignerLink.Provider.AutoConnect
/-!
What callers ask of a provider: how a request begins, and how every kind of waiting call goes
on.
-/

namespace SignerLink

namespace Provider

variable {Bench : Type} [AdapterBench Bench]

/-- Where an attempt gets its device from; the host is asked for it unless one is given. -/
def target (provider : Provider Bench) (wallet : Wallet) (deviceId : Option String) :
    Provider Bench × Target :=
  match deviceId with
  | some id => (provider, .device id)
  | none =>
      let (host, awaited) := provider.host.inquire wallet
      (provider.setHost host, .search (awaited.answer.deviceId wallet) awaited.delay)

def connect (provider : Provider Bench) (wallet : Wallet) (deviceId : Option String) :
    Provider Bench × Step :=
  if provider.isCancelled then (provider, .finished (.attempt .aborted))
  else
    let (provider, target) := provider.target wallet deviceId
    let (connection, progress) := provider.connection.connect wallet target
    (provider.setConnection connection, progress.map .attempt .attempt)

def makeReady (provider : Provider Bench) (wallet : Wallet) (wanted : Option String) :
    Provider Bench × Step :=
  match provider.connection.readiness wallet wanted with
  | .refused => (provider, .finished (.answered false))
  | .held token deviceId adapter =>
      let (connection, progress) := provider.connection.verify token wallet deviceId adapter
      (provider.setConnection connection, progress.map .readiness .answered)
  | .wanting deviceId =>
      let (provider, target) := provider.target wallet deviceId
      let (connection, progress) := provider.connection.connectReady wallet target
      (provider.setConnection connection, progress.map .readiness .answered)

def retry (provider : Provider Bench) : Provider Bench × Step :=
  match provider.connection.session.wallet with
  | none => (provider, .finished (.answered false))
  | some wallet => provider.makeReady wallet provider.connection.session.deviceId

def disconnect (provider : Provider Bench) : Provider Bench × Step :=
  let (connection, progress) := provider.connection.disconnect
  (provider.setConnection connection, progress.map .disconnect fun _ => .done)

def operate (provider : Provider Bench) (operation : Operation) : Provider Bench × Step :=
  let (connection, progress) := provider.connection.operate operation
  (provider.setConnection connection, progress.map .operation .operation)

/-! Permission. -/

def permissionAnswered (provider : Provider Bench) (call : PermissionCall) (reply : Reply)
    (selection : Option (Channel × Device)) : Provider Bench × Step :=
  let provider := provider.setHost (provider.host.deliver selection)
  (provider.setPermission (provider.permission.commit call), .finished reply)

def checkPermission (provider : Provider Bench) (wallet : Wallet) : Provider Bench × Step :=
  let (provider, call, delay) := provider.beginCheck wallet
  let reply : Reply := .permission call.permission
  if delay = 0 then provider.permissionAnswered call reply none
  else (provider, .waiting (.permission call reply none) delay)

def requestPermission (provider : Provider Bench) (wallet : Wallet) : Provider Bench × Step :=
  let (host, awaited) := provider.host.request wallet
  let granted := awaited.answer.isGrant wallet
  let (permission, call) := provider.permission.begin (.ofGrant granted)
  let provider := (provider.setHost host).setPermission permission
  let reply : Reply := .answered granted
  if awaited.delay = 0 then provider.permissionAnswered call reply awaited.selection
  else (provider, .waiting (.permission call reply awaited.selection) awaited.delay)

/-! Questions to the host alone. -/

def hostReply (provider : Provider Bench) (question : HostQuestion) :
    Provider Bench × MemoryHost.Awaited Reply :=
  let host := provider.host
  let inquire (wallet : Wallet) (judge : Inquiry → Reply) :
      Provider Bench × MemoryHost.Awaited Reply :=
    let (host, awaited) := host.inquire wallet
    (provider.setHost host, awaited.map judge)
  match question with
  | .paired channel =>
      let (host, awaited) := host.enumerate channel
      (provider.setHost host, awaited.map .devices)
  | .choose channel =>
      let (host, awaited) := host.choose channel
      (provider.setHost host, awaited.map .devices)
  | .request wallet =>
      let (host, awaited) := host.request wallet
      (provider.setHost host, awaited.map fun answer => .answered (answer.isGrant wallet))
  | .discover wallet => inquire wallet fun answer => .found (answer.deviceId wallet)
  | .matching wallet => inquire wallet fun answer => .devices (.ok (answer.matching wallet))
  | .isAttached wallet deviceId =>
      inquire wallet fun answer => .answered (answer.isAttached wallet deviceId)
  | .check wallet => inquire wallet fun answer => .permission (answer.permission wallet)

def hostAnswered (provider : Provider Bench) (reply : Reply)
    (selection : Option (Channel × Device)) : Provider Bench × Step :=
  (provider.setHost (provider.host.deliver selection), .finished reply)

def askHost (provider : Provider Bench) (question : HostQuestion) : Provider Bench × Step :=
  let (provider, awaited) := provider.hostReply question
  if awaited.delay = 0 then provider.hostAnswered awaited.answer awaited.selection
  else (provider, .waiting (.host awaited.answer awaited.selection) awaited.delay)

/-! Waiting and ending. -/

def join (provider : Provider Bench) (strands : List StrandId) (reply : Reply) :
    Provider Bench × Step :=
  if strands.any provider.isAlive then (provider, .waiting (.joining strands reply) 0)
  else (provider, .finished reply)

def ownStrands (provider : Provider Bench) : List StrandId :=
  (provider.strands.filter fun strand => strand.duty.isOwn).map Strand.id

/-- Ends the session and waits for all work that it has begun by itself. -/
def shutdown (provider : Provider Bench) : Provider Bench × Step :=
  if provider.isCancelled then (provider, .finished .done)
  else
    let provider := provider.cancel.stopListening
    let provider := provider.setConnection provider.connection.teardown
    provider.join provider.ownStrands .done

def sleep (provider : Provider Bench) (milliseconds : Nat) : Provider Bench × Step :=
  if milliseconds = 0 then (provider, .finished .done)
  else (provider, .waiting (.host .done none) milliseconds)

/-! Requests and calls. -/

def begin (provider : Provider Bench) (request : Request) : Provider Bench × Step :=
  match request with
  | .connect wallet deviceId => provider.connect wallet deviceId
  | .disconnect => provider.disconnect
  | .retry => provider.retry
  | .operate operation => provider.operate operation
  | .selectAccount account => provider.selectAccount account
  | .plugEvent event => provider.plugEvent event
  | .shutdown => provider.shutdown
  | .askHost question => provider.askHost question
  | .sleep milliseconds => provider.sleep milliseconds
  | .join strands => provider.join strands (.answered true)
  | .makeReady wallet deviceId =>
      match wallet <|> provider.wallet? with
      | none => (provider, .finished (.answered true))
      | some wallet => provider.makeReady wallet deviceId
  | .checkPermission wallet =>
      match wallet <|> provider.wallet? with
      | none => (provider, .finished (.permission .denied))
      | some wallet => provider.checkPermission wallet
  | .requestPermission wallet =>
      match wallet <|> provider.wallet? with
      | none => (provider, .finished (.answered false))
      | some wallet => provider.requestPermission wallet

def resume (provider : Provider Bench) (call : Call) : Provider Bench × Step :=
  match call with
  | .attempt call =>
      let (connection, progress) := provider.connection.resumeAttempt call
      (provider.setConnection connection, progress.map .attempt .attempt)
  | .readiness call =>
      let (connection, progress) := provider.connection.resumeReadiness call
      (provider.setConnection connection, progress.map .readiness .answered)
  | .disconnect call =>
      let (connection, progress) := provider.connection.resumeDisconnect call
      (provider.setConnection connection, progress.map .disconnect fun _ => .done)
  | .operation call =>
      let (connection, progress) := provider.connection.resumeOperation call
      (provider.setConnection connection, progress.map .operation .operation)
  | .permission call reply selection => provider.permissionAnswered call reply selection
  | .accountCheck epoch call => provider.accountChecked epoch call
  | .attachCheck epoch deviceId call => provider.attachChecked epoch deviceId call
  | .search epoch found => provider.searched epoch found
  | .autoConnect epoch account trigger call =>
      let (connection, progress) := provider.connection.resumeAttempt call
      (provider.setConnection connection).followAttempt epoch account trigger progress
  | .host reply selection => provider.hostAnswered reply selection
  | .joining strands reply => provider.join strands reply

end Provider

end SignerLink
