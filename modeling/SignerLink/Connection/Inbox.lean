import SignerLink.Connection.Basic
/-!
Notices from adapters. Those of a superseded attempt are dropped.
-/

namespace SignerLink

namespace Connection

variable {Bench : Type}

def handleNotice (connection : Connection Bench) (token : Token) (notice : Notice) :
    Connection Bench :=
  if connection.cancelled || connection.session.token ≠ some token then connection
  else
    let connection :=
      if notice.kind = .appChanged then
        connection.setSession { connection.session with appName := notice.app }
      else connection
    connection.publish (.ofNotice notice connection.session.wallet)

def pump (connection : Connection Bench) : Connection Bench :=
  match connection.inbox with
  | [] => connection
  | signal :: rest =>
      ({ connection with inbox := rest }).handleNotice signal.token signal.notice

def onBench (connection : Connection Bench) (change : Bench → Bench × List Signal) :
    Connection Bench :=
  let (bench, signals) := change connection.bench
  ({ connection with bench := bench }).deliver signals

def closeInbox (connection : Connection Bench) : Connection Bench :=
  { connection with inbox := [], inboxOpen := false }

end Connection

end SignerLink
