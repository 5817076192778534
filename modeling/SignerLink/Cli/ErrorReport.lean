import SignerLink.Cli.Layout
import SignerLink.State.Event
import SignerLink.State.Json
/-!
What is told about a classified failure, and about what it means for a session.
-/

namespace SignerLink

namespace Cli

structure ErrorReport where
  error : WalletError
  deriving DecidableEq, Repr

namespace ErrorReport

def state (report : ErrorReport) : ConnectionState := .ofError report.error

def notice (report : ErrorReport) : NoticeKind := .ofCode report.error.code

def document (report : ErrorReport) : Json :=
  .object [("error", report.error.document), ("kind", .string report.error.code.kind.name),
    ("retryable", .bool report.error.code.isRetryable),
    ("userRejection", .bool report.error.isUserRejection),
    ("connectionState", report.state.document), ("deviceEvent", .string report.notice.name)]

def yesNo (value : Bool) : String := if value then "yes" else "no"

def lines (color : Bool) (report : ErrorReport) : String :=
  let error := report.error
  let always : List (String × String) :=
    [("code", error.code.name), ("kind", error.code.kind.name), ("message", error.message),
      ("user message", error.userMessage), ("severity", error.severity.name),
      ("category", error.category.name), ("retry", error.retryStrategy.name),
      ("actionable", yesNo error.userActionable), ("retryable", yesNo error.code.isRetryable),
      ("state", stateLabel color report.state), ("device event", report.notice.name)]
  pairLines
    (always ++ error.context.wallet.toList.map (fun wallet => ("wallet", wallet.displayName))
      ++ error.cause.toList.map fun cause => ("cause", cause))

end ErrorReport

end Cli

end SignerLink
