import SignerLink.State.Basic
/-!
Output for people: aligned pairs, tables in boxes, and coloured states.
-/

namespace SignerLink

namespace Cli

def padded (width : Nat) (text : String) : String :=
  text ++ String.ofList (List.replicate (width - text.length) ' ')

def widest (texts : List String) : Nat := (texts.map String.length).foldl max 0

def pairLines (pairs : List (String × String)) : String :=
  let width := widest (pairs.map Prod.fst)
  String.intercalate "\n" (pairs.map fun (key, value) => padded width key ++ "  " ++ value)

/-! Tables. -/

def boxLine (left between right : String) (widths : List Nat) : String :=
  let runs := widths.map fun width => String.ofList (List.replicate (width + 2) '─')
  left ++ String.intercalate between runs ++ right

def boxRow (widths : List Nat) (cells : List String) : String :=
  let filled := (widths.zip cells).map fun (width, cell) => " " ++ padded width cell ++ " "
  "│" ++ String.intercalate "│" filled ++ "│"

def box (head : List String) (rows : List (List String)) : String :=
  let widths := head.mapIdx fun column title =>
    widest (title :: rows.filterMap fun row => row[column]?)
  String.intercalate "\n"
    ([boxLine "╭" "┬" "╮" widths, boxRow widths head, boxLine "├" "┼" "┤" widths]
      ++ rows.map (boxRow widths) ++ [boxLine "╰" "┴" "╯" widths])

/-! Colours. -/

def between (start finish : String) (text : String) : String :=
  "\x1b[" ++ start ++ "m" ++ text ++ "\x1b[" ++ finish ++ "m"

/-- The text of a state: green when connected, yellow on the way there or while the user has
something to do, red after a failure, and dimmed when disconnected. -/
def stateLabel (color : Bool) (state : ConnectionState) : String :=
  if color then
    match state with
    | .ready | .connected => between "32" "39" state.text
    | .connecting | .awaitingConfirmation | .awaitingApp _ _ => between "33" "39" state.text
    | .failed _ _ => between "31" "39" state.text
    | .disconnected => between "2" "0" state.text
  else state.text

end Cli

end SignerLink
