import LintRunner.Listing
import LintRunner.Run.Cursor

/-!
# Diagnostics line by line

A stream gives every diagnostic out as a line as soon as it is passed, and counts the lines. What has
been given out stays given out if the run fails later.
-/

set_option autoImplicit false

namespace LintRunner

/-- What a stream did: the lines that it gave out, and how many there were or the failure that ended
it. -/
structure Streamed where
  events : List Event
  lines : List String
  count : Except Failure Nat

/-- Gives out the diagnostics ahead of a cursor, after some lines have been given out. -/
def Setup.streamFrom (setup : Setup) (count : Nat) (history : List (List String))
    (cursor : Cursor) : Streamed :=
  let move := setup.next history cursor
  match _h : move.item with
  | .error failure => { events := move.events, lines := [], count := .error failure }
  | .ok none => { events := move.events, lines := [], count := .ok count }
  | .ok (some d) =>
      match d.writeLine with
      | .error failure => { events := move.events, lines := [], count := .error failure }
      | .ok line =>
          let later :=
            setup.streamFrom (count + 1) (history ++ Event.calls move.events) move.cursor
          { later with events := move.events ++ later.events, lines := line :: later.lines }
  termination_by (cursor.unmoved, cursor.adapterCount, cursor.pendingCount)
  decreasing_by
    have smaller := setup.next_behind history cursor d _h
    simp only [Prod.lex_def]
    exact smaller

def Setup.stream (setup : Setup) (history : List (List String)) (language : String)
    (target : Option String) : Streamed :=
  setup.streamFrom 0 history (.start language target)

end LintRunner
