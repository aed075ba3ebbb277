import LintRunner.Run

/-!
# Diagnostics one by one

A cursor stands between two diagnostics of a run. `Setup.next` moves it on by one diagnostic and runs
no more adapters than that takes; nothing at all is done before the first move. `Setup.drain` moves
it on to the end.
-/

set_option autoImplicit false

namespace LintRunner

/-- Where the reading of diagnostics stands. -/
inductive Cursor where
  | start (language : String) (target : Option String)
  | reading (target : Option String) (pending : List Diagnostic) (rest : List Adapter)
  | closed
  deriving DecidableEq

/-- One move of a cursor: what it did, the diagnostic that it passed, if there was one, and where it
stands now. -/
structure Move where
  events : List Event
  item : Except Failure (Option Diagnostic)
  cursor : Cursor

/-- The next of the pending diagnostics, or of those that the remaining adapters give. -/
def Setup.nextFrom (setup : Setup) (target : Option String) :
    List (List String) → List Diagnostic → List Adapter → Move
  | _, d :: pending, rest =>
      { events := [], item := .ok (some d), cursor := .reading target pending rest }
  | _, [], [] => { events := [], item := .ok none, cursor := .closed }
  | history, [], adapter :: rest =>
      let attempt := setup.attempt target history adapter
      match attempt.result with
      | .error failure =>
          { events := attempt.events, item := .error failure, cursor := .closed }
      | .ok outcome =>
          let move := setup.nextFrom target (history ++ Event.calls attempt.events)
            outcome.diagnostics rest
          { move with events := attempt.events ++ move.events }

/-- Moves a cursor on by one diagnostic. A cursor that has come to the end or has met a failure stays
at the end. -/
def Setup.next (setup : Setup) (history : List (List String)) : Cursor → Move
  | .closed => { events := [], item := .ok none, cursor := .closed }
  | .reading target pending rest => setup.nextFrom target history pending rest
  | .start language target =>
      match setup.registry.adaptersFor language with
      | .error failure => { events := [], item := .error failure, cursor := .closed }
      | .ok adapters => setup.nextFrom target history [] adapters

/-! ## Several moves -/

inductive Ending where
  /-- As many diagnostics were passed as were asked for. -/
  | more
  | atEnd
  | failed (failure : Failure)
  deriving DecidableEq

structure Passage where
  events : List Event
  items : List Diagnostic
  ending : Ending
  cursor : Cursor

/-- Moves a cursor on by a number of diagnostics, or up to the end or a failure. -/
def Setup.take (setup : Setup) : Nat → List (List String) → Cursor → Passage
  | 0, _, cursor => { events := [], items := [], ending := .more, cursor }
  | n + 1, history, cursor =>
      let move := setup.next history cursor
      match move.item with
      | .error failure =>
          { events := move.events, items := [], ending := .failed failure, cursor := move.cursor }
      | .ok none =>
          { events := move.events, items := [], ending := .atEnd, cursor := move.cursor }
      | .ok (some d) =>
          let later := setup.take n (history ++ Event.calls move.events) move.cursor
          { later with events := move.events ++ later.events, items := d :: later.items }

/-! ## All moves -/

namespace Cursor

/-- One for a cursor that has not been moved. -/
def unmoved : Cursor → Nat
  | start .. => 1
  | _ => 0

def adapterCount : Cursor → Nat
  | reading _ _ rest => rest.length
  | _ => 0

def pendingCount : Cursor → Nat
  | reading _ pending _ => pending.length
  | _ => 0

/-- A cursor is behind another one if less lies ahead of it: adapters count more than pending
diagnostics, and a cursor that has not been moved has everything ahead. -/
def Behind (a b : Cursor) : Prop :=
  a.unmoved < b.unmoved ∨ a.unmoved = b.unmoved ∧
    (a.adapterCount < b.adapterCount ∨
      a.adapterCount = b.adapterCount ∧ a.pendingCount < b.pendingCount)

end Cursor

/-- A move that passes a diagnostic leaves fewer adapters or fewer pending diagnostics. -/
theorem Setup.nextFrom_behind (setup : Setup) (target : Option String) (d : Diagnostic)
    (rest : List Adapter) :
    ∀ (history : List (List String)) (pending : List Diagnostic),
      (setup.nextFrom target history pending rest).item = .ok (some d) →
      (setup.nextFrom target history pending rest).cursor.Behind (.reading target pending rest) := by
  induction rest with
  | nil =>
      intro history pending h
      cases pending with
      | nil => simp [nextFrom] at h
      | cons first pending => simp [nextFrom, Cursor.Behind, Cursor.unmoved, Cursor.adapterCount,
          Cursor.pendingCount]
  | cons adapter rest ih =>
      intro history pending h
      cases pending with
      | cons first pending => simp [nextFrom, Cursor.Behind, Cursor.unmoved, Cursor.adapterCount,
          Cursor.pendingCount]
      | nil =>
          rw [nextFrom] at h ⊢
          cases hr : (setup.attempt target history adapter).result with
          | error failure => simp [hr] at h
          | ok outcome =>
              simp only [hr] at h ⊢
              have later := ih _ _ h
              simp only [Cursor.Behind, Cursor.unmoved, Cursor.adapterCount, Cursor.pendingCount,
                List.length_cons] at later ⊢
              omega

/-- A move that passes a diagnostic leaves less ahead. -/
theorem Setup.next_behind (setup : Setup) (history : List (List String)) (cursor : Cursor)
    (d : Diagnostic) (h : (setup.next history cursor).item = .ok (some d)) :
    (setup.next history cursor).cursor.Behind cursor := by
  cases cursor with
  | closed => simp [next] at h
  | reading target pending rest => exact setup.nextFrom_behind target d rest history pending h
  | start language target =>
      rw [next] at h ⊢
      cases ha : setup.registry.adaptersFor language with
      | error failure => simp [ha] at h
      | ok adapters =>
          simp only [ha] at h ⊢
          have later := setup.nextFrom_behind target d adapters history [] h
          simp only [Cursor.Behind, Cursor.unmoved] at later ⊢
          omega

/-- What is left of a run after a cursor: its diagnostics, and the failure that ends it. -/
structure Remainder where
  events : List Event
  items : List Diagnostic
  failure : Option Failure

/-- Moves a cursor on to the end or to a failure. -/
def Setup.drain (setup : Setup) (history : List (List String)) (cursor : Cursor) : Remainder :=
  let move := setup.next history cursor
  match _h : move.item with
  | .error failure => { events := move.events, items := [], failure := some failure }
  | .ok none => { events := move.events, items := [], failure := none }
  | .ok (some d) =>
      let later := setup.drain (history ++ Event.calls move.events) move.cursor
      { later with events := move.events ++ later.events, items := d :: later.items }
  termination_by (cursor.unmoved, cursor.adapterCount, cursor.pendingCount)
  decreasing_by
    have smaller := setup.next_behind history cursor d _h
    simp only [Prod.lex_def]
    exact smaller

/-! ## Views -/

def Remainder.diagnostics (remainder : Remainder) : Except Failure (List Diagnostic) :=
  match remainder.failure with
  | some failure => .error failure
  | none => .ok remainder.items

def Setup.lint (setup : Setup) (history : List (List String)) (language : String)
    (target : Option String) : Remainder :=
  setup.drain history (.start language target)

end LintRunner
