import Pop3.Transport
import Pop3.Rust.Simulation

/-!
# A connection as the protocol sees it

The abstract connection: the state of the server, the bytes it has sent that
have not been consumed, and what has been noted of the dialogue.  There is no
buffer and no schedule; the faithful transport shows such a view, and does what
the view does unless a deadline or a loss intervenes.
-/

namespace Pop3

open Rust Transport

/-- The events of the dialogue itself. -/
def Event.isNoted : Event → Bool
  | .answered _ _ | .timedOut _ => true
  | .wrote _ _ | .consumed _ => false

/-- A connection, as the protocol sees it. -/
structure View (σ : Type) where
  server : σ
  pending : List UInt8 := []
  isOpen : Bool := true
  isClosed : Bool := false
  log : List Event := []

namespace View

/-- The server hears one command line and reacts. -/
def hear [Server σ] (command : Str) (view : View σ) : View σ :=
  if view.isOpen then
    let (server, reaction) := Server.respond view.server (utf8 command)
    { view with
      server
      pending := view.pending ++ reaction.bytes
      isOpen := !reaction.close
      log := view.log ++ [.answered (utf8 command) reaction.bytes] }
  else view

/-- The server hears several command lines. -/
def hearAll [Server σ] (commands : List Str) (view : View σ) : View σ :=
  commands.foldl (fun view command => view.hear command) view

/-- The next line of the pending bytes. -/
def nextLine (isOpen : Bool) (pending : List UInt8) : LineRead × List UInt8 :=
  match splitFeed pending with
  | some (line, rest) => (.line line, rest)
  | none => if isOpen then (.timedOut pending, []) else (.line pending, [])

/-- Consume one line. -/
def readLine : Action Pop3Error (View σ) Str := fun view =>
  match nextLine view.isOpen view.pending with
  | (.timedOut lost, rest) => .error .timeout
      { view with pending := rest, log := view.log ++ [.timedOut lost] }
  | (.failed error, rest) => .error (.io error) { view with pending := rest }
  | (.line bytes, rest) =>
      let after := { view with pending := rest }
      match fromUtf8 bytes with
      | none => .error (.io invalidUtf8) after
      | some line =>
          if bytes.length = 0 then
            .error .connectionClosed { after with isClosed := true }
          else .ok line after

/-- Consume the lines of a body, at most `rounds` of them. -/
def readMultilineUpTo : Nat → Str → Action Pop3Error (View σ) Str
  | 0, _ => throw .connectionClosed
  | rounds + 1, body => do
      let line ← readLine
      let trimmed := trimLine line
      if trimmed = ".".toList then return body
      else readMultilineUpTo rounds (body ++ unstuff trimmed ++ "\n".toList)

/-- Consume a body. -/
def readMultiline : Action Pop3Error (View σ) Str := fun view =>
  readMultilineUpTo (view.pending.length + 1) [] view

end View

end Pop3
