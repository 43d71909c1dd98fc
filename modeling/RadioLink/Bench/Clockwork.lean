/-!
Runs something that reacts to what is ready and otherwise waits for the clock. Time passes only
when nothing is ready.
-/

set_option autoImplicit false

namespace RadioLink.Bench

structure Clockwork (σ : Type) where
  /-- One reaction to something that is ready, if anything is. -/
  react? : σ → Option σ
  now : σ → Nat
  /-- When something becomes ready by itself, if anything does. -/
  nextDue? : σ → Option Nat
  setClock : σ → Nat → σ

namespace Clockwork

variable {σ : Type}

/-- How many reactions and ticks are waited for. -/
def patience : Nat := 10000000

/-- Runs until something holds and nothing is ready, or until a time has come and nothing is
ready. -/
def runFor (c : Clockwork σ) (holds : σ → Bool) (deadline : Nat) : Nat → σ → σ
  | 0, s => s
  | fuel + 1, s =>
    match c.react? s with
    | some s => c.runFor holds deadline fuel s
    | none =>
      if holds s then s
      else
        let due := max (((c.nextDue? s).getD deadline)) (c.now s)
        if due ≤ deadline && (c.nextDue? s).isSome then
          c.runFor holds deadline fuel (c.setClock s due)
        else if c.now s < deadline then c.runFor holds deadline fuel (c.setClock s deadline)
        else s

/-- Runs until something holds, or for so many milliseconds. -/
def waitFor (c : Clockwork σ) (holds : σ → Bool) (millis : Nat) (s : σ) : σ :=
  c.runFor holds (c.now s + millis) patience s

/-- Runs until nothing is ready, without letting time pass. -/
def settle (c : Clockwork σ) (s : σ) : σ :=
  c.waitFor (fun _ => false) 0 s

def advance (c : Clockwork σ) (millis : Nat) (s : σ) : σ :=
  c.waitFor (fun _ => false) millis s

end Clockwork

end RadioLink.Bench
