import EcpAgreement.Curve.Group

/-!
# Random scalars

What a drawing operation needs from a source: asked for `n` octets, it answers
with `n` octets or refuses, and goes on in a new state. A source is a value, so
a computation that draws from it gives the advanced source back. `Script` is the
source that reads from a prepared string, and counts the requests made of it.

A scalar is drawn by rejection. Each attempt asks the source for the octets of
the order, clears the bits above the order's own, and keeps the result if it
writes a scalar. All scalars are equally likely when all strings are: each is
reached by one string for every setting of the cleared bits. The attempts are
bounded, so that a source that never gives a scalar does not hold the caller
forever.
-/

namespace EcpAgreement

/-- States of a source that answers each request in full or refuses it. -/
class RandomSource (σ : Type) where
  /-- Asks for `n` octets. -/
  draw : σ → (n : Nat) → Option { s : Octets // s.length = n } × σ

/-- A source with prepared octets. -/
structure Script where
  /-- The octets not yet drawn. -/
  remaining : Octets
  /-- What follows them without end; nothing, when requests are to fail then. -/
  filler : Option UInt8
  /-- The requests so far, the refused ones included. -/
  requests : Nat

namespace Script

def ofOctets (octets : Octets) (filler : Option UInt8) : Script where
  remaining := octets
  filler := filler
  requests := 0

/-- Takes octets off the front. A request beyond the end uses up what is left;
it is answered only if a filler makes up the rest. -/
def draw (script : Script) (n : Nat) : Option { s : Octets // s.length = n } × Script :=
  let next : Script :=
    { remaining := script.remaining.drop n
      filler := script.filler
      requests := script.requests + 1 }
  if h : n ≤ script.remaining.length then
    (some ⟨script.remaining.take n, List.length_take_of_le h⟩, next)
  else
    match script.filler with
    | some o =>
        (some ⟨script.remaining ++ List.replicate (n - script.remaining.length) o, by
          rw [List.length_append, List.length_replicate]
          omega⟩, next)
    | none => (none, next)

instance : RandomSource Script where
  draw := draw

end Script

/-! ## Drawing a scalar -/

/-- The attempts after which drawing is given up. -/
def maxScalarAttempts : Nat := 128

namespace CurveGroup

/-- The bits of a scalar's first octet that lie above the order. -/
def excessBits (group : CurveGroup) : Fin 8 :=
  ⟨8 * group.orderLength - group.orderBits, Octets.excess_lt _⟩

/-- The scalar that a drawn string stands for, if its bits below the order's
length write one. -/
def scalarOfDraw (group : CurveGroup) (s : Octets) : Except CurveError Scalar :=
  group.scalar (s.clearTop group.excessBits)

/-- Draws a scalar in at most the given number of attempts. -/
def randomScalarWithin {σ : Type} [RandomSource σ] (group : CurveGroup) :
    Nat → σ → Except CurveError Scalar × σ
  | 0, source =>
      (.error (.randomGeneration "scalar generation exhausted its attempts"), source)
  | attempts + 1, source =>
      match RandomSource.draw source group.orderLength with
      | (none, source) => (.error (.randomGeneration "scalar generation"), source)
      | (some s, source) =>
          match group.scalarOfDraw s.val with
          | .ok k => (.ok k, source)
          | .error _ => group.randomScalarWithin attempts source

def randomScalar {σ : Type} [RandomSource σ] (group : CurveGroup) (source : σ) :
    Except CurveError Scalar × σ :=
  group.randomScalarWithin maxScalarAttempts source

end CurveGroup

end EcpAgreement
