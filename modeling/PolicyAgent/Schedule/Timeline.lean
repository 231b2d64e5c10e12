import PolicyAgent.Decimal.Binary64

/-!
# Time

The schedule needs little of time: sums and differences, an order, whole multiples of an
interval, how many intervals fit into a stretch of time, and where a wait ends. Floating-point
numbers of seconds are one such time, in which every operation rounds.
-/
namespace PolicyAgent.Schedule

inductive CountError
  | nan
  | infinite
  deriving DecidableEq, Repr

def CountError.message : CountError → String
  | .nan => "cannot convert float NaN to integer"
  | .infinite => "cannot convert float infinity to integer"

class Timeline (T : Type) where
  plus : T → T → T
  minus : T → T → T
  atMost : T → T → Bool
  isBefore : T → T → Bool
  times : Int → T → T
  /-- The number of whole intervals in a stretch of time. -/
  count : (stretch interval : T) → Except CountError Int
  /-- The time when a wait for a deadline is over. -/
  arrive : (now deadline : T) → T

/-- The exact remainder of a stretch of time after whole intervals. -/
def floatRemainder (stretch interval : Float) : Float :=
  match Decimal.Binary64.ofFloat stretch, Decimal.Binary64.ofFloat interval with
  | .finite .., .infinite _ => stretch
  | x, y => ((Decimal.Binary64.remainder? x y).getD (0.0 / 0.0))

/-- The whole number next to a quotient of which all but the rounding is whole. -/
def wholeOfFloat (x : Float) : Except CountError Int :=
  match Decimal.Binary64.ofFloat x with
  | .nan => .error .nan
  | .infinite _ => .error .infinite
  | .finite negative mantissa exponent =>
    let magnitude := Decimal.Binary64.scale mantissa exponent
    let exact := if negative then -magnitude else magnitude
    .ok (if 1 / 2 < exact - exact.floor then exact.floor + 1 else exact.floor)

def countFloat (stretch interval : Float) : Except CountError Int :=
  wholeOfFloat ((stretch - floatRemainder stretch interval) / interval)

/-- Waits that end this close to their beginning take no time. -/
def clockResolution : Float := 1e-9

def arriveFloat (now deadline : Float) : Float :=
  if now < deadline then
    let arrival := now + (deadline - now)
    if arrival < now + clockResolution then now else arrival
  else now

instance : Timeline Float where
  plus := (· + ·)
  minus := (· - ·)
  atMost a b := decide (a ≤ b)
  isBefore a b := decide (a < b)
  times n x := Float.ofInt n * x
  count := countFloat
  arrive := arriveFloat

end PolicyAgent.Schedule
