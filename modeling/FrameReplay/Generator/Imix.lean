import FrameReplay.Generator.Config

/-!
# Schedules of mixed sizes

A mix is spread over its schedule by smooth weighted round-robin. Every active pattern has a lane
with a credit, which begins at zero. In each round every credit grows by the weight of its lane, the
lane with the greatest credit is picked, the first one if there are several, and the picked lane
pays the total weight.
-/

namespace FrameReplay.Imix

/-- An active pattern with its credit. -/
structure Lane where
  size : UInt16
  weight : Nat
  /-- What the lane may still spend.  In the rounds of a mix that is in order it never comes near
  the ends of a signed word of 64 bits. -/
  credit : Int
  deriving DecidableEq, Repr, Inhabited

/-- A lane for every pattern with a weight. -/
def lanes (imix : ImixConfig) : List Lane :=
  (imix.patterns.filter (·.weight ≠ 0)).map fun p => ⟨p.size, p.weight.toNat, 0⟩

/-- What all lanes earn in a round, added up in a signed word of 64 bits and not checked. -/
def income (lanes : List Lane) : Int64 :=
  lanes.foldl (fun total lane => total + Int64.ofNat lane.weight) 0

/-- Every credit grows by the weight of its lane. -/
def earn (lanes : List Lane) : List Lane :=
  lanes.map fun lane => { lane with credit := lane.credit + lane.weight }

/-- Place of the first lane with the greatest credit. -/
def leader (lanes : List Lane) : Nat :=
  let top := (lanes.map Lane.credit).max?.getD 0
  lanes.findIdx (·.credit == top)

/-- The lane at a place pays `total`. -/
def pay (total : Nat) (place : Nat) (lanes : List Lane) : List Lane :=
  lanes.modify place fun lane => { lane with credit := lane.credit - total }

/-- One round: the place of the picked lane, and the lanes afterwards. -/
def round (total : Nat) (lanes : List Lane) : Nat × List Lane :=
  let earned := earn lanes
  let place := leader earned
  (place, pay total place earned)

/-- The picks of `n` rounds in order, and the lanes afterwards. -/
def rounds (total : Nat) : Nat → List Lane → List Nat × List Lane
  | 0, lanes => ([], lanes)
  | n + 1, lanes =>
    let (place, next) := round total lanes
    let (picks, last) := rounds total n next
    (place :: picks, last)

/-- The picks of a whole schedule, as many as the lanes earn in a round, and the lanes
afterwards. -/
def cycle (imix : ImixConfig) : List Nat × List Lane :=
  let total := (income (lanes imix)).toNatClampNeg
  rounds total total (lanes imix)

/-- Frame size of the lane at a place. -/
def sizeAt (lanes : List Lane) (place : Nat) : UInt16 := (lanes[place]?.getD default).size

/-- Frame sizes in order of sending, as many as the total weight of the mix says. -/
def schedule (imix : ImixConfig) : Except ConfigError (List UInt16) := do
  imix.validate
  return (cycle imix).1.map (sizeAt (lanes imix))

end FrameReplay.Imix
