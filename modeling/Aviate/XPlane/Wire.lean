import Aviate.Core.Types
import Aviate.Foundations.Machine

/-!
# The wire constraints of the X-Plane board

What the board enforces on a command between the mixer and the bridge
(`sitl-xplane/src/board/wire.rs`), and the validation of its limits (`xplane_model.rs`). The
collective mean is limited by shifting every lane, a lane ceiling by scaling the deviations from
the mean, and on the ground the deviations are scaled once more.
-/

namespace Aviate.XPlane

variable {F : Type}

/-! ## Limits -/

structure XPlaneWireModel (F : Type) where
  risePerS : F
  bandBoundary : F
  lowBandRisePerS : F
  fallPerS : F
  meanCeiling : F
  laneCeiling : F
  airborneClearanceM : F
  groundSqueeze : F
  maxSampleDtS : F

inductive XPlaneModelError where
  | fieldOutOfRange (field : String)
  | invalidRelation (relation : String)
deriving DecidableEq, Repr

variable [Scalar F]

def bounded (field : String) (value lower upper : F) : Except XPlaneModelError Unit :=
  if !Scalar.isFinite value || !(Scalar.le lower value && Scalar.le value upper) then
    .error (.fieldOutOfRange field)
  else .ok ()

def XPlaneWireModel.validate (m : XPlaneWireModel F) : Except XPlaneModelError Unit := do
  bounded "wire.rise_per_s" m.risePerS (lit (1 / 1000)) (lit 5)
  bounded "wire.band_boundary" m.bandBoundary (lit 0) (lit 1)
  bounded "wire.low_band_rise_per_s" m.lowBandRisePerS (lit (1 / 1000)) (lit 5)
  bounded "wire.fall_per_s" m.fallPerS (lit (1 / 1000)) (lit 10)
  bounded "wire.mean_ceiling" m.meanCeiling (lit (1 / 20)) (lit 1)
  bounded "wire.lane_ceiling" m.laneCeiling (lit (1 / 20)) (lit 1)
  bounded "wire.airborne_clearance_m" m.airborneClearanceM (lit 0) (lit 100)
  bounded "wire.ground_squeeze" m.groundSqueeze (lit 0) (lit 1)
  bounded "wire.max_sample_dt_s" m.maxSampleDtS (lit (1 / 1000)) (lit (1 / 2))
  if Scalar.lt m.lowBandRisePerS m.risePerS then
    .error (.invalidRelation "low_band_rise_per_s >= rise_per_s")
  else if Scalar.lt m.meanCeiling m.bandBoundary then
    .error (.invalidRelation "band_boundary <= mean_ceiling")
  else if Scalar.lt m.laneCeiling m.meanCeiling then
    .error (.invalidRelation "mean_ceiling <= lane_ceiling")
  else .ok ()

/-! ## The state machine -/

structure WireConstraintFlags where
  collectiveRate : Bool
  meanCeiling : Bool
  laneCeiling : Bool
  groundSqueeze : Bool
deriving DecidableEq, Repr

/-- The constraint state that survives between samples. -/
structure WireConstraints (F : Type) where
  config : XPlaneWireModel F
  lastCollective : F
  groundAlt : Option F
  airborne : Bool

/-- One mixed command. The packet it came in has as many lanes as the model has motors. -/
structure WireCommand (F : Type) where
  outputs : Vector F 16
  count : Nat
  armed : Bool
  fixAltM : Option F
  dtSec : F
  count_pos : 0 < count
  count_le : count ≤ 16

/-- The lanes in use. -/
def lanes (outputs : Vector F 16) (count : Nat) : List F := outputs.toList.take count

/-- Change every lane in use. -/
def mapLanes (outputs : Vector F 16) (count : Nat) (f : F → F) : Vector F 16 :=
  outputs.mapIdx fun i lane => if i < count then f lane else lane

/-- `iter().sum() / lanes as f32`. -/
def laneMean (outputs : Vector F 16) (count : Nat) : F :=
  (lanes outputs count).foldl (· + ·) (lit 0) / lit count

namespace WireConstraints

def new (config : XPlaneWireModel F) : WireConstraints F where
  config := config
  lastCollective := lit 0
  groundAlt := none
  airborne := false

/-- The current fix is the ground reference, and the vehicle is on its gear. -/
def arm (w : WireConstraints F) (fixAltM : Option F) : WireConstraints F :=
  { w with groundAlt := fixAltM, airborne := false }

/-- The rise limit of the band the collective is in. -/
def rise (w : WireConstraints F) : F :=
  if Scalar.lt w.lastCollective w.config.bandBoundary then w.config.lowBandRisePerS
  else w.config.risePerS

/-- The sample time that counts. -/
def sampleDt (w : WireConstraints F) (dtSec : F) : F :=
  Scalar.clamp dtSec (lit 0) w.config.maxSampleDtS

/-- The mean that the rate limits and the mean ceiling allow in place of `mean`. -/
def allowed (w : WireConstraints F) (mean : F) (armed : Bool) (dt : F) : F :=
  Scalar.min
    (if Scalar.lt w.lastCollective mean then Scalar.min (w.lastCollective + w.rise * dt) mean
    else if armed then Scalar.max (w.lastCollective - w.config.fallPerS * dt) mean
    else mean) w.config.meanCeiling

/-- The factor on the deviations from `mean` that one lane asks for. -/
def squeezeLane (mean laneCeiling squeeze lane : F) : F :=
  let dev := lane - mean
  let squeeze :=
    if Scalar.lt (lit 0) dev && Scalar.lt laneCeiling (mean + dev) then
      Scalar.min squeeze ((laneCeiling - mean) / dev)
    else squeeze
  if Scalar.lt dev (lit 0) && Scalar.lt (mean + dev) (lit 0) then
    Scalar.min squeeze (mean / -dev)
  else squeeze

/-- One factor for all lanes. -/
def squeezeFactor (mean laneCeiling : F) (lanes : List F) : F :=
  lanes.foldl (squeezeLane mean laneCeiling) (lit 1)

/-- The shift brings the mean to the allowed one, up to the clamp of each lane. -/
def shiftOutputs (shift : F) (outputs : Vector F 16) (count : Nat) : Vector F 16 :=
  if !Scalar.eq shift (lit 0) then
    mapLanes outputs count fun lane => Scalar.clamp (lane + shift) (lit 0) (lit 1)
  else outputs

/-- The outputs under the lane ceiling, and whether they had to be squeezed. -/
def squeezeOutputs (laneCeiling : F) (outputs : Vector F 16) (count : Nat) :
    Bool × Vector F 16 :=
  let meanNow := laneMean outputs count
  let squeeze := squeezeFactor meanNow laneCeiling (lanes outputs count)
  if Scalar.lt squeeze (lit 1) then
    (true, mapLanes outputs count fun lane => meanNow + (lane - meanNow) * squeeze)
  else (false, outputs)

def groundOutputs (groundSqueeze : F) (outputs : Vector F 16) (count : Nat) : Vector F 16 :=
  let newMean := laneMean outputs count
  mapLanes outputs count fun lane =>
    Scalar.clamp (newMean + (lane - newMean) * groundSqueeze) (lit 0) (lit 1)

/-- The climb above the ground reference clears the gear. -/
def clearOf (clearance : F) : Option F → Option F → Bool
  | some ground, some alt => Scalar.lt (ground + clearance) alt
  | _, _ => false

/-- One command, with the constraints that changed it. -/
def constrain (w : WireConstraints F) (x : WireCommand F) :
    WireConstraints F × Vector F 16 × WireConstraintFlags :=
  let mean := laneMean x.outputs x.count
  let allowed := w.allowed mean x.armed (w.sampleDt x.dtSec)
  let shifted := shiftOutputs (allowed - mean) x.outputs x.count
  -- the collective that is remembered is the allowed one, whatever the clamps of the shift did
  let w := { w with lastCollective := allowed }
  let (squeezed, outputs) := squeezeOutputs w.config.laneCeiling shifted x.count
  let flags : WireConstraintFlags :=
    { collectiveRate := !Scalar.eq allowed mean && Scalar.le mean w.config.meanCeiling
      meanCeiling := Scalar.lt w.config.meanCeiling mean
      laneCeiling := squeezed
      groundSqueeze := false }
  if w.airborne then (w, outputs, flags)
  else
    -- armed before the first fix: the first solution seen afterwards is the ground
    let w := { w with groundAlt := w.groundAlt <|> x.fixAltM }
    if clearOf w.config.airborneClearanceM w.groundAlt x.fixAltM then
      ({ w with airborne := true }, outputs, flags)
    else
      (w, groundOutputs w.config.groundSqueeze outputs x.count,
        { flags with groundSqueeze := true })

end WireConstraints

/-- The calls of the board. -/
inductive WireOp (F : Type) where
  | constrain (command : WireCommand F)
  | arm (fixAltM : Option F)

/-- The board's calls on the constraints; only a command is sent on. -/
def wireMachine : Machine (WireConstraints F) (WireOp F)
    (Option (Vector F 16 × WireConstraintFlags)) where
  step w
    | .constrain command =>
      let (w', sent, flags) := w.constrain command
      (w', some (sent, flags))
    | .arm fixAltM => (w.arm fixAltM, none)

end Aviate.XPlane
