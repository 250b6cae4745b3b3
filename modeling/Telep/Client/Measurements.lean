import Telep.Client.Telep

/-!
# What a node measures (`node.py`, and the measurements of `telep.py`)

`parse_arguments`, `take_measurements`, `omitted_by_drop` and the texts that the main loop hands to
`encode_message`. Python's `float` and `str.upper` are parameters; the numbers of the node are
exact rationals. A dictionary is the list of its entries in the order of their insertion.
-/

namespace Telep

universe u

/-- `d[key] = value` -/
def dictSet {α : Type u} (d : List (Bytes × α)) (key : Bytes) (value : α) : List (Bytes × α) :=
  if key ∈ d.map Prod.fst then d.map fun e => if e.1 = key then (key, value) else e
  else d ++ [(key, value)]

/-- `d.update(e)` -/
def dictUpdate {α : Type u} (d e : List (Bytes × α)) : List (Bytes × α) :=
  e.foldl (fun d entry => dictSet d entry.1 entry.2) d

/-- `SIMULATED_VARIABLES`, without the parameters of the draws. -/
def simulatedVariables : List Bytes := [ascii "TEMP", ascii "HUM", ascii "POWER", ascii "VIB"]

/-- `RANGES` -/
def ranges (key : Bytes) : Option (ℚ × ℚ) :=
  if key = ascii "TEMP" then some (-100, 200)
  else if key = ascii "HUM" then some (0, 100)
  else if key = ascii "POWER" then some (0, 1000000)
  else if key = ascii "VIB" then some (0, 1000)
  else none

/-! ## The arguments -/

/-- `re.fullmatch(r"[A-Za-z0-9_-]{1,15}", text)` -/
def matchesId (text : Bytes) : Bool :=
  1 ≤ text.length ∧ text.length ≤ 15 ∧
    ∀ c ∈ text, (65 ≤ c ∧ c ≤ 90) ∨ (97 ≤ c ∧ c ≤ 122) ∨ (48 ≤ c ∧ c ≤ 57) ∨ c = 95 ∨ c = 45

/-- `re.fullmatch(r"[0-9a-f]{32}", text)` -/
def matchesSession (text : Bytes) : Bool :=
  text.length = 32 ∧ ∀ c ∈ text, (48 ≤ c ∧ c ≤ 57) ∨ (97 ≤ c ∧ c ≤ 102)

/-- The arguments as `argparse` returns them; a float that is not finite is `none`. -/
structure RawArguments where
  id : Bytes
  interval : Option ℚ
  count : Int
  drop : Option ℚ
  dnsRefresh : Option ℚ
  session : Bytes
  spike : List Bytes
  failStatus : Bool

/-- The arguments that `parse_arguments` returns. -/
structure NodeConfig where
  id : Bytes
  interval : ℚ
  count : Nat
  drop : ℚ
  dnsRefresh : ℚ
  session : Bytes
  forced : List (Bytes × ℚ)
  failStatus : Bool
  deriving DecidableEq

/-- Whether a float is finite and in a closed interval. -/
def finiteWithin (value : Option ℚ) (low high : ℚ) : Option ℚ :=
  value.bind fun v => if low ≤ v ∧ v ≤ high then some v else none

/-- The body of the loop over the spikes; `float` returns `none` where it raises `ValueError` and
for a number that is not finite. -/
def parseSpike (float : Bytes → Option ℚ) (upper : Bytes → Bytes) (forced : List (Bytes × ℚ))
    (spec : Bytes) : Option (List (Bytes × ℚ)) :=
  if equalsSign ∉ spec then none
  else do
    let key := upper (spec.takeWhile (· ≠ equalsSign))
    let value ← float ((spec.dropWhile (· ≠ equalsSign)).drop 1)
    let (low, high) ← ranges key
    if low ≤ value ∧ value ≤ high then some (dictSet forced key value) else none

/-- `parse_arguments`; `none` where it ends with an error. -/
def parseArguments (float : Bytes → Option ℚ) (upper : Bytes → Bytes) (a : RawArguments) :
    Option NodeConfig :=
  if ¬ matchesId a.id then none
  else if ¬ matchesSession a.session then none
  else do
    let interval ← finiteWithin a.interval (1 / 100) 3600
    let dnsRefresh ← finiteWithin a.dnsRefresh 1 3600
    let drop ← finiteWithin a.drop 0 100
    if 1 ≤ a.count ∧ a.count ≤ sessionLimit then
      let forced ← a.spike.foldlM (parseSpike float upper) []
      return { id := a.id, interval := interval, count := a.count.toNat, drop := drop,
               dnsRefresh := dnsRefresh, session := a.session, forced := forced,
               failStatus := a.failStatus }
    else none

/-! ## The measurements -/

/-- A value of the dictionary of measurements. -/
inductive Measured where
  | number (value : ℚ)
  | text (value : Bytes)
  deriving DecidableEq

/-- `min(RANGES[k][1], max(RANGES[k][0], drawn))` -/
def clamp (key : Bytes) (drawn : ℚ) : ℚ :=
  match ranges key with
  | some (low, high) => min high (max low drawn)
  | none => drawn

/-- `take_measurements`; `draw` is what `random.gauss` returns for each variable. -/
def takeMeasurements (draw : Bytes → ℚ) (forcedValues : List (Bytes × ℚ)) (failStatus : Bool) :
    List (Bytes × Measured) :=
  let values := simulatedVariables.map fun k => (k, clamp k (draw k))
  let values := (dictUpdate values forcedValues).map fun e => (e.1, Measured.number e.2)
  dictSet values (ascii "STATUS") (.text (if failStatus then ascii "FAIL" else ascii "OK"))

/-- `int` of a number: what stands before the point. -/
def truncated (q : ℚ) : ℤ := if q < 0 then q.ceil else q.floor

/-- `omitted_by_drop` -/
def omittedByDrop (sequence : Nat) (percentage : ℚ) : Bool :=
  truncated ((sequence + 1) * percentage / 100) > truncated (sequence * percentage / 100)

/-- `value if isinstance(value, str) else f"{value:.2f}"` -/
def Measured.encoded : Measured → Bytes
  | text value => value
  | number value => formatFixed2 value

/-- `encode_measurements` -/
def encodeMeasurements (measurements : List (Bytes × Measured)) : Bytes :=
  List.intercalate [pairSeparator] <| measurements.map fun e => e.1 ++ equalsSign :: e.2.encoded

/-- `pair.split("=", 1)` with two parts, `none` where `dict` raises `ValueError`. -/
def splitPair (pair : Bytes) : Option (Bytes × Bytes) :=
  if equalsSign ∈ pair then
    some (pair.takeWhile (· ≠ equalsSign), (pair.dropWhile (· ≠ equalsSign)).drop 1)
  else none

/-- `decode_measurements` -/
def decodeMeasurements (field : Bytes) : Option (List (Bytes × Bytes)) :=
  if field = [] ∨ equalsSign ∉ field then some []
  else ((field.splitOn pairSeparator).mapM splitPair).map (dictUpdate [])

/-- What the main loop hands to `encode_message` after `TELEMETRY`. -/
def telemetryFields (id session : Bytes) (seq : Nat) (measurements : List (Bytes × Measured)) :
    List Bytes := [id, session, decimal seq, encodeMeasurements measurements]

end Telep
