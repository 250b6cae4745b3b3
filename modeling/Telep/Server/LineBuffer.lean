import Telep.Server.SocketHelpers

/-!
# The line reader with its buffer

`receive_line_until` once more, over the array that it fills: `none` stands for an index outside
the array. A C string ends at the first zero byte of its array.
-/

namespace Telep

section Buffer

variable {capacity : Nat}

/-- `buffer[n] = c` -/
def storeByte (buffer : Fin capacity → UInt8) (n : Nat) (c : UInt8) :
    Option (Fin capacity → UInt8) :=
  if h : n < capacity then some (Function.update buffer ⟨n, h⟩ c) else none

/-- `buffer[n]` -/
def loadByte (buffer : Fin capacity → UInt8) (n : Nat) : Option UInt8 :=
  if h : n < capacity then some (buffer ⟨n, h⟩) else none

/-- `n` without a carriage return at the end: `buffer[n-1]` is read only for `n` other than 0. -/
def dropReturn (buffer : Fin capacity → UInt8) (n : Nat) : Option Nat :=
  if n = 0 then some 0
  else (loadByte buffer (n - 1)).map fun last => if last = carriageReturn then n - 1 else n

/-- Whether `strchr` finds a byte; `none` when the array has no zero byte to stop at. -/
def strchr (c : UInt8) : Bytes → Option Bool
  | [] => none
  | d :: rest => if d = c then some true else if d = 0 then some false else strchr c rest

/-- The string in an array. -/
def cString (buffer : Fin capacity → UInt8) : Bytes := (List.ofFn buffer).takeWhile (· ≠ 0)

end Buffer

/-- What a call of `receive_line_until` leaves. -/
structure LineCall (capacity : Nat) where
  result : Int
  buffer : Fin capacity → UInt8
  /-- the bytes that were not received -/
  arriving : Bytes

/-- The loop of `receive_line_until` and what follows it. When the bytes end without a line feed,
`ending` is the result: 0 if the peer has closed, -1 at the deadline or for an error. -/
def receiveLineUntil (capacity : Nat) (ending : Int) (buffer : Fin capacity → UInt8) (n : Nat)
    (invalid overflow : Bool) : Bytes → Option (LineCall capacity)
  | [] => some ⟨ending, buffer, []⟩
  | c :: rest =>
      if c = lineFeed then do
        let n ← dropReturn buffer n
        let buffer ← storeByte buffer n 0
        let found ← strchr carriageReturn (List.ofFn buffer)
        let invalid := invalid || found
        return ⟨if overflow then -2 else if invalid then -3 else (n : Int) + 1, buffer, rest⟩
      else if c = carriageReturn then
        if n + 1 < capacity then
          (storeByte buffer n c).bind fun buffer =>
            receiveLineUntil capacity ending buffer (n + 1) invalid overflow rest
        else receiveLineUntil capacity ending buffer n invalid true rest
      else
        let invalid := invalid || (c < 32 || 126 < c)
        if n + 1 < capacity then
          (storeByte buffer n c).bind fun buffer =>
            receiveLineUntil capacity ending buffer (n + 1) invalid overflow rest
        else receiveLineUntil capacity ending buffer n invalid true rest

/-- The results of `count` calls, each with the string in the buffer after it, and the bytes that
none of them received. -/
def receiveCalls (capacity : Nat) (ending : Int) :
    Nat → (Fin capacity → UInt8) → Bytes → Option (List (Int × Bytes) × Bytes)
  | 0, _, arriving => some ([], arriving)
  | count + 1, buffer, arriving => do
      let call ← receiveLineUntil capacity ending buffer 0 false false arriving
      let (calls, rest) ← receiveCalls capacity ending count call.buffer call.arriving
      return ((call.result, cString call.buffer) :: calls, rest)

end Telep
