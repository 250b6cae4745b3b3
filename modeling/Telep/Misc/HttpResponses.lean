import Telep.Misc.Decoders
import Telep.Misc.Text

/-!
# Responses of HTTP/1.1

A response as a client reads it: the status line, the fields up to the empty line, and as many bytes
of a body as `Content-Length` says. The decoder is exact for a printed response, so a client never
takes a part of a response for a whole one (`exact_readResponse`).
-/

namespace Telep

def crlf : Bytes := [carriageReturn, lineFeed]

structure Response where
  status : Nat
  fields : List (Bytes × Bytes)
  body : Bytes
  deriving DecidableEq

namespace Response

variable {reason : Bytes} {r : Response}

/-- The line of a field. -/
def fieldText (field : Bytes × Bytes) : Bytes := field.1 ++ ascii ": " ++ field.2

/-- The status line, the lines of the fields and an empty line. -/
def head (reason : Bytes) (r : Response) : Bytes :=
  ascii "HTTP/1.1 " ++ decimal r.status ++ ascii " " ++ reason ++ crlf ++
    (r.fields.flatMap fun field => fieldText field ++ crlf) ++ crlf

end Response

/-! ## Reading -/

/-- A number of decimal digits. -/
def readDecimal (text : Bytes) : Option Nat :=
  if text ≠ [] ∧ ∀ c ∈ text, 48 ≤ c ∧ c ≤ 57 then
    some (Nat.ofDigits 10 (text.reverse.map fun c => c.toNat - 48))
  else none

/-- A line that ends with a carriage return and a line feed. -/
def readLine : Decoder UInt8 Bytes := do
  let line ← Decoder.upTo lineFeed
  Decoder.lift (if line.getLast? = some carriageReturn then some line.dropLast else none)

/-- The status of a status line. -/
def statusOf (line : Bytes) : Option Nat :=
  match line.splitOn 32 with
  | version :: status :: _ => if version = ascii "HTTP/1.1" then readDecimal status else none
  | _ => none

/-- The name and the value of a field. -/
def fieldOf (line : Bytes) : Option (Bytes × Bytes) :=
  if (58 : UInt8) ∈ line then
    some (line.takeWhile (· ≠ 58), ((line.dropWhile (· ≠ 58)).drop 1).dropWhile (· = 32))
  else none

/-- A field, or the empty line after the last one. -/
def readField : Decoder UInt8 (Option (Bytes × Bytes)) := do
  let line ← readLine
  if line = [] then return none
  Decoder.lift ((fieldOf line).map some)

/-- A response with fewer fields than the limit. -/
def readResponse (limit : Nat) : Decoder UInt8 Response := do
  let status ← Decoder.lift (statusOf (← readLine))
  let fields ← Decoder.many readField limit
  let length ← Decoder.lift ((fields.lookup (ascii "Content-Length")).bind readDecimal)
  return ⟨status, fields, ← Decoder.take length⟩

/-! ## Exactness -/

open Decoder

theorem readDecimal_decimal (n : Nat) : readDecimal (decimal n) = some n := by
  rw [readDecimal, if_pos ⟨decimal_ne_nil n, decimal_digits n⟩, decimal]
  split
  · next zero => rw [zero]; rfl
  · have digit : ∀ d ∈ Nat.digits 10 n,
        ((fun c : UInt8 => c.toNat - 48) ∘ fun d => UInt8.ofNat (48 + d)) d = d := by
      intro d member
      have small := Nat.digits_lt_base (by decide : 1 < 10) member
      show (UInt8.ofNat (48 + d)).toNat - 48 = d
      rw [UInt8.toNat_ofNat', Nat.mod_eq_of_lt (by omega)]
      omega
    rw [← List.map_reverse, List.reverse_reverse, List.map_map, List.map_congr_left digit,
      List.map_id', Nat.ofDigits_digits]

theorem exact_readLine {line : Bytes} (clean : lineFeed ∉ line) :
    Exact readLine (line ++ crlf) line := by
  have frame : lineFeed ∉ line ++ [carriageReturn] := by
    rw [List.mem_append, not_or]
    exact ⟨clean, by decide⟩
  have first := exact_upTo frame
  rw [List.append_assoc] at first
  refine first.then (exact_lift ?_)
  rw [List.getLast?_concat, if_pos rfl, List.dropLast_concat]

/-- A field that is read back. -/
structure IsHttpField (field : Bytes × Bytes) : Prop where
  name : (58 : UInt8) ∉ field.1
  line : lineFeed ∉ field.1 ++ field.2
  value : field.2.head? ≠ some 32

variable {field : Bytes × Bytes} {reason : Bytes} {r : Response} {limit : Nat}

theorem fieldOf_fieldText (http : IsHttpField field) :
    fieldOf (Response.fieldText field) = some field := by
  have before : ∀ c ∈ field.1, decide (c ≠ 58) = true := fun c member =>
    decide_eq_true fun same => http.name (same ▸ member)
  have text : Response.fieldText field = field.1 ++ 58 :: 32 :: field.2 := by
    rw [Response.fieldText, List.append_assoc]
    rfl
  rw [fieldOf, text, if_pos (List.mem_append_right _ List.mem_cons_self),
    List.takeWhile_append_of_pos before, List.dropWhile_append_of_pos before]
  have value : List.dropWhile (· = 32) field.2 = field.2 := by
    have first := http.value
    cases text : field.2 with
    | nil => rfl
    | cons c rest =>
      rw [text] at first
      exact List.dropWhile_cons_of_neg fun blank =>
        first (congrArg _ (of_decide_eq_true blank))
  simp [value]

theorem exact_readField (http : IsHttpField field) :
    Exact readField (Response.fieldText field ++ crlf) (some field) := by
  have clean : lineFeed ∉ Response.fieldText field := by
    have line := http.line
    rw [List.mem_append, not_or] at line
    rw [Response.fieldText, List.mem_append, List.mem_append]
    simp only [line.1, line.2, false_or, or_false]
    decide
  refine (exact_readLine clean).then ?_
  rw [if_neg (by simp [Response.fieldText, ascii])]
  exact exact_lift (by rw [fieldOf_fieldText http]; rfl)

theorem exact_readField_last : Exact readField crlf none := by
  refine (@exact_readLine [] List.not_mem_nil).then ?_
  exact exact_pure _

/-- A response that is read back. -/
structure Response.Readable (reason : Bytes) (r : Response) : Prop where
  reason : lineFeed ∉ reason
  fields : ∀ field ∈ r.fields, IsHttpField field
  length : r.fields.lookup (ascii "Content-Length") = some (decimal r.body.length)

theorem statusOf_line (status : Nat) (reason : Bytes) :
    statusOf (ascii "HTTP/1.1 " ++ decimal status ++ ascii " " ++ reason) = some status := by
  have digits : (32 : UInt8) ∉ decimal status := fun member =>
    absurd (decimal_digits status _ member).1 (by decide)
  have version : (32 : UInt8) ∉ ascii "HTTP/1.1" := by decide
  have line : ascii "HTTP/1.1 " ++ decimal status ++ ascii " " ++ reason =
      ascii "HTTP/1.1" ++ 32 :: (decimal status ++ 32 :: reason) := by
    simp only [List.append_assoc]
    rfl
  rw [statusOf, line, List.splitOn_append_cons_self_of_not_mem version,
    List.splitOn_append_cons_self_of_not_mem digits]
  dsimp only
  rw [if_pos rfl, readDecimal_decimal]

/-- The whole of a response is read, and nothing from a part of it. -/
theorem exact_readResponse (readable : r.Readable reason) (few : r.fields.length < limit) :
    Exact (readResponse limit) (r.head reason ++ r.body) r := by
  have clean : lineFeed ∉ ascii "HTTP/1.1 " ++ decimal r.status ++ ascii " " ++ reason := by
    have digits : lineFeed ∉ decimal r.status := fun member =>
      absurd (decimal_digits _ _ member).1 (by decide)
    simp only [List.mem_append, digits, readable.reason, or_false]
    decide
  have lines := exact_many (fun field member => exact_readField (readable.fields field member))
    exact_readField_last few
  have known : (r.fields.lookup (ascii "Content-Length")).bind readDecimal =
      some r.body.length := by
    rw [readable.length]
    exact readDecimal_decimal _
  unfold Response.head readResponse
  rw [List.append_assoc, List.append_assoc]
  refine (exact_readLine clean).bind ?_
  refine (exact_lift (statusOf_line _ _)).silent ?_
  rw [← List.append_assoc (List.flatMap _ _)]
  refine lines.bind ?_
  refine (exact_lift known).silent ?_
  exact (exact_take r.body).then (exact_pure _)

end Telep
