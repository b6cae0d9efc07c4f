import Mathlib.Data.List.Infix

/-! The I/O the save path runs against: a field body behind `BufRead`, the `Take` adapter
`try_copy_limited` puts over it, and writers whose `write` calls answer from a script. -/

namespace Multipart

/-- The kinds of `io::Error` the save path tells apart; `other` is every remaining failure. -/
inductive ErrorKind
  | interrupted
  | invalidData
  | writeZero
  | other (code : Nat)
  deriving DecidableEq, Repr

/-- An `io::Error`, known by its kind: no modelled function reads its payload. -/
structure IoError where
  kind : ErrorKind
  deriving DecidableEq, Repr

/-- One refill of a buffered reader: a non-empty run of bytes, or a failure. -/
inductive Fill
  | chunk (head : UInt8) (tail : List UInt8)
  | fail (error : IoError)
  deriving DecidableEq, Repr

def Fill.bytes : Fill → List UInt8
  | .chunk head tail => head :: tail
  | .fail _ => []

def Fill.isFail : Fill → Bool
  | .chunk .. => false
  | .fail _ => true

/-- A field body behind `BufRead`: the refills it still has to give, in order. Once they
run out the body is at its end. -/
structure Body where
  fills : List Fill
  deriving DecidableEq, Repr

namespace Body

/-- `fill_buf`: the current chunk, left in place, or the next failure, used up. -/
def fillBuf (body : Body) : Except IoError (List UInt8) × Body :=
  match body.fills with
  | [] => (.ok [], body)
  | .chunk head tail :: _ => (.ok (head :: tail), body)
  | .fail error :: fills => (.error error, ⟨fills⟩)

/-- `consume`: drop bytes of the current chunk (never past its end). -/
def consume (amount : Nat) (body : Body) : Body :=
  match body.fills with
  | .chunk head tail :: fills =>
    match (head :: tail).drop amount with
    | [] => ⟨fills⟩
    | next :: more => ⟨.chunk next more :: fills⟩
  | _ => body

/-- The bytes still to be read. -/
def rest (body : Body) : List UInt8 := body.fills.flatMap Fill.bytes

/-- The failures still to be reported. -/
def failures (body : Body) : Nat := body.fills.countP Fill.isFail

theorem fillBuf_ok {body body' : Body} {buf : List UInt8} (filled : body.fillBuf = (.ok buf, body')) :
    body' = body ∧ buf <+: body.rest ∧ (buf = [] → body.rest = []) := by
  rcases body with ⟨_ | ⟨_ | _, fills⟩⟩ <;> simp only [fillBuf, Prod.mk.injEq] at filled
  all_goals obtain ⟨⟨⟩, rfl⟩ := filled
  all_goals simp [rest, Fill.bytes]

theorem fillBuf_error {body body' : Body} {error : IoError}
    (filled : body.fillBuf = (.error error, body')) :
    body'.rest = body.rest ∧ body'.failures < body.failures := by
  rcases body with ⟨_ | ⟨_ | _, fills⟩⟩ <;>
    simp only [fillBuf, Prod.mk.injEq, reduceCtorEq, false_and] at filled
  obtain ⟨⟨⟩, rfl⟩ := filled
  simp [rest, failures, Fill.bytes, Fill.isFail]

theorem consume_rest {body : Body} {buf : List UInt8} {amount : Nat}
    (filled : body.fillBuf.1 = .ok buf) (within : amount ≤ buf.length) :
    (body.consume amount).rest = body.rest.drop amount ∧
      (body.consume amount).failures ≤ body.failures := by
  rcases body with ⟨_ | ⟨_ | _, fills⟩⟩ <;>
    simp only [fillBuf, Except.ok.injEq, reduceCtorEq] at filled
  · subst filled
    simp [consume, Nat.le_zero.mp within]
  · rename_i head tail
    subst filled
    have dropped := @List.drop_append_of_le_length _ _ (fills.flatMap Fill.bytes) _ within
    simp only [consume, rest, failures, List.flatMap_cons, Fill.bytes, List.countP_cons,
      Fill.isFail, dropped]
    split <;> rename_i split_eq <;> simp [split_eq, Fill.bytes, Fill.isFail]

end Body

/-- `Read::take`: a reader cut off after `limit` more bytes. -/
structure Take (σ : Type) where
  inner : σ
  limit : Nat

/-- `BufRead` together with the contract the copy loops rely on: `rest` is what is left to
read, and `failures` counts the failures still to come. -/
class BufRead (σ : Type) where
  fillBuf : σ → Except IoError (List UInt8) × σ
  consume : Nat → σ → σ
  rest : σ → List UInt8
  failures : σ → Nat
  fillBuf_ok {src src' : σ} {buf : List UInt8} : fillBuf src = (.ok buf, src') →
    src' = src ∧ buf <+: rest src ∧ (buf = [] → rest src = [])
  fillBuf_error {src src' : σ} {error : IoError} : fillBuf src = (.error error, src') →
    rest src' = rest src ∧ failures src' < failures src
  consume_rest {src : σ} {buf : List UInt8} {amount : Nat} : (fillBuf src).1 = .ok buf →
    amount ≤ buf.length →
    rest (consume amount src) = (rest src).drop amount ∧ failures (consume amount src) ≤ failures src

instance : BufRead Body where
  fillBuf := Body.fillBuf
  consume := Body.consume
  rest := Body.rest
  failures := Body.failures
  fillBuf_ok := Body.fillBuf_ok
  fillBuf_error := Body.fillBuf_error
  consume_rest := Body.consume_rest

@[simp] theorem Body.bufRead_rest (body : Body) : BufRead.rest body = body.rest := rfl

@[simp] theorem Body.bufRead_failures (body : Body) : BufRead.failures body = body.failures := rfl

@[simp] theorem Body.bufRead_fillBuf (body : Body) : BufRead.fillBuf body = body.fillBuf := rfl

namespace Take

variable {σ : Type} [BufRead σ]

/-- `Take::fill_buf`: at the limit it answers empty without asking the inner reader. -/
def fillBuf (take : Take σ) : Except IoError (List UInt8) × Take σ :=
  if take.limit = 0 then (.ok [], take) else
    match BufRead.fillBuf take.inner with
    | (.ok buf, inner) => (.ok (buf.take take.limit), ⟨inner, take.limit⟩)
    | (.error error, inner) => (.error error, ⟨inner, take.limit⟩)

/-- `Take::consume`: never lets a caller consume past the limit. -/
def consume (amount : Nat) (take : Take σ) : Take σ :=
  ⟨BufRead.consume (min amount take.limit) take.inner, take.limit - min amount take.limit⟩

def rest (take : Take σ) : List UInt8 := (BufRead.rest take.inner).take take.limit

def failures (take : Take σ) : Nat := if take.limit = 0 then 0 else BufRead.failures take.inner

theorem fillBuf_inner {take : Take σ} {result : Except IoError (List UInt8)} {take' : Take σ}
    (filled : take.fillBuf = (result, take')) (open_ : take.limit ≠ 0) :
    take'.limit = take.limit ∧ ∃ inner, BufRead.fillBuf take.inner = (inner, take'.inner) ∧
      result = inner.map (List.take take.limit) := by
  simp only [fillBuf, open_, if_false] at filled
  split at filled <;> simp only [Prod.mk.injEq] at filled <;> obtain ⟨rfl, rfl⟩ := filled
  · exact ⟨rfl, .ok _, ‹_›, rfl⟩
  · exact ⟨rfl, .error _, ‹_›, rfl⟩

theorem fillBuf_ok {take take' : Take σ} {buf : List UInt8} (filled : take.fillBuf = (.ok buf, take')) :
    take' = take ∧ buf <+: take.rest ∧ (buf = [] → take.rest = []) := by
  by_cases closed : take.limit = 0
  · simp only [fillBuf, closed, if_true, Prod.mk.injEq, Except.ok.injEq] at filled
    obtain ⟨rfl, rfl⟩ := filled
    simp [rest, closed]
  obtain ⟨same, inner, innerFilled, result⟩ := fillBuf_inner filled closed
  rcases inner with _ | innerBuf <;> simp only [Except.map, Except.ok.injEq, reduceCtorEq] at result
  obtain ⟨innerSame, prefix_, ended⟩ := BufRead.fillBuf_ok innerFilled
  have unchanged : take' = take := by cases take; cases take'; simp_all
  refine ⟨unchanged, result ▸ prefix_.take _, fun empty => ?_⟩
  simp only [result, List.take_eq_nil_iff, closed, false_or] at empty
  simp [rest, ended empty]

theorem fillBuf_error {take take' : Take σ} {error : IoError}
    (filled : take.fillBuf = (.error error, take')) :
    take'.rest = take.rest ∧ take'.failures < take.failures := by
  by_cases closed : take.limit = 0
  · simp [fillBuf, closed] at filled
  obtain ⟨same, inner, innerFilled, result⟩ := fillBuf_inner filled closed
  rcases inner with innerError | _ <;> simp only [Except.map, reduceCtorEq] at result
  obtain ⟨unchanged, fewer⟩ := BufRead.fillBuf_error innerFilled
  simp [rest, failures, same, closed, unchanged, fewer]

theorem consume_rest {take : Take σ} {buf : List UInt8} {amount : Nat}
    (filled : take.fillBuf.1 = .ok buf) (within : amount ≤ buf.length) :
    (take.consume amount).rest = take.rest.drop amount ∧
      (take.consume amount).failures ≤ take.failures := by
  by_cases closed : take.limit = 0
  · simp [consume, rest, failures, closed]
  obtain ⟨same, inner, innerFilled, result⟩ := fillBuf_inner (@Prod.mk.eta _ _ take.fillBuf).symm closed
  rw [filled] at result
  rcases inner with _ | innerBuf <;> simp only [Except.map, Except.ok.injEq, reduceCtorEq] at result
  have bounded : amount ≤ take.limit := by
    have := congrArg List.length result; simp at this; omega
  have innerWithin : amount ≤ innerBuf.length := by
    have := congrArg List.length result; simp at this; omega
  obtain ⟨dropped, fewer⟩ := BufRead.consume_rest (congrArg Prod.fst innerFilled) innerWithin
  simp only [consume, rest, failures, Nat.min_eq_left bounded, dropped, List.drop_take, true_and]
  split <;> simp_all

/-- What the inner reader has left is untouched by a failed refill. -/
theorem inner_rest_error {take take' : Take σ} {error : IoError}
    (filled : take.fillBuf = (.error error, take')) :
    BufRead.rest take'.inner = BufRead.rest take.inner := by
  by_cases closed : take.limit = 0
  · simp [fillBuf, closed] at filled
  obtain ⟨-, inner, innerFilled, result⟩ := fillBuf_inner filled closed
  rcases inner with innerError | _ <;> simp only [Except.map, reduceCtorEq] at result
  exact (BufRead.fillBuf_error innerFilled).1

/-- Consuming from the cut-off reader consumes the same bytes from the inner one. -/
theorem inner_rest_consume {take : Take σ} {buf : List UInt8} {amount : Nat}
    (filled : take.fillBuf.1 = .ok buf) (nonempty : buf ≠ []) (within : amount ≤ buf.length) :
    BufRead.rest (take.consume amount).inner = (BufRead.rest take.inner).drop amount ∧
      BufRead.failures (take.consume amount).inner ≤ BufRead.failures take.inner := by
  by_cases closed : take.limit = 0
  · simp [fillBuf, closed] at filled; exact absurd filled nonempty
  obtain ⟨-, inner, innerFilled, result⟩ := fillBuf_inner (@Prod.mk.eta _ _ take.fillBuf).symm closed
  rw [filled] at result
  rcases inner with _ | innerBuf <;> simp only [Except.map, Except.ok.injEq, reduceCtorEq] at result
  have lengths := congrArg List.length result
  simp only [List.length_take] at lengths
  have bounded : amount ≤ take.limit := by omega
  simpa [consume, Nat.min_eq_left bounded] using
    BufRead.consume_rest (congrArg Prod.fst innerFilled) (by omega : amount ≤ innerBuf.length)

/-- A failed refill of the cut-off reader is a failed refill of the inner one. -/
theorem inner_failures_error {take take' : Take σ} {error : IoError}
    (filled : take.fillBuf = (.error error, take')) :
    BufRead.failures take'.inner < BufRead.failures take.inner := by
  by_cases closed : take.limit = 0
  · simp [fillBuf, closed] at filled
  obtain ⟨-, inner, innerFilled, result⟩ := fillBuf_inner filled closed
  rcases inner with innerError | _ <;> simp only [Except.map, reduceCtorEq] at result
  exact (BufRead.fillBuf_error innerFilled).2

end Take

instance {σ : Type} [BufRead σ] : BufRead (Take σ) where
  fillBuf := Take.fillBuf
  consume := Take.consume
  rest := Take.rest
  failures := Take.failures
  fillBuf_ok := Take.fillBuf_ok
  fillBuf_error := Take.fillBuf_error
  consume_rest := Take.consume_rest

@[simp] theorem Take.bufRead_rest {σ : Type} [BufRead σ] (take : Take σ) :
    BufRead.rest take = (BufRead.rest take.inner).take take.limit := rfl

@[simp] theorem Take.bufRead_failures {σ : Type} [BufRead σ] (take : Take σ) :
    BufRead.failures take = if take.limit = 0 then 0 else BufRead.failures take.inner := rfl

/-- One `write` call's answer: accept up to `amount` of the bytes offered, or fail. -/
inductive Write
  | accept (amount : Nat)
  | fail (error : IoError)
  deriving DecidableEq, Repr

/-- A writer: the answers of its next `write` calls (once they run out it takes all it is
offered), and every byte it has taken. -/
structure Writer where
  writes : List Write
  written : List UInt8
  deriving DecidableEq, Repr

namespace Writer

/-- `Write::write`, which never reports more bytes than it was offered. -/
def write (buf : List UInt8) (dest : Writer) : Except IoError Nat × Writer :=
  match dest.writes with
  | [] => (.ok buf.length, { dest with written := dest.written ++ buf })
  | .accept amount :: writes => (.ok (min amount buf.length), ⟨writes, dest.written ++ buf.take amount⟩)
  | .fail error :: writes => (.error error, { dest with writes })

/-- `Vec::new()` as a writer: it takes every byte it is offered. -/
def vec : Writer := ⟨[], []⟩

theorem write_ok {buf : List UInt8} {dest dest' : Writer} {copied : Nat}
    (wrote : dest.write buf = (.ok copied, dest')) :
    copied ≤ buf.length ∧ dest'.written = dest.written ++ buf.take copied ∧
      dest'.writes.length ≤ dest.writes.length ∧ (dest.writes = [] → copied = buf.length) := by
  rcases dest with ⟨_ | ⟨_ | _, writes⟩, written⟩ <;>
    simp only [write, Prod.mk.injEq, Except.ok.injEq, reduceCtorEq, false_and] at wrote
  all_goals obtain ⟨rfl, rfl⟩ := wrote
  · simp
  · exact ⟨Nat.min_le_right _ _, by rw [← List.take_take, List.take_length], Nat.le_succ _, nofun⟩

theorem write_error {buf : List UInt8} {dest dest' : Writer} {error : IoError}
    (wrote : dest.write buf = (.error error, dest')) :
    dest'.written = dest.written ∧ dest'.writes.length < dest.writes.length := by
  rcases dest with ⟨_ | ⟨_ | _, writes⟩, written⟩ <;>
    simp only [write, Prod.mk.injEq, Except.error.injEq, reduceCtorEq, false_and] at wrote
  obtain ⟨rfl, rfl⟩ := wrote
  simp

/-- A writer that never fails and takes at least one byte on every `write` call. -/
def Reliable (dest : Writer) : Prop := ∀ answer ∈ dest.writes, ∃ amount, answer = .accept (amount + 1)

theorem reliable_vec : vec.Reliable := fun _ absent => nomatch absent

theorem write_reliable {buf : List UInt8} {dest : Writer} (reliable : dest.Reliable)
    (nonempty : buf ≠ []) :
    ∃ copied dest', dest.write buf = (.ok (copied + 1), dest') ∧ dest'.Reliable := by
  have positive := List.length_pos.mpr nonempty
  rcases dest with ⟨_ | ⟨answer, writes⟩, written⟩
  · exact ⟨buf.length - 1, ⟨[], written ++ buf⟩, by simp [write]; omega, by simp [Reliable]⟩
  · obtain ⟨amount, rfl⟩ := reliable answer (List.mem_cons_self _ _)
    refine ⟨min amount (buf.length - 1), ⟨writes, written ++ buf.take (amount + 1)⟩,
      by simp [write]; omega, ?_⟩
    exact fun answer member => reliable answer (List.mem_cons_of_mem _ member)

end Writer

end Multipart
